set_option autoImplicit false

namespace RespStore

abbrev Bytes := List UInt8

namespace Bytes

def cr : UInt8 := 13

def lf : UInt8 := 10

def crlf : Bytes := [cr, lf]

/-- Reads on to the first CR LF pair. `before` holds the bytes already passed, latest first. -/
def splitLineAfter (before : Bytes) : Bytes → Option (Bytes × Bytes)
  | a :: b :: rest =>
    if a = cr ∧ b = lf then some (before.reverse, rest)
    else splitLineAfter (a :: before) (b :: rest)
  | _ => none

/-- The bytes before the first CR LF pair and those after it. -/
def splitLine (s : Bytes) : Option (Bytes × Bytes) :=
  splitLineAfter [] s

theorem splitLineAfter_append {line : Bytes} (h : ¬ crlf <:+: line) (before rest : Bytes) :
    splitLineAfter before (line ++ crlf ++ rest) = some (before.reverse ++ line, rest) := by
  induction line generalizing before with
  | nil => simp [splitLineAfter, crlf]
  | cons a line ih =>
    have htail : ¬ crlf <:+: line := fun hline => h (List.infix_cons hline)
    have hstep : splitLineAfter before (a :: line ++ crlf ++ rest) =
        splitLineAfter (a :: before) (line ++ crlf ++ rest) := by
      cases line with
      | nil => simp [splitLineAfter, crlf, cr, lf]
      | cons b line =>
        have hab : ¬ (a = cr ∧ b = lf) := by
          rintro ⟨rfl, rfl⟩
          exact h ⟨[], line, rfl⟩
        simp [splitLineAfter, hab]
    rw [hstep, ih htail]
    simp

theorem exists_of_splitLineAfter {before s line rest : Bytes}
    (h : splitLineAfter before s = some (line, rest)) :
    ∃ t, line = before.reverse ++ t ∧ s = t ++ crlf ++ rest ∧ ¬ crlf <:+: t := by
  fun_induction splitLineAfter before s with
  | case1 before a b tail hab =>
    obtain ⟨rfl, rfl⟩ := hab
    obtain ⟨rfl, rfl⟩ := by simpa using h
    exact ⟨[], by simp, by simp [crlf], by simp [crlf]⟩
  | case2 before a b tail hab ih =>
    obtain ⟨t, hline, hs, ht⟩ := ih h
    refine ⟨a :: t, by simp [hline], by simp [hs], fun hinfix => ?_⟩
    rcases List.infix_cons_iff.1 hinfix with ⟨u, hu⟩ | hinfix
    · obtain ⟨rfl, rfl⟩ := by simpa [crlf] using hu
      simp only [List.cons_append, List.cons.injEq] at hs
      exact hab ⟨rfl, hs.1⟩
    · exact ht hinfix
  | case3 => simp at h

/-- The line, its end and what follows are the whole input, and no line end is passed over. -/
theorem splitLine_eq_some_iff {s line rest : Bytes} :
    splitLine s = some (line, rest) ↔ s = line ++ crlf ++ rest ∧ ¬ crlf <:+: line := by
  constructor
  · intro h
    obtain ⟨t, rfl, hs, ht⟩ := exists_of_splitLineAfter h
    exact ⟨by simpa using hs, by simpa using ht⟩
  · rintro ⟨rfl, hline⟩
    simpa [splitLine] using splitLineAfter_append hline [] rest

theorem length_of_splitLine {s line rest : Bytes} (h : splitLine s = some (line, rest)) :
    s.length = line.length + 2 + rest.length := by
  rw [(splitLine_eq_some_iff.1 h).1]
  simp [crlf]
  omega

/-- Cuts into pieces of `size` bytes, or of one byte if `size` is zero; the last may be shorter. -/
def pieces (size : Nat) : Bytes → List Bytes
  | [] => []
  | b :: rest => (b :: rest.take (size - 1)) :: pieces size (rest.drop (size - 1))
termination_by s => s.length
decreasing_by simp only [List.length_drop, List.length_cons]; omega

theorem flatten_pieces (size : Nat) (s : Bytes) : (pieces size s).flatten = s := by
  fun_induction pieces size s with
  | case1 => rfl
  | case2 b rest ih => rw [List.flatten_cons, ih, List.cons_append, List.take_append_drop]

end Bytes

end RespStore
