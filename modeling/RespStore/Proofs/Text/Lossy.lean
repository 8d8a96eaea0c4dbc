import Mathlib.Data.Nat.Find
import RespStore.Proofs.Text.Utf8

/-!
# Texts of bytes that need not be UTF-8

`Lossy` says which text bytes are read as, apart from how they are read: characters where their
bytes stand, and one U+FFFD for each longest start of a character that is not continued, or for a
byte that starts none. `lossy_iff` says that decoding gives this text.
-/

set_option autoImplicit false

namespace RespStore.Text.Utf8

def Begins (s : Bytes) : Prop := ∃ c, s <+: String.utf8EncodeChar c

/-- `bad` stands at the front of `s`, where no character does. -/
structure Spoiled (bad s : Bytes) : Prop where
  front : bad <+: s
  nonempty : bad ≠ []
  broken : ∀ c, ¬ String.utf8EncodeChar c <+: s
  begins : Begins bad ∨ bad.length = 1
  longest : ∀ longer, longer <+: s → bad.length < longer.length → ¬ Begins longer

inductive Lossy : Bytes → List Char → Prop where
  | nil : Lossy [] []
  | char (c : Char) {rest : Bytes} {cs : List Char} (hrest : Lossy rest cs) :
      Lossy (String.utf8EncodeChar c ++ rest) (c :: cs)
  | spoiled {bad rest : Bytes} {cs : List Char} (hbad : Spoiled bad (bad ++ rest))
      (hrest : Lossy rest cs) : Lossy (bad ++ rest) ('\uFFFD' :: cs)

theorem lossy_encode (text : String) : Lossy (encode text) text.toList := by
  unfold encode
  induction text.toList with
  | nil => exact .nil
  | cons c cs ih => exact .char c ih

open Classical in
theorem exists_spoiled {s : Bytes} (hs : s ≠ [])
    (hbroken : ∀ c, ¬ String.utf8EncodeChar c <+: s) : ∃ bad, Spoiled bad s := by
  have hpos : 1 ≤ s.length := List.length_pos_iff.2 hs
  have hle := Nat.findGreatest_le (P := fun n => n = 1 ∨ Begins (s.take n)) s.length
  have hone : 1 ≤ Nat.findGreatest (fun n => n = 1 ∨ Begins (s.take n)) s.length :=
    Nat.le_findGreatest hpos (.inl rfl)
  have hbegins := Nat.findGreatest_spec (P := fun n => n = 1 ∨ Begins (s.take n)) hpos (.inl rfl)
  generalize hn : Nat.findGreatest (fun n => n = 1 ∨ Begins (s.take n)) s.length = n
    at hle hone hbegins
  have hlength : (s.take n).length = n := List.length_take_of_le hle
  refine ⟨s.take n, List.take_prefix n s, ?_, hbroken, ?_, ?_⟩
  · rw [← List.length_pos_iff, hlength]
    exact hone
  · rw [hlength]
    exact hbegins.symm
  · intro longer hprefix hlt hlonger
    rw [hlength, ← hn] at hlt
    apply Nat.findGreatest_is_greatest hlt hprefix.length_le
    rw [← List.prefix_iff_eq_take.1 hprefix]
    exact .inr hlonger

theorem exists_lossy (s : Bytes) : ∃ cs, Lossy s cs := by
  induction hn : s.length using Nat.strongRecOn generalizing s with
  | ind n ih =>
    by_cases hs : s = []
    · subst hs
      exact ⟨[], .nil⟩
    by_cases hchar : ∃ c, String.utf8EncodeChar c <+: s
    · obtain ⟨c, rest, rfl⟩ := hchar
      have hpos : 0 < (String.utf8EncodeChar c).length := by
        rw [String.length_utf8EncodeChar]
        exact c.utf8Size_pos
      rw [List.length_append] at hn
      obtain ⟨cs, hrest⟩ := ih rest.length (by omega) rest rfl
      exact ⟨_, .char c hrest⟩
    · obtain ⟨bad, hbad⟩ := exists_spoiled hs fun c hc => hchar ⟨c, hc⟩
      obtain ⟨rest, rfl⟩ := hbad.front
      have hpos := List.length_pos_iff.2 hbad.nonempty
      rw [List.length_append] at hn
      obtain ⟨cs, hrest⟩ := ih rest.length (by omega) rest rfl
      exact ⟨_, .spoiled hbad hrest⟩

theorem exists_val_eq {v : Nat} (h : v < 0xD800 ∨ 0xDFFF < v ∧ v < 0x110000) :
    ∃ c : Char, c.val.toNat = v := by
  refine ⟨Char.ofNat v, ?_⟩
  rw [Char.ofNat, dif_pos h]
  rfl

variable {x y z w : Nat}

theorem exists_encode_two (hx : 0xC2 ≤ x ∧ x ≤ 0xDF) (hy : 0x80 ≤ y ∧ y ≤ 0xBF) :
    ∃ c, String.utf8EncodeChar c = [UInt8.ofNat x, UInt8.ofNat y] := by
  obtain ⟨c, hc⟩ := exists_val_eq (v := (x - 0xC0) * 64 + (y - 0x80)) (by omega)
  have hfirst : c.val.toNat / 64 % 32 + 192 = x := by omega
  have hsecond : c.val.toNat % 64 + 128 = y := by omega
  refine ⟨c, ?_⟩
  simp only [String.utf8EncodeChar]
  rw [if_neg (by omega), if_pos (by omega), hfirst, hsecond]

theorem exists_encode_three (hx : 0xE0 ≤ x ∧ x ≤ 0xEF)
    (hlow : (if x = 0xE0 then 0xA0 else 0x80) ≤ y) (hhigh : y ≤ if x = 0xED then 0x9F else 0xBF)
    (hz : 0x80 ≤ z ∧ z ≤ 0xBF) :
    ∃ c, String.utf8EncodeChar c = [UInt8.ofNat x, UInt8.ofNat y, UInt8.ofNat z] := by
  have hy : 0x80 ≤ y ∧ y ≤ 0xBF ∧ (x = 0xE0 → 0xA0 ≤ y) ∧ (x = 0xED → y ≤ 0x9F) := by
    split at hlow <;> split at hhigh <;> omega
  obtain ⟨c, hc⟩ := exists_val_eq (v := ((x - 0xE0) * 64 + (y - 0x80)) * 64 + (z - 0x80))
    (by omega)
  have hfirst : c.val.toNat / 4096 % 16 + 224 = x := by omega
  have hsecond : c.val.toNat / 64 % 64 + 128 = y := by omega
  have hthird : c.val.toNat % 64 + 128 = z := by omega
  refine ⟨c, ?_⟩
  simp only [String.utf8EncodeChar]
  rw [if_neg (by omega), if_neg (by omega), if_pos (by omega), hfirst, hsecond, hthird]

theorem exists_encode_four (hx : 0xF0 ≤ x ∧ x ≤ 0xF4)
    (hlow : (if x = 0xF0 then 0x90 else 0x80) ≤ y) (hhigh : y ≤ if x = 0xF4 then 0x8F else 0xBF)
    (hz : 0x80 ≤ z ∧ z ≤ 0xBF) (hw : 0x80 ≤ w ∧ w ≤ 0xBF) :
    ∃ c, String.utf8EncodeChar c =
      [UInt8.ofNat x, UInt8.ofNat y, UInt8.ofNat z, UInt8.ofNat w] := by
  have hy : 0x80 ≤ y ∧ y ≤ 0xBF ∧ (x = 0xF0 → 0x90 ≤ y) ∧ (x = 0xF4 → y ≤ 0x8F) := by
    split at hlow <;> split at hhigh <;> omega
  obtain ⟨c, hc⟩ := exists_val_eq
    (v := (((x - 0xF0) * 64 + (y - 0x80)) * 64 + (z - 0x80)) * 64 + (w - 0x80)) (by omega)
  have hfirst : c.val.toNat / 262144 % 8 + 240 = x := by omega
  have hsecond : c.val.toNat / 4096 % 64 + 128 = y := by omega
  have hthird : c.val.toNat / 64 % 64 + 128 = z := by omega
  have hfourth : c.val.toNat % 64 + 128 = w := by omega
  refine ⟨c, ?_⟩
  simp only [String.utf8EncodeChar]
  rw [if_neg (by omega), if_neg (by omega), if_neg (by omega), hfirst, hsecond, hthird, hfourth]

theorem start_replaced {n : Nat} (hone : ¬ n ≤ 0x7F) (htwo : ¬ (0xC2 ≤ n ∧ n ≤ 0xDF))
    (hthree : ¬ (0xE0 ≤ n ∧ n ≤ 0xEF)) (hfour : ¬ (0xF0 ≤ n ∧ n ≤ 0xF4)) (done : List Char) :
    start done n = ⟨replacement :: done, none⟩ := by
  rw [start, if_neg hone, if_neg htwo, if_neg (by omega), if_neg (by omega), if_neg (by omega),
    if_neg (by omega), if_neg (by omega), if_neg (by omega)]

inductive Continues : Open → Bytes → Prop where
  | last {code low high : Nat} {b : UInt8} (hlow : low ≤ b.toNat) (hhigh : b.toNat ≤ high) :
      Continues ⟨code, 0, low, high⟩ [b]
  | next {code later low high : Nat} {b : UInt8} {rest : Bytes} (hlow : low ≤ b.toNat)
      (hhigh : b.toNat ≤ high)
      (hrest : Continues ⟨code * 64 + (b.toNat - 0x80), later, 0x80, 0xBF⟩ rest) :
      Continues ⟨code, later + 1, low, high⟩ (b :: rest)

theorem exists_continues_of_later (code later : Nat) :
    ∃ rest, Continues ⟨code, later, 0x80, 0xBF⟩ rest := by
  induction later generalizing code with
  | zero => exact ⟨[0x80], .last (by decide) (by decide)⟩
  | succ later ih =>
    obtain ⟨rest, hrest⟩ := ih (code * 64 + 0)
    exact ⟨0x80 :: rest, .next (by decide) (by decide) hrest⟩

theorem exists_continues {p : Open} {b : UInt8} (hlow : p.low ≤ b.toNat)
    (hhigh : b.toNat ≤ p.high) : ∃ rest, Continues p (b :: rest) := by
  obtain ⟨code, later, low, high⟩ := p
  cases later with
  | zero => exact ⟨[], .last hlow hhigh⟩
  | succ later =>
    obtain ⟨rest, hrest⟩ := exists_continues_of_later (code * 64 + (b.toNat - 0x80)) later
    exact ⟨rest, .next hlow hhigh hrest⟩

/-- An open character that is left open can still be completed in all the ways that its next bytes
allow. -/
theorem Continues.foldl_step {p : Open} {front back : Bytes} (h : Continues p (front ++ back))
    (hback : back ≠ []) (done : List Char) :
    ∃ q, front.foldl step ⟨done, some p⟩ = ⟨done, some q⟩ ∧
      ∀ other, Continues q other → Continues p (front ++ other) := by
  induction front generalizing p with
  | nil => exact ⟨p, rfl, fun _ hother => hother⟩
  | cons b front ih =>
    rw [List.cons_append] at h
    generalize htail : front ++ back = tail at h
    cases h with
    | last => exact absurd (List.append_eq_nil_iff.1 htail).2 hback
    | next hlow hhigh hrest =>
      subst htail
      obtain ⟨q, hread, hcomplete⟩ := ih hrest
      refine ⟨q, ?_, fun other hother => .next hlow hhigh (hcomplete other hother)⟩
      rw [List.foldl_cons, ← hread]
      simp only [step, if_pos (And.intro hlow hhigh)]

theorem Continues.eq_singleton {p : Open} {rest : Bytes} (h : Continues p rest)
    (hlater : p.later = 0) : ∃ b, rest = [b] ∧ p.low ≤ b.toNat ∧ b.toNat ≤ p.high := by
  cases h with
  | last hlow hhigh => exact ⟨_, rfl, hlow, hhigh⟩
  | next => exact absurd hlater (Nat.succ_ne_zero _)

theorem Continues.eq_cons {p : Open} {rest : Bytes} {later : Nat} (h : Continues p rest)
    (hlater : p.later = later + 1) : ∃ b tail, rest = b :: tail ∧ p.low ≤ b.toNat ∧
      b.toNat ≤ p.high ∧ Continues ⟨p.code * 64 + (b.toNat - 0x80), later, 0x80, 0xBF⟩ tail := by
  cases h with
  | last => exact absurd hlater.symm (Nat.succ_ne_zero _)
  | next hlow hhigh hrest =>
    obtain rfl := Nat.succ.inj hlater
    exact ⟨_, _, rfl, hlow, hhigh, hrest⟩

/-- Where a byte opens a character, all that can complete it makes one. -/
theorem exists_encode_of_start {done : List Char} {b : UInt8} {p : Open} {rest : Bytes}
    (hstart : start done b.toNat = ⟨done, some p⟩) (h : Continues p rest) :
    ∃ c, String.utf8EncodeChar c = b :: rest := by
  have hcurrent : (start done b.toNat).current = some p := by rw [hstart]
  by_cases hone : b.toNat ≤ 0x7F
  · rw [start_one hone] at hcurrent
    exact absurd hcurrent (Option.some_ne_none p).symm
  by_cases htwo : 0xC2 ≤ b.toNat ∧ b.toNat ≤ 0xDF
  · rw [start_two htwo.1 htwo.2] at hcurrent
    obtain rfl := Option.some.inj hcurrent
    obtain ⟨b₂, rfl, hlow, hhigh⟩ := h.eq_singleton rfl
    obtain ⟨c, hc⟩ := exists_encode_two htwo ⟨hlow, hhigh⟩
    exact ⟨c, by simpa only [UInt8.ofNat_toNat] using hc⟩
  by_cases hthree : 0xE0 ≤ b.toNat ∧ b.toNat ≤ 0xEF
  · rw [start_three hthree.1 hthree.2] at hcurrent
    obtain rfl := Option.some.inj hcurrent
    obtain ⟨b₂, rest, rfl, hlow, hhigh, h⟩ := h.eq_cons rfl
    obtain ⟨b₃, rfl, hlow₃, hhigh₃⟩ := h.eq_singleton rfl
    obtain ⟨c, hc⟩ := exists_encode_three hthree hlow hhigh ⟨hlow₃, hhigh₃⟩
    exact ⟨c, by simpa only [UInt8.ofNat_toNat] using hc⟩
  by_cases hfour : 0xF0 ≤ b.toNat ∧ b.toNat ≤ 0xF4
  · rw [start_four hfour.1 hfour.2] at hcurrent
    obtain rfl := Option.some.inj hcurrent
    obtain ⟨b₂, rest, rfl, hlow, hhigh, h⟩ := h.eq_cons rfl
    obtain ⟨b₃, rest, rfl, hlow₃, hhigh₃, h⟩ := h.eq_cons rfl
    obtain ⟨b₄, rfl, hlow₄, hhigh₄⟩ := h.eq_singleton rfl
    obtain ⟨c, hc⟩ := exists_encode_four hfour hlow hhigh ⟨hlow₃, hhigh₃⟩ ⟨hlow₄, hhigh₄⟩
    exact ⟨c, by simpa only [UInt8.ofNat_toNat] using hc⟩
  · rw [start_replaced hone htwo hthree hfour] at hcurrent
    exact absurd hcurrent (Option.some_ne_none p).symm

/-- The bytes of a character beyond the first complete what the first one opens. -/
theorem start_of_encode {c : Char} (hc : 0x80 ≤ c.val.toNat) (done : List Char) :
    ∃ b rest p, String.utf8EncodeChar c = b :: rest ∧ start done b.toNat = ⟨done, some p⟩ ∧
      Continues p rest := by
  have hvalid : c.val.toNat < 0xD800 ∨ 0xDFFF < c.val.toNat ∧ c.val.toNat < 0x110000 := c.valid
  have hbyte {n : Nat} (hn : n < 256) : (UInt8.ofNat n).toNat = n := UInt8.toNat_ofNat_of_lt' hn
  unfold String.utf8EncodeChar
  generalize c.val.toNat = v at hvalid hc
  simp only
  rw [if_neg (by omega)]
  by_cases htwo : v ≤ 2047
  · rw [if_pos htwo]
    have hstart := @start_two done (v / 64 % 32 + 192) (by omega) (by omega)
    refine ⟨_, _, _, rfl, by rwa [hbyte (by omega)], .last ?_ ?_⟩ <;> rw [hbyte (by omega)] <;>
      omega
  rw [if_neg htwo]
  by_cases hthree : v ≤ 65535
  · rw [if_pos hthree]
    have hstart := @start_three done (v / 4096 % 16 + 224) (by omega) (by omega)
    refine ⟨_, _, _, rfl, by rwa [hbyte (by omega)], .next ?_ ?_ (.last ?_ ?_)⟩ <;>
      rw [hbyte (by omega)] <;> try split
    all_goals omega
  rw [if_neg hthree]
  have hstart := @start_four done (v / 262144 % 8 + 240) (by omega) (by omega)
  refine ⟨_, _, _, rfl, by rwa [hbyte (by omega)], .next ?_ ?_ (.next ?_ ?_ (.last ?_ ?_))⟩ <;>
    rw [hbyte (by omega)] <;> try split
  all_goals omega

theorem Begins.foldl_step {bad : Bytes} (h : Begins bad) (hne : bad ≠ [])
    (hpart : ∀ c, String.utf8EncodeChar c ≠ bad) (done : List Char) :
    ∃ p, bad.foldl step ⟨done, none⟩ = ⟨done, some p⟩ ∧
      ∀ b : UInt8, p.low ≤ b.toNat → b.toNat ≤ p.high → Begins (bad ++ [b]) := by
  obtain ⟨c, back, hc⟩ := h
  have hback : back ≠ [] := by
    rintro rfl
    exact hpart c (by simpa using hc.symm)
  have hhigh : 0x80 ≤ c.val.toNat := by
    by_contra hlow
    have hlength := congrArg List.length hc
    rw [utf8EncodeChar_of_lt (Nat.not_le.1 hlow), List.length_append] at hlength
    have hbad := List.length_pos_iff.2 hne
    have hpos := List.length_pos_iff.2 hback
    rw [List.length_singleton] at hlength
    omega
  obtain ⟨b, rest, p, hfirst, hstart, hrest⟩ := start_of_encode hhigh done
  obtain ⟨other, front, rfl⟩ := List.exists_cons_of_ne_nil hne
  rw [hfirst, List.cons_append, List.cons.injEq] at hc
  obtain ⟨rfl, rfl⟩ := hc
  obtain ⟨q, hopen, hcomplete⟩ := hrest.foldl_step hback done
  refine ⟨q, ?_, fun next hlow hhigh => ?_⟩
  · rw [List.foldl_cons, ← hopen, ← hstart]
    rfl
  · obtain ⟨tail, htail⟩ := exists_continues hlow hhigh
    obtain ⟨c, hc⟩ := exists_encode_of_start hstart (hcomplete _ htail)
    exact ⟨c, tail, by rw [hc]; simp⟩

theorem step_of_not_begins {b : UInt8} (h : ¬ Begins [b]) (done : List Char) :
    step ⟨done, none⟩ b = ⟨replacement :: done, none⟩ := by
  have hfirst {c : Char} {rest : Bytes}
      (hc : String.utf8EncodeChar c = UInt8.ofNat b.toNat :: rest) : Begins [b] :=
    ⟨c, rest, by rw [hc, UInt8.ofNat_toNat]; rfl⟩
  refine start_replaced (fun hone => h ?_) (fun htwo => h ?_) (fun hthree => h ?_)
    (fun hfour => h ?_) done
  · obtain ⟨c, hc⟩ := exists_val_eq (v := b.toNat) (by omega)
    have hencode := utf8EncodeChar_of_lt (c := c) (by omega)
    rw [hc] at hencode
    exact hfirst hencode
  · obtain ⟨c, hc⟩ := exists_encode_two (y := 0x80) htwo (by decide)
    exact hfirst hc
  · obtain ⟨c, hc⟩ := exists_encode_three (y := if b.toNat = 0xE0 then 0xA0 else 0x80) (z := 0x80)
      hthree (Nat.le_refl _) (by split <;> split <;> omega) (by decide)
    exact hfirst hc
  · obtain ⟨c, hc⟩ := exists_encode_four (y := if b.toNat = 0xF0 then 0x90 else 0x80) (z := 0x80)
      (w := 0x80) hfour (Nat.le_refl _) (by split <;> split <;> omega) (by decide) (by decide)
    exact hfirst hc

/-- A longest broken start is read as one replacement character, and what follows it as if the
reading started there. -/
theorem Spoiled.close_foldl_step {bad rest : Bytes} (h : Spoiled bad (bad ++ rest))
    (done : List Char) : ((bad ++ rest).foldl step ⟨done, none⟩).close =
      (rest.foldl step ⟨replacement :: done, none⟩).close := by
  by_cases hbegins : Begins bad
  · obtain ⟨p, hopen, hnext⟩ := hbegins.foldl_step h.nonempty
      (fun c hc => h.broken c (hc ▸ List.prefix_append _ _)) done
    rw [List.foldl_append, hopen]
    cases rest with
    | nil => rfl
    | cons b rest =>
      have hstop : ¬ (p.low ≤ b.toNat ∧ b.toNat ≤ p.high) := fun hin =>
        h.longest (bad ++ [b]) ⟨rest, by simp⟩ (by simp) (hnext b hin.1 hin.2)
      rw [List.foldl_cons, List.foldl_cons]
      simp only [step, if_neg hstop]
  · obtain ⟨b, rfl⟩ := List.length_eq_one_iff.1 (h.begins.resolve_left hbegins)
    rw [List.singleton_append, List.foldl_cons, step_of_not_begins hbegins]

theorem Lossy.close_foldl_step {s : Bytes} {cs : List Char} (h : Lossy s cs) (done : List Char) :
    (s.foldl step ⟨done, none⟩).close = done.reverse ++ cs := by
  induction h generalizing done with
  | nil => simp [Reading.close]
  | char c _ ih =>
    rw [List.foldl_append, foldl_step_utf8EncodeChar, ih]
    simp
  | spoiled hbad _ ih =>
    rw [hbad.close_foldl_step, ih]
    simp [replacement]

theorem lossy_iff {s : Bytes} {text : String} : Lossy s text.toList ↔ text = decode s := by
  have hread {cs : List Char} (h : Lossy s cs) : cs = (decode s).toList := by
    rw [decode, String.toList_ofList, h.close_foldl_step]
    rfl
  constructor
  · exact fun h => String.toList_inj.1 (hread h)
  · rintro rfl
    obtain ⟨cs, hcs⟩ := exists_lossy s
    exact hread hcs ▸ hcs

end RespStore.Text.Utf8
