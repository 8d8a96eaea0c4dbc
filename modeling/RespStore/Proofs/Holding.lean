import RespStore.Proofs.Connection.Replies
import RespStore.Proofs.Frame.Lines

/-!
# How much a decoder holds

The limits bound everything that an unfinished frame can have, except for its lines: a line is
looked at only when it has ended. So what is held is bounded by the limits and the longest line in
it, and by nothing else.
-/

set_option autoImplicit false

namespace RespStore

namespace Frame

/-- How many bytes frames take that have fewer than `k` levels of arrays, if each line has at most
`longest` bytes: lead byte, line and line end, and then a payload or the items. -/
def room (limits : Limits) (longest : Nat) : Nat → Nat
  | 0 => 0
  | k + 1 => longest + limits.maxBulk.toNat + 5 + limits.maxArray.toNat * room limits longest k

def LinesWithin (limits : Limits) (longest : Nat) (s : Bytes) : Prop :=
  ∀ line ∈ lines limits s, line.length ≤ longest

/-- Reading `s` took at most `bound` bytes, and left the rest, or waits with at most `bound`. -/
def Uses (limits : Limits) (longest bound : Nat) (s : Bytes) : Except ReadError Bytes → Prop
  | .ok rest => s.length ≤ bound + rest.length ∧ LinesWithin limits longest rest
  | .error .incomplete => s.length ≤ bound
  | .error (.malformed _) => True

variable {limits : Limits} {longest depth : Nat}

theorem Uses.mono {bound bound' : Nat} {s : Bytes} {outcome : Except ReadError Bytes}
    (h : Uses limits longest bound s outcome) (hle : bound ≤ bound') :
    Uses limits longest bound' s outcome := by
  match outcome with
  | .ok rest => exact ⟨Nat.le_trans h.1 (Nat.add_le_add_right hle _), h.2⟩
  | .error .incomplete => exact Nat.le_trans h hle
  | .error (.malformed _) => trivial

theorem Uses.after {bound bound' : Nat} {s rest : Bytes} {outcome : Except ReadError Bytes}
    (h : Uses limits longest bound' rest outcome) (hlength : s.length ≤ bound + rest.length) :
    Uses limits longest (bound + bound') s outcome := by
  match outcome with
  | .ok later =>
    obtain ⟨hrest, hlines⟩ := h
    exact ⟨by omega, hlines⟩
  | .error .incomplete =>
    simp only [Uses] at h ⊢
    omega
  | .error (.malformed _) => trivial

theorem uses_body {lead : Lead} {line s : Bytes}
    (h : ∀ token rest, Token.readBody limits lead line s = .ok (token, rest) →
      LinesWithin limits longest rest) :
    Uses limits longest (limits.maxBulk.toNat + 2) s
      ((Token.readBody limits lead line s).map Prod.snd) := by
  cases hbody : Token.readBody limits lead line s with
  | ok result => exact ⟨Token.length_le_of_readBody hbody, h _ _ hbody⟩
  | error fault =>
    cases fault with
    | incomplete => exact Nat.le_of_lt (Token.length_lt_of_readBody_incomplete hbody)
    | malformed cause => trivial

theorem uses_token {s : Bytes} (h : LinesWithin limits longest s) :
    Uses limits longest (longest + limits.maxBulk.toNat + 5) s
      ((Token.read limits s).map Prod.snd) := by
  cases s with
  | nil => exact Nat.zero_le _
  | cons b tail =>
    have hs : (b :: tail).length = tail.length + 1 := List.length_cons
    cases hlead : Lead.ofByte? b with
    | none =>
      simp only [Token.read, hlead]
      trivial
    | some lead =>
      rw [LinesWithin, lines_cons hlead] at h
      simp only [Token.read, hlead]
      cases hsplit : Bytes.splitLine tail with
      | none =>
        rw [hsplit, List.forall_mem_singleton] at h
        change (b :: tail).length ≤ longest + limits.maxBulk.toNat + 5
        omega
      | some parts =>
        obtain ⟨line, after⟩ := parts
        have hlength := Bytes.length_of_splitLine hsplit
        rw [hsplit] at h
        simp only at h ⊢
        have hline : line.length ≤ longest := by
          split at h <;> exact h line List.mem_cons_self
        have hbody := uses_body fun token rest hok line hmem => by
          rw [hok] at h
          exact h line (List.mem_cons_of_mem _ hmem)
        have hfront : (b :: tail).length ≤ longest + 3 + after.length := by omega
        exact (hbody.after hfront).mono (by omega)

theorem uses_items {bound : Nat}
    (hread : ∀ s, LinesWithin limits longest s →
      Uses limits longest bound s ((read limits depth s).map Prod.snd))
    (count : Nat) {s : Bytes} (h : LinesWithin limits longest s) :
    Uses limits longest (count * bound) s ((readItems limits depth count s).map Prod.snd) := by
  induction count generalizing s with
  | zero => exact ⟨Nat.le_add_left _ _, h⟩
  | succ count ih =>
    have hitem := hread s h
    rw [readItems, Nat.succ_mul, Nat.add_comm]
    cases hfirst : read limits depth s with
    | error fault =>
      rw [hfirst] at hitem
      exact hitem.mono (Nat.le_add_right _ _)
    | ok result =>
      obtain ⟨frame, rest⟩ := result
      rw [hfirst] at hitem
      have hitems := (ih hitem.2).after hitem.1
      simp only
      cases hlater : readItems limits depth count rest <;> rw [hlater] at hitems <;> exact hitems

/-- A frame takes no more room than the limits and its longest line give it. -/
theorem uses_read {k : Nat} (hdepth : limits.maxDepth.toNat < depth + k) {s : Bytes}
    (h : LinesWithin limits longest s) :
    Uses limits longest (room limits longest k) s ((read limits depth s).map Prod.snd) := by
  -- `k` counts the depths that are left; without one every frame is too deep.
  induction k generalizing depth s with
  | zero =>
    rw [read_eq, if_pos (show limits.maxDepth.toNat < depth from hdepth)]
    trivial
  | succ k ih =>
    have htoken := uses_token h
    rw [read_eq, room]
    split
    · trivial
    · cases hread : Token.read limits s with
      | error fault =>
        rw [hread] at htoken
        exact htoken.mono (Nat.le_add_right _ _)
      | ok result =>
        obtain ⟨token, rest⟩ := result
        rw [hread] at htoken
        cases token with
        | leaf frame => exact htoken.mono (Nat.le_add_right _ _)
        | array count =>
          obtain ⟨-, -, -, -, -, hlimit⟩ := Token.exists_of_read_array hread
          have hcount := Nat.mul_le_mul_right (room limits longest k) hlimit
          have hitems := uses_items (fun s => @ih (depth + 1) (by omega) s) count htoken.2
          have hframe := (hitems.mono hcount).after htoken.1
          simp only
          cases hlater : readItems limits (depth + 1) count rest <;> rw [hlater] at hframe <;>
            exact hframe

theorem length_le_room {s : Bytes} (hread : read limits 0 s = .error .incomplete)
    (h : LinesWithin limits longest s) :
    s.length ≤ room limits longest (limits.maxDepth.toNat + 1) := by
  have huses := uses_read (show limits.maxDepth.toNat < 0 + (limits.maxDepth.toNat + 1) by omega) h
  rw [hread] at huses
  exact huses

end Frame

namespace Decoder

open RespStore.Frame (LinesWithin room)

variable {limits : Limits}

theorem Waits.read_held {decoder : Decoder} (h : decoder.Waits) :
    Frame.read decoder.limits 0 decoder.held = .error .incomplete := by
  rw [Waits, Frame.readAll_eq] at h
  split at h
  · split at h <;> cases h
  · assumption
  · cases h

theorem waits_run {decoder : Decoder} (h : decoder.Waits) (chunks : List Bytes) :
    (decoder.run chunks).2.Waits := by
  induction chunks generalizing decoder with
  | nil => exact h
  | cons chunk rest ih => exact ih (waits_feed decoder chunk)

def heldAfter (limits : Limits) (chunks : List Bytes) : Bytes :=
  ((fresh limits).run chunks).2.held

theorem read_heldAfter (limits : Limits) (chunks : List Bytes) :
    Frame.read limits 0 (heldAfter limits chunks) = .error .incomplete := by
  have hread := (waits_run (waits_fresh limits) chunks).read_held
  rwa [limits_run] at hread

/-- What is held is bounded by the limits and its longest line. So a client cannot make a decoder
hold ever more if and only if it cannot send ever longer lines: no limit bounds a line. -/
theorem held_bounded_iff_lines_bounded (limits : Limits) (Sends : List Bytes → Prop) :
    (∀ chunks longest, LinesWithin limits longest (heldAfter limits chunks) →
      (heldAfter limits chunks).length ≤ room limits longest (limits.maxDepth.toNat + 1)) ∧
    ((∃ bound, ∀ chunks, Sends chunks → ∀ k,
        (heldAfter limits (chunks.take k)).length ≤ bound) ↔
      ∃ longest, ∀ chunks, Sends chunks → ∀ k,
        LinesWithin limits longest (heldAfter limits (chunks.take k))) := by
  have hroom (chunks : List Bytes) (longest : Nat)
      (h : LinesWithin limits longest (heldAfter limits chunks)) :=
    Frame.length_le_room (read_heldAfter limits chunks) h
  refine ⟨hroom, ?_, ?_⟩
  · rintro ⟨bound, hbound⟩
    refine ⟨bound, fun chunks hsends k line hmem => ?_⟩
    exact Nat.le_trans (Frame.length_le_of_mem_lines hmem) (hbound chunks hsends k)
  · rintro ⟨longest, hlines⟩
    exact ⟨_, fun chunks hsends k => hroom _ longest (hlines chunks hsends k)⟩

theorem splitLine_of_notMem {s : Bytes} (h : Bytes.cr ∉ s) : Bytes.splitLine s = none := by
  rw [Option.eq_none_iff_forall_ne_some]
  rintro ⟨line, rest⟩ hsplit
  rw [(Bytes.splitLine_eq_some_iff.1 hsplit).1] at h
  exact h (by simp [Bytes.crlf])

/-- Whatever a line is for, all of it is held until a CR comes. -/
theorem heldAfter_of_line {chunks : List Bytes} {lead : Lead} {line : Bytes}
    (hchunks : chunks.flatten = lead.byte :: line) (hcr : Bytes.cr ∉ line) :
    heldAfter limits chunks = lead.byte :: line := by
  have hread : Frame.read limits 0 (lead.byte :: line) = .error .incomplete := by
    rw [Frame.read_eq, if_neg (Nat.not_lt_zero _)]
    simp only [Token.read, Lead.ofByte?_byte, splitLine_of_notMem hcr]
  have hall : Frame.readAll limits ([] ++ chunks.flatten) = .ok ([], lead.byte :: line) := by
    rw [List.nil_append, hchunks, Frame.readAll_eq, hread]
  rw [heldAfter, fresh, (run_of_ok Frame.readAll_nil hall).1]

-- The length of a bulk frame whose digits go on and on.
theorem held_unbounded : ¬ ∃ (limits : Limits) (bound : Nat), ∀ chunks : List Bytes,
    (∀ chunk ∈ chunks, chunk.length ≤ 4096) → ∀ k,
      (heldAfter limits (chunks.take k)).length ≤ bound := by
  rintro ⟨limits, bound, hbound⟩
  have hchunks (chunk : Bytes) (h : chunk ∈ [Lead.bulk.byte] :: List.replicate bound [57]) :
      chunk.length ≤ 4096 := by
    rcases List.mem_cons.1 h with rfl | h
    · decide
    · rw [List.eq_of_mem_replicate h]
      decide
  have hflatten : ([Lead.bulk.byte] :: List.replicate bound [57]).flatten =
      Lead.bulk.byte :: List.replicate bound 57 := by
    simp
  have hcr : Bytes.cr ∉ List.replicate bound 57 := by
    intro h
    exact absurd (List.eq_of_mem_replicate h) (by decide)
  have hle := hbound _ hchunks (bound + 1)
  rw [List.take_of_length_le (by simp), heldAfter_of_line hflatten hcr, List.length_cons,
    List.length_replicate] at hle
  omega

end Decoder

end RespStore
