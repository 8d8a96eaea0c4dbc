import RespStore.FrameBuffer
import RespStore.Proofs.Frame.RoundTrip

set_option autoImplicit false

namespace RespStore

namespace Frame

structure Fits (limits : Limits) (frame : Frame) : Prop where
  unbroken : frame.Unbroken
  countable : frame.Countable
  within : frame.Within limits

variable {limits : Limits}

theorem Fits.read_bytes {frame : Frame} (h : frame.Fits limits) (rest : Bytes) :
    read limits 0 (frame.bytes ++ rest) = .ok (frame, rest) := by
  rw [Frame.read_bytes limits h.unbroken h.countable, (within_iff limits frame).1 h.within]
  rfl

theorem fits_of_ne_array {frame : Frame} (harray : ∀ items, frame ≠ .array items)
    (hunbroken : frame.brokenKind? = none)
    (hbulk : ∀ payload, frame = .bulk payload →
      payload.length ≤ limits.maxBulk.toNat ∧ payload.length ≤ Decimal.maxInt64) :
    frame.Fits limits := by
  have hnodes : frame.nodes 0 = [⟨0, frame⟩] := by
    cases frame with
    | array items => exact absurd rfl (harray items)
    | simple | error | integer | bulk | null => rfl
  refine ⟨(brokenKind?_eq_none_iff frame).1 hunbroken, (everywhere_leaf hnodes).2 ?_, ?_⟩
  · cases frame with
    | bulk payload => exact (hbulk payload rfl).2
    | array items => exact absurd rfl (harray items)
    | simple | error | integer | null => exact Nat.zero_le _
  · constructor <;> rw [hnodes, List.forall_mem_singleton]
    · exact Nat.zero_le _
    · exact fun payload h => (hbulk payload h).1
    · exact fun items h => absurd h (harray items)

end Frame

namespace FrameBuffer

theorem length_of_take {buffer rest : FrameBuffer} {frame : Frame}
    (h : buffer.take = (.ok (some frame), rest)) : rest.bytes.length < buffer.bytes.length := by
  unfold take at h
  split at h
  · rename_i hread
    have hlength := Frame.length_of_read hread
    cases h
    simp only
    omega
  · cases h
  · cases h

/-- Takes frames until none is complete or the bytes at the front are malformed. -/
def drain (buffer : FrameBuffer) : List Frame × Except Malformed Unit × FrameBuffer :=
  match _h : buffer.take with
  | (.ok (some frame), rest) =>
    match rest.drain with
    | (frames, outcome, last) => (frame :: frames, outcome, last)
  | (.ok none, rest) => ([], .ok (), rest)
  | (.error cause, rest) => ([], .error cause, rest)
termination_by buffer.bytes.length
decreasing_by exact length_of_take _h

theorem drain_eq (buffer : FrameBuffer) :
    buffer.drain =
      match buffer.take with
      | (.ok (some frame), rest) => (frame :: rest.drain.1, rest.drain.2)
      | (.ok none, rest) => ([], .ok (), rest)
      | (.error cause, rest) => ([], .error cause, rest) := by
  rw [drain]
  split <;> rename_i h <;> rw [h]

variable {limits : Limits}

theorem drain_nil : drain ⟨limits, []⟩ = ([], .ok (), ⟨limits, []⟩) := by
  rw [drain_eq, take, Frame.read_nil]

theorem drain_bytes_append {frame : Frame} (h : frame.Fits limits) (rest : Bytes) :
    drain ⟨limits, frame.bytes ++ rest⟩ =
      (frame :: (drain ⟨limits, rest⟩).1, (drain ⟨limits, rest⟩).2) := by
  rw [drain_eq, take, h.read_bytes]

theorem drain_bytesOfAll {frames : List Frame} (h : ∀ frame ∈ frames, frame.Fits limits) :
    drain ⟨limits, Frame.bytesOfAll frames⟩ = (frames, .ok (), ⟨limits, []⟩) := by
  induction frames with
  | nil => exact drain_nil
  | cons frame rest ih =>
    have hrest := ih fun other hmem => h other (List.mem_cons_of_mem _ hmem)
    rw [Frame.bytesOfAll, drain_bytes_append (h frame List.mem_cons_self), hrest]

end FrameBuffer

end RespStore
