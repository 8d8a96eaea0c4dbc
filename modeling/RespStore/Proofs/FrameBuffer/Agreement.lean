import RespStore.Proofs.Chunking
import RespStore.Proofs.FrameBuffer.Operations

/-!
# Buffers and decoders agree

A buffer gives out frames one at a time and keeps what is malformed; a decoder takes a chunk whole
and empties itself. On the same bytes they find the same frames and fail for the same cause, however
the bytes reach the buffer and whenever frames are taken.
-/

set_option autoImplicit false

namespace RespStore

variable {limits : Limits}

namespace Frame

/-- `s` is the bytes of complete frames and then `rest`. -/
def Splits (limits : Limits) (s : Bytes) (frames : List Frame) (rest : Bytes) : Prop :=
  ∃ front, s = front ++ rest ∧ readAll limits front = .ok (frames, [])

theorem splits_nil (s : Bytes) : Splits limits s [] s :=
  ⟨[], rfl, readAll_nil⟩

theorem splits_of_read {s rest : Bytes} {frame : Frame}
    (h : read limits 0 s = .ok (frame, rest)) : Splits limits s [frame] rest := by
  obtain ⟨front, hfront, hderives⟩ := derives_of_read h
  have hread := read_of_derives hderives []
  rw [List.append_nil] at hread
  refine ⟨front, hfront, ?_⟩
  rw [readAll_eq, hread]
  simp only [readAll_nil]

theorem Splits.append {s rest : Bytes} {frames : List Frame} (h : Splits limits s frames rest)
    (t : Bytes) : Splits limits (s ++ t) frames (rest ++ t) := by
  obtain ⟨front, rfl, hfront⟩ := h
  exact ⟨front, List.append_assoc _ _ _, hfront⟩

theorem Splits.trans {s middle rest : Bytes} {frames more : List Frame}
    (h : Splits limits s frames middle) (hmore : Splits limits middle more rest) :
    Splits limits s (frames ++ more) rest := by
  obtain ⟨front, rfl, hfront⟩ := h
  obtain ⟨back, rfl, hback⟩ := hmore
  refine ⟨front ++ back, (List.append_assoc _ _ _).symm, ?_⟩
  rw [readAll_append, hfront]
  simp only [List.nil_append, hback]

theorem Splits.readAll_of_incomplete {s rest : Bytes} {frames : List Frame}
    (h : Splits limits s frames rest) (hrest : read limits 0 rest = .error .incomplete) :
    readAll limits s = .ok (frames, rest) := by
  obtain ⟨front, rfl, hfront⟩ := h
  rw [readAll_append, hfront]
  simp only [List.nil_append, readAll_eq rest, hrest, List.append_nil]

theorem Splits.readAll_of_malformed {s rest : Bytes} {frames : List Frame} {cause : Malformed}
    (h : Splits limits s frames rest) (hrest : read limits 0 rest = .error (.malformed cause)) :
    readAll limits s = .error cause := by
  obtain ⟨front, rfl, hfront⟩ := h
  exact readAll_eq_error_iff.2 ⟨front, rest, frames, rfl, hfront, hrest⟩

end Frame

namespace FrameBuffer

open RespStore.Frame (Splits splits_nil splits_of_read)

variable {ending : Ending}

/-- An operation gives out at most the frame at the front of what the buffer then holds. -/
theorem splits_step (hending : ending.Default) (limits : Limits) (s : Bytes)
    (operation : Operation) :
    ∃ rest, (step ending ⟨limits, s⟩ operation).2 = ⟨limits, rest⟩ ∧
      Splits limits (s ++ operation.added) (step ending ⟨limits, s⟩ operation).1.frame?.toList
        rest := by
  have htaking := taking_take ⟨limits, s⟩
  cases operation with
  | push chunk => exact ⟨_, rfl, splits_nil _⟩
  | put frame =>
    rw [step, put_eq]
    exact ⟨_, rfl, splits_nil _⟩
  | take =>
    simp only [step, Operation.added, List.append_nil]
    generalize take ⟨limits, s⟩ = outcome at htaking
    cases htaking with
    | frame hread => exact ⟨_, rfl, splits_of_read hread⟩
    | nothing | fails => exact ⟨_, rfl, splits_nil _⟩
  | takeLast =>
    simp only [step, Operation.added, List.append_nil]
    generalize htake : take ⟨limits, s⟩ = outcome at htaking
    cases htaking with
    | frame hread =>
      rw [hending.frame htake]
      exact ⟨_, rfl, splits_of_read hread⟩
    | fails =>
      rw [hending.malformed htake]
      exact ⟨_, rfl, splits_nil _⟩
    | nothing =>
      by_cases hs : s = []
      · rw [hending.finished htake hs]
        exact ⟨_, rfl, splits_nil _⟩
      · rw [hending.leftover htake hs]
        exact ⟨_, rfl, splits_nil _⟩

/-- What operations have given out and what the buffer holds are the bytes that they brought. -/
theorem splits_run (hending : ending.Default) (limits : Limits) (s : Bytes)
    (operations : List Operation) :
    ∃ rest, (run ending ⟨limits, s⟩ operations).2 = ⟨limits, rest⟩ ∧
      Splits limits (s ++ brought operations) (taken (run ending ⟨limits, s⟩ operations).1)
        rest := by
  induction operations generalizing s with
  | nil =>
    rw [brought, List.flatMap_nil, List.append_nil]
    exact ⟨s, rfl, splits_nil s⟩
  | cons operation rest ih =>
    obtain ⟨middle, hnext, hstep⟩ := splits_step hending limits s operation
    obtain ⟨last, hlast, hrest⟩ := ih middle
    rw [run_cons, hnext, taken_cons, brought_cons, ← List.append_assoc]
    exact ⟨last, hlast, (hstep.append (brought rest)).trans hrest⟩

theorem splits_drain (limits : Limits) (s : Bytes) :
    ∃ frames outcome rest, drain ⟨limits, s⟩ = (frames, outcome, ⟨limits, rest⟩) ∧
      Splits limits s frames rest ∧
      match outcome with
      | .ok () => Frame.read limits 0 rest = .error .incomplete
      | .error cause => Frame.read limits 0 rest = .error (.malformed cause) := by
  induction s using Frame.stream_induction limits with
  | step s ih =>
    have htaking := taking_take ⟨limits, s⟩
    rw [drain_eq]
    generalize take ⟨limits, s⟩ = outcome at htaking
    cases htaking with
    | @frame frame middle hread =>
      obtain ⟨frames, outcome, rest, hdrain, hsplits, houtcome⟩ := ih frame middle hread
      refine ⟨frame :: frames, outcome, rest, ?_, (splits_of_read hread).trans hsplits, houtcome⟩
      simp only [hdrain]
    | nothing hread => exact ⟨[], .ok (), s, rfl, splits_nil s, hread⟩
    | @fails cause hread => exact ⟨[], .error cause, s, rfl, splits_nil s, hread⟩

/-- A buffer that is drained after any operations has given out the frames that a fresh decoder
finds in the bytes that were brought, and holds as many bytes. If the bytes are malformed the
decoder fails for the cause for which the buffer fails, and is empty; the buffer has given out all
frames before the malformed bytes, which stay at its front, and every later operation is refused for
the same cause. The ending differs from taking only where bytes without a frame are left. -/
theorem drain_agrees_with_feed {ending : Ending} (hending : ending.Default) (limits : Limits)
    (operations : List Operation) :
    ∃ answers buffer frames outcome last,
      (empty limits).run ending operations = (answers, buffer) ∧
      buffer.drain = (frames, outcome, last) ∧
      (outcome = .ok () →
        (Decoder.fresh limits).feed (brought operations) =
          (.ok (taken answers ++ frames), ⟨limits, last.bytes⟩)) ∧
      (∀ cause, outcome = .error cause →
        (Decoder.fresh limits).feed (brought operations) =
          (.error cause, Decoder.fresh limits) ∧
        (∃ front, brought operations = front ++ last.bytes ∧
          Frame.readAll limits front = .ok (taken answers ++ frames, []) ∧
          Frame.read limits 0 last.bytes = .error (.malformed cause)) ∧
        ∀ later, last.run ending later =
          (later.map (refusal cause), ⟨limits, last.bytes ++ brought later⟩)) ∧
      ∀ any : FrameBuffer,
        (any.take.1 = .ok none → any.bytes ≠ [] → ending any = (.error .leftover, any)) ∧
        (any.take.1 ≠ .ok none ∨ any.bytes = [] →
          ending any = (any.take.1.mapError .malformed, any.take.2)) := by
  obtain ⟨held, hbuffer, hrun⟩ := splits_run hending limits [] operations
  obtain ⟨frames, outcome, rest, hdrain, hsplits, houtcome⟩ := splits_drain limits held
  have hall := hrun.trans hsplits
  rw [List.nil_append] at hall
  rw [← hbuffer] at hdrain
  refine ⟨_, _, frames, outcome, ⟨limits, rest⟩, rfl, hdrain, ?_, ?_, hending.eq⟩
  · rintro rfl
    exact Decoder.feed_fresh_of_ok (hall.readAll_of_incomplete houtcome)
  · rintro cause rfl
    refine ⟨Decoder.feed_fresh_of_error (hall.readAll_of_malformed houtcome), ?_, ?_⟩
    · obtain ⟨front, hfront, hread⟩ := hall
      exact ⟨front, hfront, hread, houtcome⟩
    · exact run_of_malformed hending houtcome

def interrupted : List Operation :=
  [.push [58, 49, 13, 10, 36, 50], .take, .take, .takeLast, .push [13, 10, 97, 98, 13, 10, 63],
    .take]

theorem drain_agrees_with_feed_interrupted :
    ∃ answers buffer last, (empty .standard).run takeLast interrupted = (answers, buffer) ∧
      buffer.drain = ([], .error (.unknownLead 63), last) ∧
      taken answers = [.integer 1, .bulk [97, 98]] ∧
      (Decoder.fresh .standard).feed (brought interrupted) =
        (.error (.unknownLead 63), Decoder.fresh .standard) ∧
      last.run takeLast [.push [13, 10], .take, .takeLast] =
        ([.pushed, .taken (.error (.unknownLead 63)),
          .takenLast (.error (.malformed (.unknownLead 63)))], ⟨.standard, [63, 13, 10]⟩) := by
  obtain ⟨answers, buffer, frames, outcome, last, hrun, hdrain, -, hmalformed, -⟩ :=
    drain_agrees_with_feed takeLast_default .standard interrupted
  have hvalue : ((empty .standard).run takeLast interrupted).2.drain =
      ([], .error (.unknownLead 63), ⟨.standard, [63]⟩) := by with_unfolding_all rfl
  have htaken : taken ((empty .standard).run takeLast interrupted).1 =
      [.integer 1, .bulk [97, 98]] := by
    with_unfolding_all rfl
  rw [hrun] at hvalue htaken
  cases hdrain.symm.trans hvalue
  obtain ⟨hfeed, -, hlater⟩ := hmalformed _ rfl
  exact ⟨answers, buffer, ⟨.standard, [63]⟩, hrun, hdrain, htaken, hfeed, hlater _⟩

end FrameBuffer

end RespStore
