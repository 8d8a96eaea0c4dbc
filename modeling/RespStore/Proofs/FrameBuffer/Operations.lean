import RespStore.Proofs.Frame.Stream
import RespStore.Proofs.FrameBuffer

set_option autoImplicit false

namespace RespStore.FrameBuffer

inductive Operation where
  | push (chunk : Bytes)
  | put (frame : Frame)
  | take
  | takeLast

inductive Answer where
  | pushed
  | put (result : Except LineBreak Unit)
  | taken (result : Except Malformed (Option Frame))
  | takenLast (result : Except TakeError (Option Frame))

def step (ending : Ending) (buffer : FrameBuffer) : Operation → Answer × FrameBuffer
  | .push chunk => (.pushed, buffer.push chunk)
  | .put frame =>
    match buffer.put frame with
    | (result, next) => (.put result, next)
  | .take =>
    match buffer.take with
    | (result, next) => (.taken result, next)
  | .takeLast =>
    match ending buffer with
    | (result, next) => (.takenLast result, next)

def run (ending : Ending) (buffer : FrameBuffer) : List Operation → List Answer × FrameBuffer
  | [] => ([], buffer)
  | operation :: rest =>
    match buffer.step ending operation with
    | (answer, next) =>
      match next.run ending rest with
      | (answers, last) => (answer :: answers, last)

/-- The bytes that an operation adds at the end. -/
def Operation.added : Operation → Bytes
  | .push chunk => chunk
  | .put frame =>
    match frame.encode with
    | .ok written => written
    | .error _ => []
  | .take => []
  | .takeLast => []

def brought (operations : List Operation) : Bytes :=
  operations.flatMap Operation.added

def Answer.frame? : Answer → Option Frame
  | .pushed => none
  | .put _ => none
  | .taken (.ok found) => found
  | .taken (.error _) => none
  | .takenLast (.ok found) => found
  | .takenLast (.error _) => none

def taken (answers : List Answer) : List Frame :=
  answers.filterMap Answer.frame?

variable {ending : Ending}

theorem run_cons (buffer : FrameBuffer) (operation : Operation) (rest : List Operation) :
    buffer.run ending (operation :: rest) =
      ((buffer.step ending operation).1 :: ((buffer.step ending operation).2.run ending rest).1,
        ((buffer.step ending operation).2.run ending rest).2) :=
  rfl

theorem length_run (buffer : FrameBuffer) (operations : List Operation) :
    (buffer.run ending operations).1.length = operations.length := by
  induction operations generalizing buffer with
  | nil => rfl
  | cons operation rest ih => rw [run_cons, List.length_cons, List.length_cons, ih]

theorem getElem?_run (buffer : FrameBuffer) (operations : List Operation) (k : Nat) :
    (buffer.run ending operations).1[k]? =
      operations[k]?.map fun operation =>
        ((buffer.run ending (operations.take k)).2.step ending operation).1 := by
  induction operations generalizing buffer k with
  | nil => rfl
  | cons operation rest ih =>
    rw [run_cons]
    cases k with
    | zero => rfl
    | succ k =>
      rw [List.getElem?_cons_succ, List.getElem?_cons_succ, ih]
      rfl

theorem take_fst_run (buffer : FrameBuffer) (operations : List Operation) (k : Nat) :
    (buffer.run ending operations).1.take k = (buffer.run ending (operations.take k)).1 := by
  induction operations generalizing buffer k with
  | nil => cases k <;> rfl
  | cons operation rest ih =>
    cases k with
    | zero => rfl
    | succ k => rw [run_cons, List.take_succ_cons, List.take_succ_cons, run_cons, ih]

theorem snd_run_take_succ {operations : List Operation} {k : Nat} {operation : Operation}
    (h : operations[k]? = some operation) (buffer : FrameBuffer) :
    (buffer.run ending (operations.take (k + 1))).2 =
      ((buffer.run ending (operations.take k)).2.step ending operation).2 := by
  induction operations generalizing buffer k with
  | nil => cases h
  | cons first rest ih =>
    cases k with
    | zero =>
      cases h
      rfl
    | succ k =>
      rw [List.take_succ_cons, run_cons, List.take_succ_cons, run_cons]
      exact ih h _

theorem brought_cons (operation : Operation) (rest : List Operation) :
    brought (operation :: rest) = operation.added ++ brought rest :=
  List.flatMap_cons

theorem taken_cons (answer : Answer) (rest : List Answer) :
    taken (answer :: rest) = answer.frame?.toList ++ taken rest := by
  rw [taken, List.filterMap_cons]
  cases answer.frame? <;> rfl

/-- A frame adds its bytes or, if it cannot be written, nothing. -/
theorem put_eq (buffer : FrameBuffer) (frame : Frame) :
    buffer.put frame =
      (frame.encode.map fun _ => (), buffer.push (Operation.put frame).added) := by
  rw [put, Frame.encodeInto, push, Operation.added]
  cases frame.encode with
  | ok written => rfl
  | error fault =>
    rw [List.append_nil]
    rfl

inductive Taking (buffer : FrameBuffer) : Except Malformed (Option Frame) × FrameBuffer → Prop where
  | frame {frame : Frame} {rest : Bytes}
      (hread : Frame.read buffer.limits 0 buffer.bytes = .ok (frame, rest)) :
      Taking buffer (.ok (some frame), ⟨buffer.limits, rest⟩)
  | nothing (hread : Frame.read buffer.limits 0 buffer.bytes = .error .incomplete) :
      Taking buffer (.ok none, buffer)
  | fails {cause : Malformed}
      (hread : Frame.read buffer.limits 0 buffer.bytes = .error (.malformed cause)) :
      Taking buffer (.error cause, buffer)

theorem taking_take (buffer : FrameBuffer) : Taking buffer buffer.take := by
  unfold take
  split
  · rename_i hread
    exact .frame hread
  · rename_i hread
    exact .nothing hread
  · rename_i hread
    exact .fails hread

/-- What is documented about the end of a stream. A frame is taken and malformed bytes are refused
as before; bytes without a frame are left over. -/
structure Ending.Default (ending : Ending) : Prop where
  frame : ∀ {buffer rest frame}, take buffer = (.ok (some frame), rest) →
    ending buffer = (.ok (some frame), rest)
  finished : ∀ {buffer rest}, take buffer = (.ok none, rest) → rest.bytes = [] →
    ending buffer = (.ok none, rest)
  leftover : ∀ {buffer rest}, take buffer = (.ok none, rest) → rest.bytes ≠ [] →
    ending buffer = (.error .leftover, rest)
  malformed : ∀ {buffer rest cause}, take buffer = (.error cause, rest) →
    ending buffer = (.error (.malformed cause), rest)

theorem takeLast_default : takeLast.Default := by
  constructor
  · intro buffer rest frame h
    rw [takeLast, h]
  · intro buffer rest h hbytes
    simp only [takeLast, h, if_pos hbytes]
  · intro buffer rest h hbytes
    simp only [takeLast, h, if_neg hbytes]
  · intro buffer rest cause h
    rw [takeLast, h]

/-- The ending is taking, except that bytes without a frame are left over. -/
theorem Ending.Default.eq (h : ending.Default) (buffer : FrameBuffer) :
    (buffer.take.1 = .ok none → buffer.bytes ≠ [] →
      ending buffer = (.error .leftover, buffer)) ∧
    (buffer.take.1 ≠ .ok none ∨ buffer.bytes = [] →
      ending buffer = (buffer.take.1.mapError .malformed, buffer.take.2)) := by
  have htaking := taking_take buffer
  cases htake : buffer.take with
  | mk result rest =>
    rw [htake] at htaking
    cases htaking with
    | frame => exact ⟨nofun, fun _ => h.frame htake⟩
    | nothing =>
      refine ⟨fun _ => h.leftover htake, ?_⟩
      rintro (hsome | hbytes)
      · exact absurd rfl hsome
      · exact h.finished htake hbytes
    | fails => exact ⟨nofun, fun _ => h.malformed htake⟩

variable {limits : Limits}

def refusal (cause : Malformed) : Operation → Answer
  | .push _ => .pushed
  | .put frame => .put (frame.encode.map fun _ => ())
  | .take => .taken (.error cause)
  | .takeLast => .takenLast (.error (.malformed cause))

theorem step_of_malformed (hending : ending.Default) {s : Bytes} {cause : Malformed}
    (h : Frame.read limits 0 s = .error (.malformed cause)) (operation : Operation) :
    step ending ⟨limits, s⟩ operation =
      (refusal cause operation, ⟨limits, s ++ operation.added⟩) := by
  have htake : take ⟨limits, s⟩ = (.error cause, ⟨limits, s⟩) := by rw [take, h]
  cases operation with
  | push chunk => rfl
  | put frame =>
    rw [step, put_eq]
    rfl
  | take => simp only [step, htake, refusal, Operation.added, List.append_nil]
  | takeLast =>
    simp only [step, hending.malformed htake, refusal, Operation.added, List.append_nil]

theorem run_of_malformed (hending : ending.Default) {s : Bytes} {cause : Malformed}
    (h : Frame.read limits 0 s = .error (.malformed cause)) (operations : List Operation) :
    run ending ⟨limits, s⟩ operations =
      (operations.map (refusal cause), ⟨limits, s ++ brought operations⟩) := by
  induction operations generalizing s with
  | nil => simp [run, brought]
  | cons operation rest ih =>
    have hrest := ih (Frame.read_append_of_malformed h operation.added)
    rw [run_cons, step_of_malformed hending h, hrest, brought_cons, List.append_assoc]
    rfl

end RespStore.FrameBuffer
