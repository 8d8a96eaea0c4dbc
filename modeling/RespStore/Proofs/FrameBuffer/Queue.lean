import RespStore.Proofs.FrameBuffer.Operations

set_option autoImplicit false

namespace RespStore.FrameBuffer

/-- The frame that an operation puts in, if it can be written. -/
def Operation.accepted? : Operation → Option Frame
  | .put frame =>
    match frame.encode with
    | .ok _ => some frame
    | .error _ => none
  | .push _ => none
  | .take => none
  | .takeLast => none

def accepted (operations : List Operation) : List Frame :=
  operations.filterMap Operation.accepted?

theorem accepted_cons (operation : Operation) (rest : List Operation) :
    accepted (operation :: rest) = operation.accepted?.toList ++ accepted rest := by
  rw [accepted, List.filterMap_cons]
  cases operation.accepted? <;> rfl

variable {ending : Ending} {limits : Limits} {pending : List Frame}

theorem take_bytesOfAll (h : ∀ frame ∈ pending, frame.Fits limits) :
    take ⟨limits, Frame.bytesOfAll pending⟩ =
      (.ok pending.head?, ⟨limits, Frame.bytesOfAll pending.tail⟩) := by
  cases pending with
  | nil =>
    rw [take, Frame.bytesOfAll, Frame.read_nil]
    rfl
  | cons frame rest =>
    have hread := (h frame List.mem_cons_self).read_bytes (Frame.bytesOfAll rest)
    rw [take, Frame.bytesOfAll, hread]
    rfl

theorem ending_bytesOfAll (hending : ending.Default)
    (h : ∀ frame ∈ pending, frame.Fits limits) :
    ending ⟨limits, Frame.bytesOfAll pending⟩ =
      (.ok pending.head?, ⟨limits, Frame.bytesOfAll pending.tail⟩) := by
  have htake := take_bytesOfAll h
  cases pending with
  | nil => exact hending.finished htake rfl
  | cons frame rest => exact hending.frame htake

theorem put_of_unbroken {frame : Frame} (h : frame.Unbroken) (buffer : FrameBuffer) :
    buffer.put frame = (.ok (), buffer.push frame.bytes) := by
  simp only [put, Frame.encodeInto, Frame.encode_of_unbroken h, push]

theorem put_of_broken {frame : Frame} (h : ¬ frame.Unbroken) (buffer : FrameBuffer) :
    ∃ fault, buffer.put frame = (.error fault, buffer) := by
  obtain ⟨fault, hencode⟩ := Frame.exists_encode_of_broken h
  exact ⟨fault, by simp only [put, Frame.encodeInto, hencode]⟩

/-- What one operation puts in comes after all that is still there, and what it takes comes
first. -/
theorem step_bytesOfAll (hending : ending.Default)
    (hpending : ∀ frame ∈ pending, frame.Fits limits) {operation : Operation}
    (hpush : ∀ chunk, operation ≠ .push chunk)
    (hfits : ∀ frame, operation = .put frame → frame.Unbroken → frame.Fits limits) :
    ∃ later, (∀ frame ∈ later, frame.Fits limits) ∧
      (step ending ⟨limits, Frame.bytesOfAll pending⟩ operation).2 =
        ⟨limits, Frame.bytesOfAll later⟩ ∧
      pending ++ operation.accepted?.toList =
        (step ending ⟨limits, Frame.bytesOfAll pending⟩ operation).1.frame?.toList ++ later := by
  have htail : ∀ frame ∈ pending.tail, frame.Fits limits :=
    fun frame hmem => hpending frame (List.mem_of_mem_tail hmem)
  have hhead : pending ++ [] = pending.head?.toList ++ pending.tail := by
    cases pending <;> simp
  cases operation with
  | push chunk => exact absurd rfl (hpush chunk)
  | put frame =>
    by_cases h : frame.Unbroken
    · refine ⟨pending ++ [frame], ?_, ?_, ?_⟩
      · intro other hmem
        rcases List.mem_append.1 hmem with hmem | hmem
        · exact hpending other hmem
        · rw [List.mem_singleton.1 hmem]
          exact hfits frame rfl h
      · simp only [step, put_of_unbroken h, push, Frame.bytesOfAll_append, Frame.bytesOfAll,
          List.append_nil]
      · simp only [step, put_of_unbroken h, Operation.accepted?, Frame.encode_of_unbroken h]
        rfl
    · obtain ⟨fault, hencode⟩ := Frame.exists_encode_of_broken h
      refine ⟨pending, hpending, ?_, ?_⟩
      · simp only [step, put, Frame.encodeInto, hencode]
      · simp only [step, put, Frame.encodeInto, Operation.accepted?, hencode]
        exact List.append_nil _
  | take =>
    rw [step, take_bytesOfAll hpending]
    exact ⟨pending.tail, htail, rfl, hhead⟩
  | takeLast =>
    rw [step, ending_bytesOfAll hending hpending]
    exact ⟨pending.tail, htail, rfl, hhead⟩

theorem run_bytesOfAll (hending : ending.Default) {operations : List Operation}
    (hpending : ∀ frame ∈ pending, frame.Fits limits)
    (hpush : ∀ chunk, .push chunk ∉ operations)
    (hfits : ∀ frame, .put frame ∈ operations → frame.Unbroken → frame.Fits limits) :
    ∃ later, (∀ frame ∈ later, frame.Fits limits) ∧
      (run ending ⟨limits, Frame.bytesOfAll pending⟩ operations).2 =
        ⟨limits, Frame.bytesOfAll later⟩ ∧
      pending ++ accepted operations =
        taken (run ending ⟨limits, Frame.bytesOfAll pending⟩ operations).1 ++ later := by
  induction operations generalizing pending with
  | nil => exact ⟨pending, hpending, rfl, List.append_nil _⟩
  | cons operation rest ih =>
    have hfirst : ∀ chunk, operation ≠ .push chunk := by
      rintro chunk rfl
      exact hpush chunk List.mem_cons_self
    obtain ⟨middle, hmiddle, hnext, hstep⟩ := step_bytesOfAll hending hpending hfirst
      fun frame heq => hfits frame (heq ▸ List.mem_cons_self)
    obtain ⟨later, hlater, hlast, hrest⟩ := ih hmiddle
      (fun chunk hmem => hpush chunk (List.mem_cons_of_mem _ hmem))
      (fun frame hmem => hfits frame (List.mem_cons_of_mem _ hmem))
    refine ⟨later, hlater, ?_, ?_⟩
    · rw [run_cons, hnext, hlast]
    · rw [run_cons, hnext, taken_cons, accepted_cons, ← List.append_assoc, hstep,
        List.append_assoc, hrest, List.append_assoc]

theorem run_empty (hending : ending.Default) {operations : List Operation}
    (hpush : ∀ chunk, .push chunk ∉ operations)
    (hfits : ∀ frame, .put frame ∈ operations → frame.Unbroken →
      frame.Countable ∧ frame.Within limits) :
    ∃ later, (∀ frame ∈ later, frame.Fits limits) ∧
      ((empty limits).run ending operations).2 = ⟨limits, Frame.bytesOfAll later⟩ ∧
      accepted operations = taken ((empty limits).run ending operations).1 ++ later := by
  have hnone : ∀ frame ∈ ([] : List Frame), frame.Fits limits := nofun
  apply run_bytesOfAll hending hnone hpush
  intro frame hmem hunbroken
  obtain ⟨hcountable, hwithin⟩ := hfits frame hmem hunbroken
  exact ⟨hunbroken, hcountable, hwithin⟩

/-- A buffer to which no bytes are pushed, and no frames beyond its limits, is a queue: at any time
the frames put in are those taken out and then those whose bytes it holds, and of these the first
one is taken next. Nothing is taken only if nothing is there, taking never fails, and a frame that
cannot be written leaves the buffer as it is. -/
theorem run_fifo {ending : Ending} (hending : ending.Default) (limits : Limits)
    (operations : List Operation)
    (hpush : ∀ chunk, .push chunk ∉ operations)
    (hfits : ∀ frame, .put frame ∈ operations → frame.Unbroken →
      frame.Countable ∧ frame.Within limits) :
    ∃ answers buffer, (empty limits).run ending operations = (answers, buffer) ∧
      answers.length = operations.length ∧
      ∀ k, ∃ pending,
        accepted (operations.take k) = taken (answers.take k) ++ pending ∧
        ((empty limits).run ending (operations.take k)).2 = ⟨limits, Frame.bytesOfAll pending⟩ ∧
        (pending = [] ↔ Frame.bytesOfAll pending = []) ∧
        (operations[k]? = some .take → answers[k]? = some (.taken (.ok pending.head?))) ∧
        (operations[k]? = some .takeLast →
          answers[k]? = some (.takenLast (.ok pending.head?))) ∧
        ∀ frame, operations[k]? = some (.put frame) →
          (frame.Unbroken → answers[k]? = some (.put (.ok ()))) ∧
          (¬ frame.Unbroken → ∃ fault, answers[k]? = some (.put (.error fault)) ∧
            ((empty limits).run ending (operations.take (k + 1))).2 =
              ((empty limits).run ending (operations.take k)).2) := by
  refine ⟨_, _, rfl, length_run _ operations, fun k => ?_⟩
  have hanswer := @getElem?_run ending (empty limits) operations k
  obtain ⟨pending, hpending, hbuffer, hqueue⟩ :=
    run_empty hending (fun chunk hmem => hpush chunk (List.mem_of_mem_take hmem))
      fun frame hmem => hfits frame (List.mem_of_mem_take hmem)
  rw [hbuffer] at hanswer
  rw [take_fst_run]
  refine ⟨pending, hqueue, hbuffer, (Frame.bytesOfAll_eq_nil_iff pending).symm, ?_, ?_, ?_⟩
  · intro hoperation
    rw [hanswer, hoperation, Option.map_some, step, take_bytesOfAll hpending]
  · intro hoperation
    rw [hanswer, hoperation, Option.map_some, step, ending_bytesOfAll hending hpending]
  · intro frame hoperation
    rw [hanswer, snd_run_take_succ hoperation, hbuffer, hoperation, Option.map_some, step]
    constructor
    · intro h
      rw [put_of_unbroken h]
    · intro h
      obtain ⟨fault, hput⟩ := put_of_broken h ⟨limits, Frame.bytesOfAll pending⟩
      rw [hput]
      exact ⟨fault, rfl, rfl⟩

def exchange : List Operation :=
  [.take, .put (.array [.bulk [1], .integer 7]), .put (.array [.simple "a\nb"]), .put .null, .take,
    .takeLast, .take]

theorem run_fifo_exchange :
    ∃ answers buffer, (empty ⟨1, 2, 1⟩).run takeLast exchange = (answers, buffer) ∧
      accepted (exchange.take 6) = taken (answers.take 6) ∧
      answers[6]? = some (.taken (.ok none)) := by
  have hpush : ∀ chunk, .push chunk ∉ exchange := by simp [exchange]
  have hfits : ∀ frame, .put frame ∈ exchange → frame.Unbroken →
      frame.Countable ∧ frame.Within ⟨1, 2, 1⟩ := by
    intro frame hmem _
    simp only [exchange, List.mem_cons, Operation.put.injEq, reduceCtorEq, false_or, or_false,
      List.not_mem_nil] at hmem
    rw [Frame.within_iff]
    rcases hmem with rfl | rfl | rfl
    · exact ⟨by unfold Frame.Countable Frame.Everywhere; decide, rfl⟩
    · exact ⟨by unfold Frame.Countable Frame.Everywhere; decide, rfl⟩
    · exact ⟨by unfold Frame.Countable Frame.Everywhere; decide, rfl⟩
  obtain ⟨answers, buffer, hrun, -, hqueue⟩ :=
    run_fifo takeLast_default ⟨1, 2, 1⟩ exchange hpush hfits
  have hempty : ((empty ⟨1, 2, 1⟩).run takeLast (exchange.take 6)).2 = ⟨⟨1, 2, 1⟩, []⟩ := by
    with_unfolding_all rfl
  obtain ⟨pending, haccepted, hbuffer, hpending, htake, -⟩ := hqueue 6
  have hnil : pending = [] := by
    rw [hempty] at hbuffer
    exact hpending.2 (congrArg FrameBuffer.bytes hbuffer).symm
  refine ⟨answers, buffer, hrun, ?_, ?_⟩
  · rw [haccepted, hnil, List.append_nil]
  · rw [htake rfl, hnil]
    rfl

end RespStore.FrameBuffer
