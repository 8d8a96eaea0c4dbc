import RespStore.Proofs.Connection

/-!
# Phases of a connection

Events may come in any order, also those that were never asked for. An active connection closes,
at once or after its last answer, and does nothing from then on. It leaves once, when it closes.
-/

set_option autoImplicit false

namespace RespStore.Connection

/-- Runs events one after another, each with the store that it finds: between two events the store
may have been changed by others. -/
def run (connection : Connection) : List (Store × Event) → List Turn × Connection
  | [] => ([], connection)
  | (store, event) :: rest =>
    match (connection.step store event).connection.run rest with
    | (turns, last) => (connection.step store event :: turns, last)

theorem run_cons (connection : Connection) (store : Store) (event : Event)
    (rest : List (Store × Event)) :
    connection.run ((store, event) :: rest) =
      (connection.step store event :: ((connection.step store event).connection.run rest).1,
        ((connection.step store event).connection.run rest).2) :=
  rfl

theorem run_append (connection : Connection) (front back : List (Store × Event)) :
    connection.run (front ++ back) =
      ((connection.run front).1 ++ ((connection.run front).2.run back).1,
        ((connection.run front).2.run back).2) := by
  induction front generalizing connection with
  | nil => rfl
  | cons item rest ih =>
    obtain ⟨store, event⟩ := item
    rw [List.cons_append, run_cons, run_cons, ih]
    rfl

theorem length_run (connection : Connection) (events : List (Store × Event)) :
    (connection.run events).1.length = events.length := by
  induction events generalizing connection with
  | nil => rfl
  | cons item rest ih =>
    obtain ⟨store, event⟩ := item
    rw [run_cons, List.length_cons, List.length_cons, ih]

theorem getElem?_run (connection : Connection) (events : List (Store × Event)) (k : Nat) :
    (connection.run events).1[k]? =
      events[k]?.map fun item => (connection.run (events.take k)).2.step item.1 item.2 := by
  induction events generalizing connection k with
  | nil => rfl
  | cons item rest ih =>
    obtain ⟨store, event⟩ := item
    rw [run_cons]
    cases k with
    | zero => rfl
    | succ k =>
      rw [List.getElem?_cons_succ, List.getElem?_cons_succ, ih]
      rfl

inductive Reaction (connection : Connection) (store : Store) : Event → Turn → Prop where
  | closes {event : Event} (hcause : connection.phase = .active → ¬ event.Proceeds) :
      Reaction connection store event
        ⟨.stop, ⟨.closed, connection.decoder⟩, store, connection.phase ≠ .closed⟩
  | resumes (hactive : connection.phase = .active) :
      Reaction connection store .sent ⟨.read, connection, store, false⟩
  | answers {chunk : Bytes} {frames : List Frame} {next : Decoder}
      (hactive : connection.phase = .active) (hchunk : chunk ≠ [])
      (hfeed : connection.decoder.feed chunk = (.ok frames, next)) :
      Reaction connection store (.received chunk)
        ⟨requestOf (executeAll store frames).1, ⟨.active, next⟩, (executeAll store frames).2,
          false⟩
  | fails {chunk : Bytes} {cause : Malformed} {next : Decoder}
      (hactive : connection.phase = .active) (hchunk : chunk ≠ [])
      (hfeed : connection.decoder.feed chunk = (.error cause, next)) :
      Reaction connection store (.received chunk)
        ⟨.write (replyBytes (protocolError cause)), ⟨.closing, next⟩, store, false⟩

theorem reaction_step (connection : Connection) (store : Store) (event : Event) :
    Reaction connection store event (connection.step store event) := by
  obtain ⟨phase, decoder⟩ := connection
  cases event with
  | received chunk =>
    by_cases h : phase ≠ .active ∨ chunk = []
    · rw [step, if_pos h]
      refine .closes fun hactive hproceeds => ?_
      rcases h with hphase | hchunk
      · exact hphase hactive
      · exact hproceeds hchunk
    · obtain ⟨hactive, hchunk⟩ := not_or.1 h
      obtain rfl : phase = .active := Decidable.not_not.1 hactive
      rw [step_received hchunk]
      cases hfeed : decoder.feed chunk with
      | mk answer next =>
        cases answer with
        | ok frames =>
          rw [process_of_feed hfeed]
          exact .answers rfl hchunk hfeed
        | error cause =>
          rw [process_of_feed_error hfeed]
          exact .fails rfl hchunk hfeed
  | receiveFailed => exact .closes fun _ h => h
  | sent =>
    by_cases h : phase = .active
    · rw [step, if_pos h]
      exact .resumes h
    · rw [step, if_neg h]
      exact .closes fun hactive _ => h hactive
  | sendFailed => exact .closes fun _ h => h

inductive Phase.Moves : Phase → Phase → Prop where
  | active (next : Phase) : Moves .active next
  | closing : Moves .closing .closed
  | closed : Moves .closed .closed

/-- What holds of a turn in every phase and at every event. A connection that is not active does
nothing but close: it neither reads a chunk nor runs a frame. -/
structure Orderly (connection : Connection) (store : Store) (event : Event) (turn : Turn) :
    Prop where
  moves : Phase.Moves connection.phase turn.connection.phase
  stop : turn.request = .stop ↔ turn.connection.phase = .closed
  read : turn.request = .read → turn.connection.phase = .active
  write : ∀ bytes, turn.request = .write bytes →
    bytes ≠ [] ∧ (turn.connection.phase = .active ∨ turn.connection.phase = .closing)
  closing : turn.connection.phase = .closing → connection.phase = .active ∧
    ∃ chunk cause, event = .received chunk ∧ (connection.decoder.feed chunk).1 = .error cause
  idle : connection.phase ≠ .active →
    turn = ⟨.stop, ⟨.closed, connection.decoder⟩, store, connection.phase = .closing⟩
  leaves : turn.leaves = true ↔ connection.phase ≠ .closed ∧ turn.connection.phase = .closed

theorem moves_closed (phase : Phase) : phase.Moves .closed := by
  cases phase with
  | active => exact .active .closed
  | closing => exact .closing
  | closed => exact .closed

theorem requestOf_ne_stop (replies : List Frame) : requestOf replies ≠ .stop := by
  unfold requestOf
  split <;> nofun

theorem ne_nil_of_requestOf {replies : List Frame} {bytes : Bytes}
    (h : requestOf replies = .write bytes) : bytes ≠ [] := by
  unfold requestOf at h
  split at h
  · cases h
  · rename_i hreplies
    cases h
    rwa [ne_eq, repliesBytes_eq_nil_iff]

theorem orderly_step (connection : Connection) (store : Store) (event : Event) :
    Orderly connection store event (connection.step store event) := by
  have hreaction := reaction_step connection store event
  generalize connection.step store event = turn at hreaction
  cases hreaction with
  | closes hcause =>
    have hidle (h : connection.phase ≠ .active) :
        decide (connection.phase ≠ .closed) = decide (connection.phase = .closing) := by
      cases hphase : connection.phase with
      | active => exact absurd hphase h
      | closing | closed => rfl
    exact {
      moves := moves_closed connection.phase
      stop := by simp
      read := nofun
      write := nofun
      closing := nofun
      idle := fun h => by rw [hidle h]
      leaves := by simp }
  | resumes hactive =>
    exact {
      moves := by rw [hactive]; exact .active .active
      stop := by simp [hactive]
      read := fun _ => hactive
      write := nofun
      closing := by simp [hactive]
      idle := fun h => absurd hactive h
      leaves := by simp [hactive] }
  | answers hactive hchunk hfeed =>
    exact {
      moves := by rw [hactive]; exact .active .active
      stop := by simp [requestOf_ne_stop]
      read := fun _ => rfl
      write := fun bytes h => ⟨ne_nil_of_requestOf h, .inl rfl⟩
      closing := nofun
      idle := fun h => absurd hactive h
      leaves := by simp }
  | @fails chunk cause next hactive hchunk hfeed =>
    have hwritten : ∀ bytes, Request.write (replyBytes (protocolError cause)) = .write bytes →
        bytes ≠ [] := by
      intro bytes h
      cases h
      exact replyBytes_ne_nil (protocolError cause)
    exact {
      moves := by rw [hactive]; exact .active .closing
      stop := by simp
      read := nofun
      write := fun bytes h => ⟨hwritten bytes h, .inr rfl⟩
      closing := fun _ => ⟨hactive, chunk, cause, rfl, congrArg Prod.fst hfeed⟩
      idle := fun h => absurd hactive h
      leaves := by simp }

theorem phase_run_of_closed {connection : Connection} (h : connection.phase = .closed)
    (events : List (Store × Event)) : (connection.run events).2.phase = .closed := by
  induction events generalizing connection with
  | nil => exact h
  | cons item rest ih =>
    obtain ⟨store, event⟩ := item
    have hidle := (orderly_step connection store event).idle (by simp [h])
    rw [run_cons]
    exact ih (by rw [hidle])

theorem run_of_not_active {connection : Connection} (h : connection.phase ≠ .active)
    (events : List (Store × Event)) :
    (connection.run events).1.map (fun turn => (turn.store, turn.request)) =
      events.map fun item => (item.1, .stop) := by
  induction events generalizing connection with
  | nil => rfl
  | cons item rest ih =>
    obtain ⟨store, event⟩ := item
    have hidle := (orderly_step connection store event).idle h
    rw [run_cons, List.map_cons, ih (by rw [hidle]; nofun), hidle]
    rfl

theorem countP_leaves_run (connection : Connection) (events : List (Store × Event)) :
    (connection.run events).1.countP Turn.leaves =
      if connection.phase ≠ .closed ∧ (connection.run events).2.phase = .closed then 1 else 0 := by
  induction events generalizing connection with
  | nil =>
    rw [if_neg]
    · rfl
    · rintro ⟨hopen, hclosed⟩
      exact hopen hclosed
  | cons item rest ih =>
    obtain ⟨store, event⟩ := item
    have horderly := orderly_step connection store event
    rw [run_cons, List.countP_cons, ih]
    by_cases hleaves : (connection.step store event).leaves = true
    · obtain ⟨hopen, hclosed⟩ := horderly.leaves.1 hleaves
      have hlast := phase_run_of_closed hclosed rest
      simp [hleaves, hopen, hclosed, hlast]
    -- No turn leaves after the connection is closed, and until it leaves it is not.
    · have hstays : connection.phase = .closed ↔
          (connection.step store event).connection.phase = .closed := by
        constructor
        · intro h
          rw [horderly.idle (by simp [h])]
        · intro h
          exact Decidable.not_not.1 fun hopen => hleaves (horderly.leaves.2 ⟨hopen, h⟩)
      rw [if_neg hleaves, Nat.add_zero]
      simp only [ne_eq, hstays]

/-- Whatever the connection and whatever happens in whatever order, each turn is orderly: the phase
never goes back, a closed connection stops, an active one may read, nothing empty is written, only
malformed input leads to closing, and after that no chunk is read and no frame run. The connection
leaves once if it closes and never otherwise. -/
theorem run_orderly (connection : Connection) (events : List (Store × Event)) :
    ∃ turns last, connection.run events = (turns, last) ∧ turns.length = events.length ∧
      (∀ (k : Nat) (store : Store) (event : Event) (turn : Turn),
        events[k]? = some (store, event) → turns[k]? = some turn →
        Orderly (connection.run (events.take k)).2 store event turn) ∧
      turns.countP Turn.leaves =
        if connection.phase ≠ .closed ∧ last.phase = .closed then 1 else 0 := by
  refine ⟨_, _, rfl, length_run connection events, ?_, countP_leaves_run connection events⟩
  intro k store event turn hevent hturn
  rw [getElem?_run, hevent, Option.map_some, Option.some.injEq] at hturn
  rw [← hturn]
  exact orderly_step _ store event

end RespStore.Connection
