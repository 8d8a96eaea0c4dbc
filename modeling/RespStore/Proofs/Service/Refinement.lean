import RespStore.Proofs.Service.Schedule

/-!
# Services run the log

A service whose streams are not malformed does what running its log does, however the streams are
cut into chunks and however the events of the connections are interleaved.
-/

set_option autoImplicit false

namespace RespStore.Service

open Connection (Event Turn repliesBytes requestOf)
open RespStore.Frame (readAll completed)

def start (limits : Nat → Limits) (store : Store) : Service :=
  ⟨store, fun number => Connection.fresh (limits number)⟩

def Tracks (limits : Nat → Limits) (before : List (Nat × Event)) (service : Service) : Prop :=
  ∀ number, ∃ frames held, readAll (limits number) (stream number before) = .ok (frames, held) ∧
    service.connections number = ⟨.active, ⟨limits number, held⟩⟩

/-- What the turns of events and the store after them have to do with the log. -/
structure Follows (limits : Nat → Limits) (before events : List (Nat × Event)) (store : Store)
    (turns : List Turn) (last : Store) : Prop where
  length : turns.length = events.length
  active : ∀ turn ∈ turns, turn.connection.phase = .active
  last : last = (executeAll store ((log limits before events).map Prod.snd)).2
  written : ∀ number, written number events turns =
    repliesBytes (atNumber number (repliesTo store (log limits before events)))
  read : ∀ k event turn, events[k]? = some event → turns[k]? = some turn →
    (turn.request = .read ↔ delivered limits (before ++ events.take k) event = [])

variable {limits : Nat → Limits}

theorem tracks_start (limits : Nat → Limits) (store : Store) :
    Tracks limits [] (start limits store) :=
  fun _ => ⟨[], [], Frame.readAll_nil, rfl⟩

theorem run_cons (service : Service) (event : Nat × Event) (rest : List (Nat × Event)) :
    service.run (event :: rest) =
      ((service.step event.1 event.2).1 :: ((service.step event.1 event.2).2.run rest).1,
        ((service.step event.1 event.2).2.run rest).2) :=
  rfl

theorem step_of_tracks {before : List (Nat × Event)} {event : Nat × Event} {service : Service}
    (htracks : Tracks limits before service) (hproceeds : event.2.Proceeds)
    (hformed : ∀ cause,
      readAll (limits event.1) (stream event.1 (before ++ [event])) ≠ .error cause) :
    ∃ turn next, service.step event.1 event.2 = (turn, next) ∧
      turn.request = requestOf (executeAll service.store (delivered limits before event)).1 ∧
      turn.connection.phase = .active ∧
      next.store = (executeAll service.store (delivered limits before event)).2 ∧
      Tracks limits (before ++ [event]) next := by
  obtain ⟨number, event⟩ := event
  obtain ⟨frames, held, hbefore, hconnection⟩ := htracks number
  have hstream :
      stream number (before ++ [(number, event)]) = stream number before ++ event.chunk := by
    rw [stream_append_singleton, if_pos rfl]
  cases hall : readAll (limits number) (stream number (before ++ [(number, event)])) with
  | error cause => exact absurd hall (hformed cause)
  | ok result =>
    obtain ⟨frames', held'⟩ := result
    have hchunk := hall
    rw [hstream] at hchunk
    have hturn := Connection.step_of_ok hproceeds hbefore hchunk service.store
    rw [← hconnection] at hturn
    refine ⟨_, _, by rw [step, hturn], rfl, rfl, rfl, ?_⟩
    -- Only the connection of the event has changed, and only its stream has grown.
    intro other
    by_cases h : other = number
    · subst h
      exact ⟨frames', held', hall, if_pos rfl⟩
    · obtain ⟨frames'', held'', hother, hconnection'⟩ := htracks other
      refine ⟨frames'', held'', ?_, ?_⟩
      · rw [stream_append_singleton, if_neg (Ne.symm h)]
        exact hother
      · rw [← hconnection']
        exact if_neg h

theorem Follows.cons {before rest : List (Nat × Event)} {event : Nat × Event} {store last : Store}
    {turn : Turn} {turns : List Turn}
    (hrequest : turn.request = requestOf (executeAll store (delivered limits before event)).1)
    (hactive : turn.connection.phase = .active)
    (hrest : Follows limits (before ++ [event]) rest
      (executeAll store (delivered limits before event)).2 turns last) :
    Follows limits before (event :: rest) store (turn :: turns) last := by
  constructor
  · rw [List.length_cons, hrest.length, List.length_cons]
  · intro other hmem
    rcases List.mem_cons.1 hmem with rfl | hmem
    · exact hactive
    · exact hrest.active other hmem
  · rw [log, List.map_append, map_snd_map_mk, executeAll_append]
    exact hrest.last
  -- The replies to the frames of this event are written at once, those of the rest later.
  · intro number
    rw [written_cons, hrest.written, hrequest, Connection.written_requestOf, log,
      repliesTo_append, atNumber_append, Connection.repliesBytes_append, map_snd_map_mk,
      repliesTo_map_mk, atNumber_map_mk]
    by_cases h : event.1 = number
    · rw [if_pos h, if_pos h]
    · rw [if_neg h, if_neg h]
      rfl
  · intro k other turn' hevent hturn
    cases k with
    | zero =>
      cases hevent
      cases hturn
      rw [hrequest, Connection.requestOf_eq_read_iff, executeAll_eq_nil_iff, List.take_zero,
        List.append_nil]
    | succ k =>
      have hread := hrest.read k other turn' hevent hturn
      rw [hread, List.take_succ_cons, List.append_assoc]
      rfl

theorem run_of_tracks {before events : List (Nat × Event)} {service : Service}
    (htracks : Tracks limits before service) (hproceeds : ∀ event ∈ events, event.2.Proceeds)
    (hformed : ∀ number cause,
      readAll (limits number) (stream number (before ++ events)) ≠ .error cause) :
    Tracks limits (before ++ events) (service.run events).2 ∧
      Follows limits before events service.store (service.run events).1
        (service.run events).2.store := by
  induction events generalizing before service with
  | nil =>
    rw [List.append_nil]
    exact ⟨htracks, rfl, nofun, rfl, fun _ => rfl, nofun⟩
  | cons event rest ih =>
    rw [List.append_cons] at hformed ⊢
    have hfirst : ∀ cause,
        readAll (limits event.1) (stream event.1 (before ++ [event])) ≠ .error cause := by
      intro cause h
      apply hformed event.1 cause
      rw [stream_append]
      exact Frame.readAll_append_of_error h _
    obtain ⟨turn, next, hstep, hrequest, hactive, hstore, hnext⟩ :=
      step_of_tracks htracks (hproceeds event List.mem_cons_self) hfirst
    have hlater : ∀ event ∈ rest, event.2.Proceeds := by
      intro event hmem
      exact hproceeds event (List.mem_cons_of_mem _ hmem)
    obtain ⟨hlast, hfollows⟩ := ih hnext hlater hformed
    rw [hstore] at hfollows
    rw [run_cons, hstep]
    exact ⟨hlast, hfollows.cons hrequest hactive⟩

theorem readAll_stream_append {before events : List (Nat × Event)} {number : Nat}
    {frames frames' : List Frame} {held held' : Bytes}
    (hbefore : readAll (limits number) (stream number before) = .ok (frames, held))
    (hevents : readAll (limits number) (stream number (before ++ events)) = .ok (frames', held')) :
    frames' = frames ++ atNumber number (log limits before events) := by
  induction events generalizing before frames held with
  | nil =>
    rw [List.append_nil, hbefore] at hevents
    cases hevents
    exact (List.append_nil _).symm
  | cons event rest ih =>
    rw [List.append_cons] at hevents
    rw [log, atNumber_append, atNumber_map_mk]
    have hstream := stream_append_singleton number before event
    by_cases h : event.1 = number
    · subst h
      rw [if_pos rfl] at hstream ⊢
      have hevents' := hevents
      rw [stream_append, hstream] at hevents'
      obtain ⟨middle, held₁, hchunk⟩ := Frame.exists_readAll_of_append hevents'
      have hmiddle := (Frame.readAll_held_append hbefore hchunk).2
      rw [← hstream] at hchunk
      rw [ih hchunk hevents, hmiddle, List.append_assoc]
      rfl
    · rw [if_neg h] at hstream ⊢
      rw [← hstream] at hbefore
      exact ih hbefore hevents

theorem eq_number_of_mem_log {before events : List (Nat × Event)} {number : Nat}
    (h : ∀ event ∈ events, event.1 = number) :
    ∀ entry ∈ log limits before events, entry.1 = number := by
  induction events generalizing before with
  | nil => nofun
  | cons event rest ih =>
    intro entry hmem
    rcases List.mem_append.1 hmem with hfirst | hrest
    · obtain ⟨_, -, rfl⟩ := List.mem_map.1 hfirst
      exact h event List.mem_cons_self
    · exact ih (fun event hmem => h event (List.mem_cons_of_mem _ hmem)) entry hrest

theorem log_eq_of_all {events : List (Nat × Event)} {number : Nat} {frames : List Frame}
    {held : Bytes} (h : ∀ event ∈ events, event.1 = number)
    (hevents : readAll (limits number) (stream number events) = .ok (frames, held)) :
    log limits [] events = frames.map (Prod.mk number) := by
  have hnil : readAll (limits number) (stream number []) = .ok ([], []) := Frame.readAll_nil
  have hframes := readAll_stream_append hnil hevents
  rw [hframes]
  exact (map_mk_atNumber (eq_number_of_mem_log h)).symm

/-- A service whose streams are not malformed runs the log, the frames in the order in which their
last bytes arrive: each frame once, each unfinished one not at all. Its connections stay active and
each is written the replies to its own frames, in order. A connection reads on at once just when an
event completes none. With one connection only the bytes of its stream matter. -/
theorem run_refines_executeAll (limits : Nat → Limits) (store : Store)
    (events : List (Nat × Event)) (hproceeds : ∀ event ∈ events, event.2.Proceeds)
    (hformed : ∀ number cause, readAll (limits number) (stream number events) ≠ .error cause) :
    ∃ turns last, (start limits store).run events = (turns, last) ∧
      turns.length = events.length ∧
      (∀ turn ∈ turns, turn.connection.phase = .active) ∧
      (∀ number, ∃ held,
        readAll (limits number) (stream number events) =
          .ok (atNumber number (log limits [] events), held) ∧
        last.connections number = ⟨.active, ⟨limits number, held⟩⟩) ∧
      last.store = (executeAll store ((log limits [] events).map Prod.snd)).2 ∧
      (∀ number, written number events turns =
        repliesBytes (atNumber number (repliesTo store (log limits [] events)))) ∧
      (∀ k event turn, events[k]? = some event → turns[k]? = some turn →
        (turn.request = .read ↔ delivered limits (events.take k) event = [])) ∧
      ∀ number frames held, (∀ event ∈ events, event.1 = number) →
        readAll (limits number) (stream number events) = .ok (frames, held) →
        written number events turns = repliesBytes (executeAll store frames).1 ∧
          last.store = (executeAll store frames).2 := by
  obtain ⟨htracks, hfollows⟩ := run_of_tracks (tracks_start limits store) hproceeds hformed
  refine ⟨_, _, rfl, hfollows.length, hfollows.active, ?_, hfollows.last, hfollows.written,
    hfollows.read, ?_⟩
  · intro number
    obtain ⟨frames, held, hread, hconnection⟩ := htracks number
    have hframes := readAll_stream_append Frame.readAll_nil hread
    rw [hframes] at hread
    exact ⟨held, hread, hconnection⟩
  · intro number frames held hnumber hread
    have hlog := log_eq_of_all hnumber hread
    have hwritten := hfollows.written number
    have hlast := hfollows.last
    rw [hlog, repliesTo_map_mk, atNumber_map_mk, if_pos rfl] at hwritten
    rw [hlog, map_snd_map_mk] at hlast
    exact ⟨hwritten, hlast⟩

def increment : Bytes :=
  [42, 50, 13, 10, 36, 52, 13, 10, 73, 78, 67, 82, 13, 10, 36, 49, 13, 10, 107, 13, 10]

/-- Two connections increment one key. The command that starts first is complete last. -/
def overtaking : List (Nat × Event) :=
  [(1, .received (increment.take 10)), (2, .received increment), (2, .sent),
    (1, .received (increment.drop 10))]

theorem proceeds_overtaking : ∀ event ∈ overtaking, event.2.Proceeds := by
  simp [overtaking, increment, Event.Proceeds]

theorem readAll_stream_overtaking (number : Nat) (cause : Malformed) :
    readAll .standard (stream number overtaking) ≠ .error cause := by
  intro h
  have hread : readAll .standard increment =
      .ok ([.array [.bulk [73, 78, 67, 82], .bulk [107]]], []) := by with_unfolding_all rfl
  have hstream : stream number overtaking = increment ∨ stream number overtaking = [] := by
    by_cases hone : number = 1
    · exact .inl (by rw [hone]; rfl)
    by_cases htwo : number = 2
    · exact .inl (by rw [htwo]; rfl)
    exact .inr (by simp [stream, overtaking, atNumber, Ne.symm hone, Ne.symm htwo])
  rcases hstream with hstream | hstream
  · rw [hstream, hread] at h
    cases h
  · rw [hstream, Frame.readAll_nil] at h
    cases h

theorem run_overtaking :
    ∃ turns last, (start (fun _ => .standard) .empty).run overtaking = (turns, last) ∧
      written 1 overtaking turns = [58, 50, 13, 10] ∧
      written 2 overtaking turns = [58, 49, 13, 10] := by
  obtain ⟨turns, last, hrun, -, -, -, -, hwritten, -⟩ :=
    run_refines_executeAll (fun _ => .standard) .empty overtaking proceeds_overtaking
      readAll_stream_overtaking
  refine ⟨turns, last, hrun, ?_, ?_⟩
  · rw [hwritten]
    with_unfolding_all rfl
  · rw [hwritten]
    with_unfolding_all rfl

end RespStore.Service
