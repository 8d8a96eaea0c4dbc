import RespStore.Proofs.Command.Effects
import RespStore.Proofs.Service.Refinement

set_option autoImplicit false

namespace RespStore

theorem executeAll_eq_self {store : Store} {frames : List Frame}
    (h : ∀ found frame, (found, frame) ∈ executions store frames →
      ∀ key, (execute found frame).2.get? key = found.get? key) :
    (executeAll store frames).2 = store := by
  induction frames generalizing store with
  | nil => rfl
  | cons frame rest ih =>
    have hframe : (execute store frame).2 = store :=
      ((Frame.changeless_iff store frame).2 (h store frame List.mem_cons_self)).execute_eq_self
    have hrest := ih fun found frame hmem => h found frame (List.mem_cons_of_mem _ hmem)
    calc (executeAll store (frame :: rest)).2
        = (executeAll (execute store frame).2 rest).2 := rfl
      _ = (execute store frame).2 := hrest
      _ = store := hframe

namespace Connection

def frames (connection : Connection) : Event → List Frame
  | .received chunk =>
    if connection.phase ≠ .active ∨ chunk = [] then []
    else
      match connection.decoder.feed chunk with
      | (.ok frames, _) => frames
      | (.error _, _) => []
  | .receiveFailed => []
  | .sent => []
  | .sendFailed => []

theorem store_step (connection : Connection) (store : Store) (event : Event) :
    (connection.step store event).store = (executeAll store (connection.frames event)).2 := by
  cases event with
  | received chunk =>
    simp only [step, frames]
    split
    · rfl
    · unfold process
      cases connection.decoder.feed chunk with
      | mk answer next => cases answer <;> rfl
  | sent =>
    rw [step]
    split <;> rfl
  | receiveFailed | sendFailed => rfl

end Connection

namespace Service

open Connection (Event Turn)

/-- All frames that run at the events of a service, each with the number of its connection and the
store that it finds. -/
def executions (service : Service) : List (Nat × Event) → List (Nat × (Store × Frame))
  | [] => []
  | (number, event) :: rest =>
    (RespStore.executions service.store ((service.connections number).frames event)).map
      (Prod.mk number) ++ (service.step number event).2.executions rest

def without {α : Type} (number : Nat) (items : List (Nat × α)) : List (Nat × α) :=
  items.filter fun item => item.1 ≠ number

theorem without_cons_self {α : Type} (number : Nat) (item : α) (rest : List (Nat × α)) :
    without number ((number, item) :: rest) = without number rest :=
  List.filter_cons_of_neg (by simp)

theorem without_cons_of_ne {α : Type} {number other : Nat} (h : other ≠ number) (item : α)
    (rest : List (Nat × α)) :
    without number ((other, item) :: rest) = (other, item) :: without number rest :=
  List.filter_cons_of_pos (decide_eq_true h)

theorem length_run (service : Service) (events : List (Nat × Event)) :
    (service.run events).1.length = events.length := by
  induction events generalizing service with
  | nil => rfl
  | cons event rest ih => rw [run_cons, List.length_cons, List.length_cons, ih]

structure Alike (number : Nat) (service reduced : Service) : Prop where
  store : service.store = reduced.store
  connections : ∀ other, other ≠ number → service.connections other = reduced.connections other

variable {number : Nat} {service reduced : Service}

theorem Alike.step_self (h : Alike number service reduced) {event : Event}
    (hstore : (service.step number event).2.store = service.store) :
    Alike number (service.step number event).2 reduced := by
  constructor
  · rw [hstore, h.store]
  · intro other hother
    rw [← h.connections other hother]
    exact if_neg hother

theorem Alike.step_other (h : Alike number service reduced) {other : Nat} (hother : other ≠ number)
    (event : Event) :
    (service.step other event).1 = (reduced.step other event).1 ∧
      Alike number (service.step other event).2 (reduced.step other event).2 := by
  have hturn : (service.step other event).1 = (reduced.step other event).1 := by
    simp only [step, h.store, h.connections other hother]
  refine ⟨hturn, congrArg Turn.store hturn, ?_⟩
  intro third hthird
  by_cases heq : third = other
  · have hconnection := congrArg Turn.connection hturn
    simp only [step, if_pos heq] at hconnection ⊢
    exact hconnection
  · simp only [step, if_neg heq]
    exact h.connections third hthird

theorem Alike.run (h : Alike number service reduced) {events : List (Nat × Event)}
    (hchangeless : ∀ store frame, (number, (store, frame)) ∈ service.executions events →
      ∀ key, (execute store frame).2.get? key = store.get? key) :
    ((without number events).map Prod.fst).zip (reduced.run (without number events)).1 =
        without number ((events.map Prod.fst).zip (service.run events).1) ∧
      Alike number (service.run events).2 (reduced.run (without number events)).2 := by
  induction events generalizing service reduced with
  | nil => exact ⟨rfl, h⟩
  | cons item rest ih =>
    obtain ⟨other, event⟩ := item
    have hlater : ∀ store frame,
        (number, (store, frame)) ∈ (service.step other event).2.executions rest →
        ∀ key, (execute store frame).2.get? key = store.get? key := by
      intro store frame hmem
      exact hchangeless store frame (List.mem_append_right _ hmem)
    by_cases hother : other = number
    -- The event is left out of the shorter run, which stays where it is.
    · subst hother
      have hstore : (service.step other event).2.store = service.store := by
        show ((service.connections other).step service.store event).store = service.store
        rw [Connection.store_step]
        apply executeAll_eq_self
        intro store frame hmem
        exact hchangeless store frame (List.mem_append_left _ (List.mem_map_of_mem hmem))
      rw [without_cons_self, run_cons, List.map_cons, List.zip_cons_cons, without_cons_self]
      exact ih (h.step_self hstore) hlater
    · obtain ⟨hturn, hnext⟩ := h.step_other hother event
      obtain ⟨hturns, hlast⟩ := ih hnext hlater
      rw [without_cons_of_ne hother, run_cons, run_cons, List.map_cons, List.map_cons,
        List.zip_cons_cons, List.zip_cons_cons, without_cons_of_ne hother, hturns, hturn]
      exact ⟨rfl, hlast⟩

/-- If no frame that one connection runs changes the store that it finds, then all other turns of a
run and the store after it are those of the run without this connection. The frames that change
nothing are those that are rejected and the commands that `Command.Changeless` lists. -/
theorem run_without (service : Service) (number : Nat) (events : List (Nat × Event))
    (h : ∀ store frame, (number, (store, frame)) ∈ service.executions events →
      ∀ key, (execute store frame).2.get? key = store.get? key) :
    ∃ turns last kept final, service.run events = (turns, last) ∧
      service.run (without number events) = (kept, final) ∧
      turns.length = events.length ∧ kept.length = (without number events).length ∧
      ((without number events).map Prod.fst).zip kept =
        without number ((events.map Prod.fst).zip turns) ∧
      final.store = last.store ∧
      (∀ other, other ≠ number → final.connections other = last.connections other) ∧
      ∀ store frame, (∀ key, (execute store frame).2.get? key = store.get? key) ↔
        Frame.Changeless store frame := by
  have halike : Alike number service service := ⟨rfl, fun _ _ => rfl⟩
  obtain ⟨hturns, hlast⟩ := halike.run h
  refine ⟨_, _, _, _, rfl, rfl, length_run service events, length_run service _, hturns,
    hlast.store.symm, ?_, fun store frame => (Frame.changeless_iff store frame).symm⟩
  intro other hother
  exact (hlast.connections other hother).symm

def request (name : String) (arguments : List Bytes) : Bytes :=
  (Frame.array (.simple name :: arguments.map .bulk)).bytes

/-- One connection stops in the middle of a frame while another one sets a key. Then it reads the
key, fails to increment it, sets it to the same value and sends what is no frame. -/
def visit : List (Nat × Event) :=
  [(1, .received ((request "GET" [[107]]).take 9)),
    (2, .received (request "SET" [[107], [118]])),
    (1, .received ((request "GET" [[107]]).drop 9 ++ request "INCR" [[107]] ++
      request "SET" [[107], [118]])),
    (2, .sent), (1, .received [63, 13, 10]), (2, .received (request "GET" [[107]])), (1, .sent)]

theorem run_without_visit :
    ∃ turns last kept final, (fresh .standard .empty).run visit = (turns, last) ∧
      (fresh .standard .empty).run (without 1 visit) = (kept, final) ∧
      [2, 2, 2].zip kept = without 1 ([1, 2, 1, 2, 1, 2, 1].zip turns) ∧
      final.store = last.store ∧ last.store.get? [107] = some [118] := by
  have hexecutions : (fresh .standard .empty).executions visit =
      [(2, .empty, .array [.simple "SET", .bulk [107], .bulk [118]]),
        (1, Store.empty.set [107] [118], .array [.simple "GET", .bulk [107]]),
        (1, Store.empty.set [107] [118], .array [.simple "INCR", .bulk [107]]),
        (1, Store.empty.set [107] [118], .array [.simple "SET", .bulk [107], .bulk [118]]),
        (2, Store.empty.set [107] [118], .array [.simple "GET", .bulk [107]])] := by
    with_unfolding_all rfl
  have hchangeless : ∀ store frame,
      (1, (store, frame)) ∈ (fresh .standard .empty).executions visit →
      ∀ key, (execute store frame).2.get? key = store.get? key := by
    intro store frame hmem key
    rw [hexecutions] at hmem
    simp only [List.mem_cons, Prod.mk.injEq, List.not_mem_nil, or_false] at hmem
    rcases hmem with ⟨h, -⟩ | ⟨-, rfl, rfl⟩ | ⟨-, rfl, rfl⟩ | ⟨-, rfl, rfl⟩ | ⟨h, -⟩
    · cases h
    · with_unfolding_all rfl
    · with_unfolding_all rfl
    · with_unfolding_all rfl
    · cases h
  obtain ⟨turns, last, kept, final, hrun, hreduced, -, -, hturns, hstore, -⟩ :=
    run_without (fresh .standard .empty) 1 visit hchangeless
  refine ⟨turns, last, kept, final, hrun, hreduced, hturns, hstore, ?_⟩
  have hfinal : ((fresh .standard .empty).run (without 1 visit)).2.store.get? [107] =
      some [118] := by with_unfolding_all rfl
  rw [hreduced, hstore] at hfinal
  exact hfinal

end Service

end RespStore
