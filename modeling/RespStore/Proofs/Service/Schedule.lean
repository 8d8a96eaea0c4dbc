import RespStore.Service
import RespStore.Proofs.Connection

set_option autoImplicit false

namespace RespStore.Service

open Connection (Event Turn)
open RespStore.Frame (readAll completed)

def atNumber {α : Type} (number : Nat) : List (Nat × α) → List α
  | [] => []
  | (other, item) :: rest =>
    if other = number then item :: atNumber number rest else atNumber number rest

def stream (number : Nat) (events : List (Nat × Event)) : Bytes :=
  (atNumber number events).flatMap Event.chunk

def written (number : Nat) (events : List (Nat × Event)) (turns : List Turn) : Bytes :=
  (atNumber number ((events.map Prod.fst).zip turns)).flatMap fun turn => turn.request.written

/-- The frames whose last byte an event brings, after the events `before`. -/
def delivered (limits : Nat → Limits) (before : List (Nat × Event)) (event : Nat × Event) :
    List Frame :=
  completed (limits event.1) (stream event.1 before) event.2.chunk

/-- All frames that events complete, in order, each with the number of its connection. -/
def log (limits : Nat → Limits) (before : List (Nat × Event)) :
    List (Nat × Event) → List (Nat × Frame)
  | [] => []
  | event :: rest =>
    (delivered limits before event).map (Prod.mk event.1) ++ log limits (before ++ [event]) rest

def repliesTo (store : Store) (entries : List (Nat × Frame)) : List (Nat × Frame) :=
  (entries.map Prod.fst).zip (executeAll store (entries.map Prod.snd)).1

section atNumber

variable {α : Type}

theorem atNumber_append (number : Nat) (front back : List (Nat × α)) :
    atNumber number (front ++ back) = atNumber number front ++ atNumber number back := by
  induction front with
  | nil => rfl
  | cons item rest ih =>
    obtain ⟨other, item⟩ := item
    simp only [List.cons_append, atNumber, ih]
    split <;> rfl

theorem atNumber_map_mk (number other : Nat) (items : List α) :
    atNumber number (items.map (Prod.mk other)) = if other = number then items else [] := by
  induction items with
  | nil =>
    split <;> rfl
  | cons item rest ih =>
    rw [List.map_cons, atNumber, ih]
    split <;> rfl

theorem map_mk_atNumber {number : Nat} {items : List (Nat × α)}
    (h : ∀ item ∈ items, item.1 = number) :
    (atNumber number items).map (Prod.mk number) = items := by
  induction items with
  | nil => rfl
  | cons item rest ih =>
    obtain ⟨other, item⟩ := item
    have hother := h (other, item) List.mem_cons_self
    have hrest := ih fun item hmem => h item (List.mem_cons_of_mem _ hmem)
    rw [atNumber, if_pos hother, List.map_cons, hrest, ← hother]

end atNumber

theorem stream_append (number : Nat) (front back : List (Nat × Event)) :
    stream number (front ++ back) = stream number front ++ stream number back := by
  rw [stream, atNumber_append, List.flatMap_append]
  rfl

theorem stream_append_singleton (number : Nat) (before : List (Nat × Event)) (event : Nat × Event) :
    stream number (before ++ [event]) =
      if event.1 = number then stream number before ++ event.2.chunk else stream number before := by
  rw [stream_append]
  by_cases h : event.1 = number
  · rw [if_pos h, stream, stream, atNumber, if_pos h]
    simp only [atNumber, List.flatMap_cons, List.flatMap_nil, List.append_nil]
  · rw [if_neg h, stream, stream, atNumber, if_neg h]
    exact List.append_nil _

theorem written_cons (number : Nat) (event : Nat × Event) (rest : List (Nat × Event)) (turn : Turn)
    (turns : List Turn) :
    written number (event :: rest) (turn :: turns) =
      (if event.1 = number then turn.request.written else []) ++ written number rest turns := by
  rw [written, List.map_cons, List.zip_cons_cons, atNumber]
  split <;> rfl

theorem repliesTo_cons (store : Store) (number : Nat) (frame : Frame) (rest : List (Nat × Frame)) :
    repliesTo store ((number, frame) :: rest) =
      (number, (execute store frame).1) :: repliesTo (execute store frame).2 rest := by
  simp only [repliesTo, List.map_cons, executeAll, List.zip_cons_cons]

theorem repliesTo_append (store : Store) (front back : List (Nat × Frame)) :
    repliesTo store (front ++ back) =
      repliesTo store front ++ repliesTo (executeAll store (front.map Prod.snd)).2 back := by
  induction front generalizing store with
  | nil => rfl
  | cons entry rest ih =>
    obtain ⟨number, frame⟩ := entry
    rw [List.cons_append, repliesTo_cons, ih, repliesTo_cons]
    rfl

theorem repliesTo_map_mk (store : Store) (number : Nat) (frames : List Frame) :
    repliesTo store (frames.map (Prod.mk number)) =
      (executeAll store frames).1.map (Prod.mk number) := by
  induction frames generalizing store with
  | nil => rfl
  | cons frame rest ih =>
    rw [List.map_cons, repliesTo_cons, ih]
    rfl

theorem map_snd_map_mk (number : Nat) (frames : List Frame) :
    (frames.map (Prod.mk number)).map Prod.snd = frames := by
  rw [List.map_map]
  exact List.map_id frames

end RespStore.Service
