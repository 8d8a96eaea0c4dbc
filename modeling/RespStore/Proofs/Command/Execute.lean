import RespStore.Command.Execute

set_option autoImplicit false

namespace RespStore

theorem executeAll_append (store : Store) (front back : List Frame) :
    executeAll store (front ++ back) =
      ((executeAll store front).1 ++ (executeAll (executeAll store front).2 back).1,
        (executeAll (executeAll store front).2 back).2) := by
  induction front generalizing store with
  | nil => rfl
  | cons frame rest ih => simp only [List.cons_append, executeAll, ih]

theorem length_executeAll (store : Store) (frames : List Frame) :
    (executeAll store frames).1.length = frames.length := by
  induction frames generalizing store with
  | nil => rfl
  | cons frame rest ih => simp only [executeAll, List.length_cons, ih]

theorem executeAll_eq_nil_iff (store : Store) (frames : List Frame) :
    (executeAll store frames).1 = [] ↔ frames = [] := by
  rw [← List.length_eq_zero_iff, length_executeAll, List.length_eq_zero_iff]

def executions (store : Store) : List Frame → List (Store × Frame)
  | [] => []
  | frame :: rest => (store, frame) :: executions (execute store frame).2 rest

theorem getElem?_executeAll (store : Store) (frames : List Frame) (i : Nat) :
    (executeAll store frames).1[i]? =
      frames[i]?.map fun frame => (execute (executeAll store (frames.take i)).2 frame).1 := by
  induction frames generalizing store i with
  | nil => rfl
  | cons frame rest ih =>
    cases i with
    | zero => rfl
    | succ i => simp only [executeAll, List.getElem?_cons_succ, List.take_succ_cons, ih]

theorem exists_execute_of_mem {store : Store} {frames : List Frame} {reply : Frame}
    (h : reply ∈ (executeAll store frames).1) :
    ∃ before frame, reply = (execute before frame).1 := by
  obtain ⟨i, hi⟩ := List.getElem?_of_mem h
  rw [getElem?_executeAll, Option.map_eq_some_iff] at hi
  obtain ⟨frame, -, rfl⟩ := hi
  exact ⟨_, frame, rfl⟩

end RespStore
