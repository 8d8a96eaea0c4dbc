import RespStore.Proofs.Command.Execute
import RespStore.Store.Handles

set_option autoImplicit false

namespace RespStore

inductive Store.Call where
  | set (key value : Bytes)
  | delete (keys : List Bytes)
  | increment (key : Bytes)
  | execute (frame : Frame)

def Store.Call.run (store : Store) : Store.Call → Store
  | .set key value => store.set key value
  | .delete keys => (store.delete keys).2
  | .increment key => (store.increment key).2
  | .execute frame => (RespStore.execute store frame).2

theorem foldl_run_execute (store : Store) (frames : List Frame) :
    (frames.map Store.Call.execute).foldl Store.Call.run store = (executeAll store frames).2 := by
  induction frames generalizing store with
  | nil => rfl
  | cons frame rest ih => exact ih _

namespace Handles

inductive Step where
  | call (handle : Nat) (call : Store.Call)
  | share (handle : Nat)
  | addEmpty

def step (handles : Handles) : Step → Handles
  | .call handle call =>
    match handles.store? handle with
    | none => handles
    | some store => handles.update handle (call.run store)
  | .share handle => handles.share handle
  | .addEmpty => handles.addEmpty

def run (handles : Handles) (steps : List Step) : Handles :=
  steps.foldl step handles

theorem run_append (handles : Handles) (front back : List Step) :
    handles.run (front ++ back) = (handles.run front).run back :=
  List.foldl_append

def callThrough? (handles : Handles) (handle : Nat) : Step → Option Store.Call
  | .call other call =>
    if handles.targets[other]? = handles.targets[handle]? then some call else none
  | .share _ => none
  | .addEmpty => none

/-- The calls of steps that reach the store behind a handle, through whichever handles. -/
def calls (handles : Handles) (handle : Nat) : List Step → List Store.Call
  | [] => []
  | step :: rest =>
    (handles.callThrough? handle step).toList ++ (handles.step step).calls handle rest

theorem store?_eq_some_iff {handles : Handles} {handle : Nat} {store : Store} :
    handles.store? handle = some store ↔
      ∃ target, handles.targets[handle]? = some target ∧ handles.stores[target]? = some store :=
  Option.bind_eq_some_iff

theorem store?_congr {handles : Handles} {handle other : Nat}
    (h : handles.targets[other]? = handles.targets[handle]?) :
    handles.store? other = handles.store? handle := by
  rw [store?, store?, h]

theorem store?_update {handles : Handles} {handle other : Nat} {before store : Store}
    (hother : handles.store? other = some before) :
    (handles.update other store).store? handle =
      if handles.targets[other]? = handles.targets[handle]? then some store
      else handles.store? handle := by
  obtain ⟨target, htarget, hbefore⟩ := store?_eq_some_iff.1 hother
  obtain ⟨hlt, -⟩ := List.getElem?_eq_some_iff.1 hbefore
  rw [update, htarget]
  cases hhandle : handles.targets[handle]? with
  | none => simp only [store?, hhandle, reduceCtorEq, if_false, bind, Option.bind]
  | some own =>
    simp only [store?, hhandle, bind, Option.bind, Option.some.injEq, List.getElem?_set, hlt,
      if_true]

theorem store?_share {handles : Handles} {handle other : Nat} {store : Store}
    (h : handles.store? handle = some store) :
    (handles.share other).store? handle = some store := by
  obtain ⟨target, htarget, hstore⟩ := store?_eq_some_iff.1 h
  obtain ⟨hlt, -⟩ := List.getElem?_eq_some_iff.1 htarget
  rw [share]
  split
  · exact h
  · refine store?_eq_some_iff.2 ⟨target, ?_, hstore⟩
    rw [← htarget]
    exact List.getElem?_append_left hlt

theorem store?_addEmpty {handles : Handles} {handle : Nat} {store : Store}
    (h : handles.store? handle = some store) : handles.addEmpty.store? handle = some store := by
  obtain ⟨target, htarget, hstore⟩ := store?_eq_some_iff.1 h
  obtain ⟨hhandle, -⟩ := List.getElem?_eq_some_iff.1 htarget
  obtain ⟨hlt, -⟩ := List.getElem?_eq_some_iff.1 hstore
  refine store?_eq_some_iff.2 ⟨target, ?_, ?_⟩
  · rw [← htarget]
    exact List.getElem?_append_left hhandle
  · rw [← hstore]
    exact List.getElem?_append_left hlt

theorem store?_share_count {handles : Handles} {handle : Nat} {store : Store}
    (h : handles.store? handle = some store) :
    (handles.share handle).store? handles.count = some store := by
  obtain ⟨target, htarget, hstore⟩ := store?_eq_some_iff.1 h
  rw [share, htarget]
  exact store?_eq_some_iff.2 ⟨target, List.getElem?_concat_length, hstore⟩

theorem store?_step {handles : Handles} {handle : Nat} {store : Store}
    (h : handles.store? handle = some store) (step : Step) :
    (handles.step step).store? handle =
      some ((handles.callThrough? handle step).toList.foldl Store.Call.run store) := by
  cases step with
  | call other call =>
    by_cases hshared : handles.targets[other]? = handles.targets[handle]?
    · have hother := (store?_congr hshared).trans h
      simp only [Handles.step, hother, store?_update hother, callThrough?, if_pos hshared]
      rfl
    · simp only [Handles.step, callThrough?, if_neg hshared]
      cases hother : handles.store? other with
      | none => exact h
      | some before =>
        rw [store?_update hother, if_neg hshared]
        exact h
  | share other => exact store?_share h
  | addEmpty => exact store?_addEmpty h

/-- What a handle sees after a run is what the calls that reach its store make of what it saw. -/
theorem store?_run {handles : Handles} {handle : Nat} {store : Store}
    (h : handles.store? handle = some store) (steps : List Step) :
    (handles.run steps).store? handle =
      some ((handles.calls handle steps).foldl Store.Call.run store) := by
  induction steps generalizing handles store with
  | nil => exact h
  | cons step rest ih =>
    rw [calls, List.foldl_append]
    exact ih (store?_step h step)

end Handles

end RespStore
