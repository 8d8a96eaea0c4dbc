import RespStore.Store.Counter

set_option autoImplicit false

namespace RespStore

/-- Stores, and for each handle the number of the store that it shares. -/
structure Handles where
  stores : List Store
  targets : List Nat

namespace Handles

def single : Handles := ⟨[Store.empty], [0]⟩

def count (handles : Handles) : Nat := handles.targets.length

def store? (handles : Handles) (handle : Nat) : Option Store := do
  let target ← handles.targets[handle]?
  handles.stores[target]?

/-- Puts the store behind a handle, and so behind every handle that shares it. -/
def update (handles : Handles) (handle : Nat) (store : Store) : Handles :=
  match handles.targets[handle]? with
  | none => handles
  | some target => { handles with stores := handles.stores.set target store }

/-- Adds a handle that shares the store of another. -/
def share (handles : Handles) (handle : Nat) : Handles :=
  match handles.targets[handle]? with
  | none => handles
  | some target => { handles with targets := handles.targets ++ [target] }

def addEmpty (handles : Handles) : Handles :=
  ⟨handles.stores ++ [Store.empty], handles.targets ++ [handles.stores.length]⟩

end Handles

end RespStore
