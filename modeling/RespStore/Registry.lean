/-!
# Registries

Who is connected. A handle controls a connection's socket from outside. It is live from its
registration on, is shut down when its connection leaves, then waits to be closed, and is released
when the waiting handles are drained.
-/

set_option autoImplicit false

namespace RespStore

namespace Registry

/-- A connection's socket as its owner holds it, and how often it was shut down. -/
structure Handle where
  id : Nat
  shutdowns : Nat
  deriving DecidableEq, Repr

def Handle.shut (handle : Handle) : Handle :=
  { handle with shutdowns := handle.shutdowns + 1 }

inductive Event where
  | register (id : Nat)
  | leave (id : Nat)
  | leaveAll
  | drain
  deriving DecidableEq, Repr

end Registry

/-- The handles of connections, and those that wait to be closed, the latest last. -/
structure Registry where
  live : List Registry.Handle
  pending : List Registry.Handle
  deriving DecidableEq, Repr

namespace Registry

def empty : Registry := ⟨[], []⟩

def count (registry : Registry) : Nat := registry.live.length

/-- Registers a connection. A handle with the same number is replaced; numbers are meant to be
fresh. -/
def register (registry : Registry) (id : Nat) : Registry :=
  { registry with live := registry.live.filter (fun handle => handle.id ≠ id) ++ [⟨id, 0⟩] }

/-- Shuts a connection's socket down and lets its handle wait. Says whether it was registered. -/
def leave (registry : Registry) (id : Nat) : Bool × Registry :=
  match registry.live.find? fun handle => handle.id = id with
  | none => (false, registry)
  | some handle =>
    (true, ⟨registry.live.filter (fun other => other.id ≠ id), registry.pending ++ [handle.shut]⟩)

def leaveAll (registry : Registry) : Nat × Registry :=
  (registry.live.length, ⟨[], registry.pending ++ registry.live.map Handle.shut⟩)

def drain (registry : Registry) : List Handle × Registry :=
  (registry.pending, { registry with pending := [] })

def step (registry : Registry) : Event → List Handle × Registry
  | .register id => ([], registry.register id)
  | .leave id => ([], (registry.leave id).2)
  | .leaveAll => ([], registry.leaveAll.2)
  | .drain => registry.drain

def run (registry : Registry) : List Event → List Handle × Registry
  | [] => ([], registry)
  | event :: rest =>
    match registry.step event with
    | (released, next) =>
      match next.run rest with
      | (more, last) => (released ++ more, last)

/-- How a server shuts down: all leave, then there are passes in which connections may still end or
come and after which the waiting handles are released, and at last all leave and are released. -/
def shutdown (passes : List (List Event)) : List Event :=
  .leaveAll :: passes.flatMap (fun pass => pass ++ [.drain]) ++ [.leaveAll, .drain]

end Registry

end RespStore
