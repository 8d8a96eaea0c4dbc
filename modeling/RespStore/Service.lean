import RespStore.Connection

set_option autoImplicit false

namespace RespStore

structure Service where
  store : Store
  connections : Nat → Connection

namespace Service

def fresh (limits : Limits) (store : Store) : Service :=
  ⟨store, fun _ => Connection.fresh limits⟩

def step (service : Service) (number : Nat) (event : Connection.Event) :
    Connection.Turn × Service :=
  let turn := (service.connections number).step service.store event
  (turn, ⟨turn.store, fun other =>
    if other = number then turn.connection else service.connections other⟩)

def run (service : Service) : List (Nat × Connection.Event) → List Connection.Turn × Service
  | [] => ([], service)
  | (number, event) :: rest =>
    match service.step number event with
    | (turn, next) =>
      match next.run rest with
      | (turns, last) => (turn :: turns, last)

end Service

end RespStore
