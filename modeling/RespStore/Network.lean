import RespStore.Address.Host

set_option autoImplicit false

namespace RespStore

/-- A host that reaches itself only, or one without any route, even to itself. -/
inductive Network where
  | loopback
  | isolated
  deriving DecidableEq, Repr

namespace Network

inductive ListenError where
  | notOfThisHost
  | unfitHost
  | noLink
  | inUse
  deriving DecidableEq, Repr

def ListenError.message : ListenError → String
  | .notOfThisHost => "Cannot assign requested address (os error 99)"
  | .unfitHost => "Invalid argument (os error 22)"
  | .noLink => "No such device (os error 19)"
  | .inUse => "Address already in use (os error 98)"

inductive ConnectError where
  | unreachable
  | notOfThisHost
  | refused
  deriving DecidableEq, Repr

/-- Short numbers are told from those of other hosts by the routes, so without routes all of them
pass. Zero stands for every address of this host, which has no link but the one to itself. -/
def listen (network : Network) (host : Host) : Except ListenError Unit :=
  match host, host.short? with
  | _, some number =>
    if network = .isolated ∨ number = 0 ∨ Host.isLoopback number then .ok ()
    else .error .notOfThisHost
  | .v4 _, none => .error .notOfThisHost
  | .v6 number link, none =>
    if number = 0 ∨ (network = .loopback ∧ number = 1) then .ok ()
    else if Host.isShared number ∨ (Host.isOfLink number ∧ link = 0) then .error .unfitHost
    else if Host.isOfLink number ∧ link ≠ Host.loopbackLink then .error .noLink
    else .error .notOfThisHost

def reach (network : Network) (host : Host) : Except ConnectError Unit :=
  match network with
  | .loopback => .ok ()
  | .isolated => .error (if host.short?.isSome then .unreachable else .notOfThisHost)

end Network

end RespStore
