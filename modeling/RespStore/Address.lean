import RespStore.Address.Host

/-!
# Addresses

Where a server listens: a host, and a port after the last colon. A host with colons of its own may
stand in brackets.
-/

set_option autoImplicit false

namespace RespStore

open Text

/-- Port zero leaves the choice of a free one open. -/
structure Address where
  host : Host
  port : UInt16
  deriving DecidableEq, Repr

namespace Address

inductive Fault where
  | noPort
  | invalidPort
  | host (fault : Host.Fault)
  deriving DecidableEq, Repr

def Fault.message : Fault → String
  | .noPort => "invalid socket address"
  | .invalidPort => "invalid port value"
  | .host fault => fault.message

def readPort? (cs : List Char) : Option UInt16 :=
  (Decimal.readNat 65535 (Utf8.encode (String.ofList cs))).toOption.map UInt16.ofNat

/-- A port without a sign. -/
def readPlainPort? (cs : List Char) : Option UInt16 :=
  if cs.head? = some '+' then none else readPort? cs

/-- A host in brackets and its port. A link has no name here. -/
def readBracketed? (cs : List Char) : Option Address :=
  match cs with
  | '[' :: inner =>
    match inner.dropWhile (· ≠ ']') with
    | ']' :: ':' :: port => do
      let host ← Host.readLinked? (fun _ => Host.readLinkNumber?) (inner.takeWhile (· ≠ ']'))
      return ⟨host, ← readPlainPort? port⟩
    | _ => none
  | _ => none

/-- A host and its port. The port is looked at first. -/
def readPlain (cs : List Char) : Except Fault Address :=
  match (cs.splitOn ':').reverse with
  | port :: part :: parts =>
    match readPort? port with
    | none => .error .invalidPort
    | some port =>
      match Host.resolve ([':'].intercalate (part :: parts).reverse) with
      | .error fault => .error (.host fault)
      | .ok host => .ok ⟨host, port⟩
  | _ => .error .noPort

def parse (text : String) : Except Fault Address :=
  match readBracketed? text.toList with
  | some address => .ok address
  | none => readPlain text.toList

end Address

end RespStore
