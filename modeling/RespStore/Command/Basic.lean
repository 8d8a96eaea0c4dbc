import RespStore.Frame.Basic
import RespStore.Text.Lowercase
import RespStore.Text.Utf8

/-!
# Commands

A command comes as an array of texts: its name, in upper or lower case, and its arguments. A frame
that is no command is rejected for the first of these reasons: it is no array, it is empty, its
name is no text, the name is unknown, the number of arguments is wrong, an argument is no text.
-/

set_option autoImplicit false

namespace RespStore

open Text

inductive Verb where
  | del
  | echo
  | get
  | incr
  | ping
  | set
  deriving DecidableEq, Repr

namespace Verb

def name : Verb → String
  | .del => "del"
  | .echo => "echo"
  | .get => "get"
  | .incr => "incr"
  | .ping => "ping"
  | .set => "set"

def all : List Verb := [.del, .echo, .get, .incr, .ping, .set]

def ofName? (name : String) : Option Verb :=
  all.find? fun verb => verb.name = name

theorem ofName?_name (verb : Verb) : ofName? verb.name = some verb := by
  cases verb <;> decide

theorem name_of_ofName? {name : String} {verb : Verb} (h : ofName? name = some verb) :
    verb.name = name := by
  simpa using List.find?_some h

end Verb

inductive Command where
  | del (keys : List Bytes)
  | echo (message : Bytes)
  | get (key : Bytes)
  | incr (key : Bytes)
  | ping (payload : Option Bytes)
  | set (key value : Bytes)
  deriving DecidableEq, Repr

inductive Rejection where
  | notAnArray
  | emptyCommand
  | invalidToken (kind : Kind)
  | wrongArity (command : String)
  | unknownCommand (command : String)
  deriving DecidableEq, Repr

namespace Rejection

def message : Rejection → String
  | .notAnArray => "Protocol error: command must be array"
  | .emptyCommand => "Protocol error: empty command"
  | .invalidToken kind => "Protocol error: invalid command token kind " ++ kind.name
  | .wrongArity command => "wrong number of arguments for '" ++ command ++ "' command"
  | .unknownCommand command => "unknown command '" ++ command ++ "'"

end Rejection

def Frame.errorReply (message : String) : Frame := .error ("ERR " ++ message)

def Rejection.reply (rejection : Rejection) : Frame := Frame.errorReply rejection.message

namespace Command

/-- The bytes of an argument. Simple and bulk frames serve alike. -/
def argument : Frame → Except Rejection Bytes
  | .simple text => .ok (Utf8.encode text)
  | .bulk payload => .ok payload
  | frame => .error (.invalidToken frame.kind)

/-- The command name that a frame spells, in lower case. -/
def spelledName : Frame → Except Rejection String
  | .simple text => .ok (lowercase text)
  | .bulk payload => .ok (lowercase (Utf8.decode payload))
  | frame => .error (.invalidToken frame.kind)

/-- The arguments in order, or the kind of the leftmost that is no text. -/
def arguments : List Frame → Except Rejection (List Bytes)
  | [] => .ok []
  | frame :: rest =>
    match argument frame with
    | .error rejection => .error rejection
    | .ok bytes => (arguments rest).map (bytes :: ·)

/-- A verb with its arguments. The number of arguments is looked at before any of them. -/
def ofVerb : Verb → List Frame → Except Rejection Command
  | .del, frame :: rest => (arguments (frame :: rest)).map .del
  | .echo, [frame] => (argument frame).map .echo
  | .get, [frame] => (argument frame).map .get
  | .incr, [frame] => (argument frame).map .incr
  | .ping, [] => .ok (.ping none)
  | .ping, [frame] => (argument frame).map fun payload => .ping (some payload)
  | .set, [key, value] =>
    match argument key with
    | .error rejection => .error rejection
    | .ok key => (argument value).map (.set key)
  | verb, _ => .error (.wrongArity verb.name)

def ofFrame : Frame → Except Rejection Command
  | .array [] => .error .emptyCommand
  | .array (head :: rest) =>
    match spelledName head with
    | .error rejection => .error rejection
    | .ok name =>
      match Verb.ofName? name with
      | none => .error (.unknownCommand name)
      | some verb => ofVerb verb rest
  | _ => .error .notAnArray

end Command

end RespStore
