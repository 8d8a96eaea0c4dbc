import RespStore.Command.Basic
import RespStore.Store.Counter

set_option autoImplicit false

namespace RespStore

namespace Command

def run (store : Store) : Command → Frame × Store
  | .del keys =>
    match store.delete keys with
    | (count, after) => (.integer (Int64.ofNat count), after)
  | .echo message => (.bulk message, store)
  | .get key =>
    match store.get? key with
    | some value => (.bulk value, store)
    | none => (.null, store)
  | .incr key =>
    match store.increment key with
    | (.ok n, after) => (.integer n, after)
    | (.error fault, after) => (Frame.errorReply fault.message, after)
  | .ping none => (.simple "PONG", store)
  | .ping (some payload) => (.bulk payload, store)
  | .set key value => (.simple "OK", store.set key value)

end Command

def execute (store : Store) (frame : Frame) : Frame × Store :=
  match Command.ofFrame frame with
  | .ok command => command.run store
  | .error rejection => (rejection.reply, store)

def executeAll (store : Store) : List Frame → List Frame × Store
  | [] => ([], store)
  | frame :: rest =>
    match execute store frame with
    | (reply, after) =>
      match executeAll after rest with
      | (replies, last) => (reply :: replies, last)

end RespStore
