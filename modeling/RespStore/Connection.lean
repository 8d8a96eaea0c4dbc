import RespStore.Command.Execute
import RespStore.Decoder
import RespStore.Frame.Written

/-!
# Connections

A connection is driven by what happens at its socket and asks for one thing at a time: to read, to
write, or to stop. Malformed input is answered once; after that answer, and after the end of the
stream or a failure, the connection closes. It leaves the registry once, when it closes.
-/

set_option autoImplicit false

namespace RespStore

namespace Connection

inductive Phase where
  | active
  | closing
  | closed
  deriving DecidableEq, Repr

/-- What happened at the socket. No bytes received is the end of the stream. -/
inductive Event where
  | received (chunk : Bytes)
  | receiveFailed
  | sent
  | sendFailed
  deriving DecidableEq, Repr

inductive Request where
  | read
  | write (bytes : Bytes)
  | stop
  deriving DecidableEq, Repr

end Connection

structure Connection where
  phase : Connection.Phase
  decoder : Decoder

namespace Connection

def fresh (limits : Limits) : Connection := ⟨.active, Decoder.fresh limits⟩

/-- The answer of a connection to an event: what it wants next, what it and the store have become,
and whether it leaves the registry. -/
structure Turn where
  request : Request
  connection : Connection
  store : Store
  leaves : Bool

def unwritable : Frame := Frame.errorReply "internal encode error"

def replyBytes (reply : Frame) : Bytes :=
  match reply.encode with
  | .ok bytes => bytes
  | .error _ => unwritable.bytes

def repliesBytes (replies : List Frame) : Bytes :=
  replies.flatMap replyBytes

def protocolError (cause : Malformed) : Frame :=
  Frame.errorReply ("Protocol error: " ++ cause.message)

/-- Closes; only a connection that was not closed before leaves. -/
def close (connection : Connection) (store : Store) : Turn :=
  ⟨.stop, { connection with phase := .closed }, store, connection.phase ≠ .closed⟩

def process (connection : Connection) (store : Store) (chunk : Bytes) : Turn :=
  match connection.decoder.feed chunk with
  | (.error cause, decoder) =>
    ⟨.write (replyBytes (protocolError cause)), ⟨.closing, decoder⟩, store, false⟩
  | (.ok frames, decoder) =>
    match executeAll store frames with
    | (replies, after) =>
      ⟨if repliesBytes replies = [] then .read else .write (repliesBytes replies),
        { connection with decoder := decoder }, after, false⟩

def step (connection : Connection) (store : Store) : Event → Turn
  | .received chunk =>
    if connection.phase ≠ .active ∨ chunk = [] then connection.close store
    else connection.process store chunk
  | .receiveFailed => connection.close store
  | .sent =>
    if connection.phase = .active then ⟨.read, connection, store, false⟩
    else connection.close store
  | .sendFailed => connection.close store

end Connection

end RespStore
