import RespStore.Frame.Read
import RespStore.Frame.Written

set_option autoImplicit false

namespace RespStore

structure FrameBuffer where
  limits : Limits
  bytes : Bytes

namespace FrameBuffer

inductive TakeError where
  | malformed (cause : Malformed)
  | leftover
  deriving DecidableEq, Repr

def TakeError.message : TakeError → String
  | .malformed cause => cause.message
  | .leftover => "bytes remaining on stream"

def empty (limits : Limits) : FrameBuffer := ⟨limits, []⟩

def push (buffer : FrameBuffer) (chunk : Bytes) : FrameBuffer :=
  { buffer with bytes := buffer.bytes ++ chunk }

def put (buffer : FrameBuffer) (frame : Frame) : Except LineBreak Unit × FrameBuffer :=
  match frame.encodeInto buffer.bytes with
  | (result, bytes) => (result, { buffer with bytes := bytes })

/-- Takes the frame at the front, if it is complete. -/
def take (buffer : FrameBuffer) : Except Malformed (Option Frame) × FrameBuffer :=
  match Frame.read buffer.limits 0 buffer.bytes with
  | .ok (frame, rest) => (.ok (some frame), { buffer with bytes := rest })
  | .error .incomplete => (.ok none, buffer)
  | .error (.malformed cause) => (.error cause, buffer)

/-- What becomes of a buffer when no more bytes will come. -/
abbrev Ending : Type := FrameBuffer → Except TakeError (Option Frame) × FrameBuffer

/-- The ending where a buffer has none of its own: bytes without a frame are left over. -/
def takeLast : Ending := fun buffer =>
  match buffer.take with
  | (.ok (some frame), rest) => (.ok (some frame), rest)
  | (.ok none, rest) => (if rest.bytes = [] then .ok none else .error .leftover, rest)
  | (.error cause, rest) => (.error (.malformed cause), rest)

end FrameBuffer

end RespStore
