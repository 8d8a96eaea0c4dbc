import RespStore.Decimal
import RespStore.Frame.Basic
import RespStore.Text.Utf8

/-!
# Written frames

Every frame has one written form, unless a simple or error text in it, at any depth, holds a line
break: such a text would end early on the wire. The whole frame is looked through before a byte is
written, so a buffer is either extended by all of it or left as it was.
-/

set_option autoImplicit false

namespace RespStore

open Text

/-- Whether a text cannot stand on a line. -/
def hasLineBreak (text : String) : Bool :=
  text.toList.any fun c => c = '\r' || c = '\n'

namespace Frame

mutual

/-- The kind of the first frame, outermost and leftmost first, whose text holds a line break. -/
def brokenKind? : Frame → Option Kind
  | .simple text => if hasLineBreak text then some .simpleString else none
  | .error text => if hasLineBreak text then some .error else none
  | .array items => brokenKindAmong? items
  | .integer _ => none
  | .bulk _ => none
  | .null => none

def brokenKindAmong? : List Frame → Option Kind
  | [] => none
  | item :: rest =>
    match brokenKind? item with
    | some kind => some kind
    | none => brokenKindAmong? rest

end

def headed (lead : Lead) (line : Bytes) : Bytes :=
  lead.byte :: line ++ Bytes.crlf

mutual

/-- The bytes of a frame. They are one frame only if no text in it holds a line break. -/
def bytes : Frame → Bytes
  | .simple text => headed .simple (Utf8.encode text)
  | .error text => headed .error (Utf8.encode text)
  | .integer value => headed .integer (Decimal.ofInt64 value)
  | .bulk payload => headed .bulk (Decimal.ofNat payload.length) ++ payload ++ Bytes.crlf
  | .array items => headed .array (Decimal.ofNat items.length) ++ bytesOfAll items
  | .null => headed .bulk (Decimal.ofInt (-1))

def bytesOfAll : List Frame → Bytes
  | [] => []
  | item :: rest => bytes item ++ bytesOfAll rest

end

theorem bytes_ne_nil (frame : Frame) : frame.bytes ≠ [] := by
  cases frame <;> simp [bytes, headed]

theorem bytesOfAll_append (front back : List Frame) :
    bytesOfAll (front ++ back) = bytesOfAll front ++ bytesOfAll back := by
  induction front with
  | nil => rfl
  | cons item rest ih => rw [List.cons_append, bytesOfAll, bytesOfAll, ih, List.append_assoc]

theorem bytesOfAll_eq_nil_iff (frames : List Frame) : bytesOfAll frames = [] ↔ frames = [] := by
  cases frames with
  | nil => simp [bytesOfAll]
  | cons frame rest => simp [bytesOfAll, bytes_ne_nil]

end Frame

/-- A frame of this kind has a line break in its text. -/
structure LineBreak where
  kind : Kind
  deriving DecidableEq, Repr

def LineBreak.message (fault : LineBreak) : String :=
  fault.kind.name ++ " contains CR or LF"

namespace Frame

def encode (frame : Frame) : Except LineBreak Bytes :=
  match frame.brokenKind? with
  | some kind => .error ⟨kind⟩
  | none => .ok frame.bytes

def encodeInto (frame : Frame) (buffer : Bytes) : Except LineBreak Unit × Bytes :=
  match frame.encode with
  | .error fault => (.error fault, buffer)
  | .ok written => (.ok (), buffer ++ written)

end Frame

end RespStore
