import RespStore.Bytes

set_option autoImplicit false

namespace RespStore

/-- One value on the wire. The payload of a bulk frame is any bytes; `null` is the bulk frame that
is not there. -/
inductive Frame where
  | simple (text : String)
  | error (text : String)
  | integer (value : Int64)
  | bulk (payload : Bytes)
  | array (items : List Frame)
  | null

inductive Kind where
  | simpleString
  | error
  | integer
  | bulkString
  | array
  | null
  deriving DecidableEq, Repr

def Kind.name : Kind → String
  | .simpleString => "simple_string"
  | .error => "error"
  | .integer => "integer"
  | .bulkString => "bulk_string"
  | .array => "array"
  | .null => "null"

def Frame.kind : Frame → Kind
  | .simple _ => .simpleString
  | .error _ => .error
  | .integer _ => .integer
  | .bulk _ => .bulkString
  | .array _ => .array
  | .null => .null

structure Limits where
  maxBulk : UInt64
  maxArray : UInt64
  maxDepth : UInt64
  deriving DecidableEq, Repr

/-- Half a gibibyte in one bulk payload, a mebi of items in one array, arrays within 64 others. -/
def Limits.standard : Limits := ⟨536870912, 1048576, 64⟩

inductive Lead where
  | simple
  | error
  | integer
  | bulk
  | array
  deriving DecidableEq, Repr

def Lead.byte : Lead → UInt8
  | .simple => 43
  | .error => 45
  | .integer => 58
  | .bulk => 36
  | .array => 42

def Lead.ofByte? (b : UInt8) : Option Lead :=
  if b = Lead.simple.byte then some .simple
  else if b = Lead.error.byte then some .error
  else if b = Lead.integer.byte then some .integer
  else if b = Lead.bulk.byte then some .bulk
  else if b = Lead.array.byte then some .array
  else none

theorem Lead.ofByte?_byte (lead : Lead) : Lead.ofByte? lead.byte = some lead := by
  cases lead <;> decide

theorem Lead.byte_of_ofByte? {b : UInt8} {lead : Lead} (h : Lead.ofByte? b = some lead) :
    lead.byte = b := by
  unfold Lead.ofByte? at h
  repeat' split at h
  all_goals simp_all

end RespStore
