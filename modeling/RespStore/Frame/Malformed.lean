import RespStore.Decimal
import RespStore.Frame.Basic
import RespStore.Text.Quoted

/-!
# Malformed input

Why bytes are no frame, whatever follows them. Lines are quoted in the messages.
-/

set_option autoImplicit false

namespace RespStore

open Text

inductive Malformed where
  | unknownLead (byte : UInt8)
  | invalidInteger (line : String)
  | invalidBulkLength (line : String)
  | negativeBulkLength (length : Int64)
  | bulkTooLong (length : Int64) (limit : UInt64)
  | unterminatedBulk
  | invalidArrayLength (line : String)
  | negativeArrayLength (length : Int64)
  | arrayTooLong (length : Int64) (limit : UInt64)
  | tooDeep (limit : UInt64)
  deriving DecidableEq, Repr

def Malformed.message : Malformed → String
  | .unknownLead byte =>
    "unknown RESP2 prefix byte '" ++ String.ofList (quoteByte byte) ++ "'"
  | .invalidInteger line => "invalid integer " ++ quote line
  | .invalidBulkLength line => "invalid bulk string length " ++ quote line
  | .negativeBulkLength length => "negative bulk string length: " ++ Decimal.textOfInt64 length
  | .bulkTooLong length limit =>
    "bulk string length " ++ Decimal.textOfInt64 length ++ " exceeds limit " ++
      Decimal.textOfUInt64 limit
  | .unterminatedBulk => "bulk string missing CRLF terminator"
  | .invalidArrayLength line => "invalid array length " ++ quote line
  | .negativeArrayLength length => "negative array length: " ++ Decimal.textOfInt64 length
  | .arrayTooLong length limit =>
    "array length " ++ Decimal.textOfInt64 length ++ " exceeds limit " ++
      Decimal.textOfUInt64 limit
  | .tooDeep limit => "array nesting exceeds max depth " ++ Decimal.textOfUInt64 limit

/-- Why no frame could be read: it is cut short and more bytes may complete it, or never. -/
inductive ReadError where
  | incomplete
  | malformed (cause : Malformed)
  deriving DecidableEq, Repr

def ReadError.message : ReadError → String
  | .incomplete => "not enough data is available to parse an entire frame"
  | .malformed cause => cause.message

end RespStore
