import RespStore.CommandLine.Reader
import RespStore.Decimal
import RespStore.Settings.Basic
import RespStore.Text.Utf8

set_option autoImplicit false

namespace RespStore

namespace Settings

open CommandLine (Declarations Declared Library)
open Text

namespace Field

/-- The address is a text, every other setting a number. -/
def Carrier : Field → Type
  | .address => String
  | .maxBulk | .maxArray | .maxDepth | .pollInterval | .shutdownPasses | .readBuffer => UInt64

def defaultText : Field → String
  | .address => standardAddress
  | .maxBulk => Decimal.textOfUInt64 Limits.standard.maxBulk
  | .maxArray => Decimal.textOfUInt64 Limits.standard.maxArray
  | .maxDepth => Decimal.textOfUInt64 Limits.standard.maxDepth
  | .pollInterval => Decimal.textOfUInt64 50
  | .shutdownPasses => Decimal.textOfUInt64 32
  | .readBuffer => Decimal.textOfUInt64 4096

def readNumber (text : String) : Except String UInt64 :=
  match Decimal.readUInt64 (Utf8.encode text) with
  | .ok n => .ok n
  | .error flaw => .error flaw.message

/-- The value of a field that a text writes. Any text is an address. -/
def read : (field : Field) → String → Except String field.Carrier
  | .address, text => .ok text
  | .maxBulk, text | .maxArray, text | .maxDepth, text | .pollInterval, text
  | .shutdownPasses, text | .readBuffer, text => readNumber text

/-- Only the address has a short flag. -/
def declared (field : Field) : Declared field.Carrier where
  flag := field.flag
  letter := if field = .address then some 'a' else none
  placeholder := field.placeholder
  variableName := field.variableName
  defaultText := field.defaultText
  read := field.read

end Field

def declarations : Declarations Field Field.Carrier where
  all := Field.all
  declared := Field.declared
  mem_all := Field.mem_all
  flag_inj i j := by cases i <;> cases j <;> decide
  flag_plain i := by cases i <;> decide
  flag_free i := by cases i <;> decide
  letter_inj i j c := by cases i <;> cases j <;> simp [Field.declared]
  letter_plain i c := by
    cases i <;> simp only [Field.declared, if_true, reduceCtorEq, if_false, false_implies]
    rintro ⟨⟩
    decide
  letter_free i := by cases i <;> decide

def ofValues (values : (field : Field) → field.Carrier) : Settings where
  address := values .address
  maxBulk := values .maxBulk
  maxArray := values .maxArray
  maxDepth := values .maxDepth
  pollInterval := values .pollInterval
  shutdownPasses := values .shutdownPasses
  readBuffer := values .readBuffer

def parseWith {ρ : Type} (library : Library ρ) (arguments : List String)
    (environment : String → Option String) : Except ρ Settings :=
  (library.parse declarations arguments environment).map ofValues

abbrev Refusal : Type := CommandLine.Refusal

/-- Reads settings with the library that the program runs with. -/
def parse (arguments : List String) (environment : String → Option String) :
    Except Refusal Settings :=
  parseWith CommandLine.reader arguments environment

end Settings

end RespStore
