import RespStore.Text.Concealed
import RespStore.Text.Numeral

set_option autoImplicit false

namespace RespStore.Text

def backslash : Char := '\x5c'

def doubleQuote : Char := '\x22'

def singleQuote : Char := '\x27'

def quoteChar (c : Char) : List Char :=
  if c = '\x00' then [backslash, '0']
  else if c = '\t' then [backslash, 't']
  else if c = '\r' then [backslash, 'r']
  else if c = '\n' then [backslash, 'n']
  else if c = doubleQuote ∨ c = backslash then [backslash, c]
  else if isConcealed c then [backslash, 'u', '\x7b'] ++ Numeral.hexDigits c.toNat ++ ['\x7d']
  else [c]

def quote (text : String) : String :=
  String.ofList (doubleQuote :: text.toList.flatMap quoteChar ++ [doubleQuote])

/-- A byte as visible ASCII: itself, or an escape. -/
def quoteByte (b : UInt8) : List Char :=
  let c := Char.ofNat b.toNat
  if c = '\t' then [backslash, 't']
  else if c = '\r' then [backslash, 'r']
  else if c = '\n' then [backslash, 'n']
  else if c = doubleQuote ∨ c = singleQuote ∨ c = backslash then [backslash, c]
  else if 0x20 ≤ b ∧ b ≤ 0x7E then [c]
  else [backslash, 'x'] ++ Numeral.hexDigits (b.toNat / 16) ++ Numeral.hexDigits (b.toNat % 16)

end RespStore.Text
