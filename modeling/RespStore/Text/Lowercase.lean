import RespStore.Text.Casing

set_option autoImplicit false

namespace RespStore.Text

def capitalSigma : Char := '\u03A3'

def smallSigma : Char := '\u03C3'

def finalSigma : Char := '\u03C2'

/-- The capital I with a dot, whose small form keeps the dot as a character of its own. -/
def dottedCapitalI : Char := '\u0130'

def dotAbove : Char := '\u0307'

/-- The lower-case form of a character wherever it stands. -/
def lowerChar (c : Char) : List Char :=
  if c = dottedCapitalI then ['i', dotAbove] else [Char.ofNat (lowerCode c.toNat)]

/-- Whether the first character that is not passed over has case. -/
def meetsCased (cs : List Char) : Bool :=
  match cs.dropWhile isCaseIgnorable with
  | [] => false
  | c :: _ => isCased c

/-- A sigma ends a word if a cased character stands before it and none after it. -/
def lowerSigma (before after : List Char) : Char :=
  if meetsCased before && !meetsCased after then finalSigma else smallSigma

/-- Continues with `after`, once the characters `before` (latest first) have become `done`
(latest first). -/
def lowercaseAfter (done before : List Char) : List Char → List Char
  | [] => done.reverse
  | c :: after =>
    if c = capitalSigma then lowercaseAfter (lowerSigma before after :: done) (c :: before) after
    else lowercaseAfter ((lowerChar c).reverse ++ done) (c :: before) after

def lowercase (text : String) : String :=
  String.ofList (lowercaseAfter [] [] text.toList)

end RespStore.Text
