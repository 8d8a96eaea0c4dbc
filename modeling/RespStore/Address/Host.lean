import RespStore.Decimal
import RespStore.Text.Numeral
import RespStore.Text.Utf8

/-!
# Hosts

A host is a number of 32 or of 128 bits. The short one is written as up to four numbers with points
between them, the last of which fills the bytes that the others leave. The long one is eight groups
of hexadecimal digits with colons between them; two colons in a row stand for groups of zero that
are left out, and the last two groups may be written as four bytes. A percent sign after the groups
comes before the link on which the number counts.
-/

set_option autoImplicit false

namespace RespStore

open Text

/-- A long number counts on one link, or on whichever has it when `link` is zero. -/
inductive Host where
  | v4 (number : BitVec 32)
  | v6 (number : BitVec 128) (link : UInt32)
  deriving DecidableEq, Repr

namespace Host

def loopback : Host := .v4 0x7F000001#32

/-- Whether a short number is one of those by which a host calls itself. -/
def isLoopback (number : BitVec 32) : Bool := number >>> 24 = 127

/-- The short number of a host. A long one may stand for a short one. -/
def short? : Host → Option (BitVec 32)
  | .v4 number => some number
  | .v6 number _ => if number >>> 32 = 0xFFFF then some (number.truncate 32) else none

/-- Whether a long number stands for many hosts. -/
def isShared (number : BitVec 128) : Bool := number >>> 120 = 0xFF

def isOfLink (number : BitVec 128) : Bool := number >>> 118 = 0x3FA

/-- Whether a long number is of a link, or shared within a host or a link and no further. -/
def isLocal (number : BitVec 128) : Bool :=
  isOfLink number || [0xFF01, 0xFF02#128].contains (number >>> 112 &&& 0xFF0F)

def loopbackLink : UInt32 := 1

/-! ## Reading -/

/-- Fills `room` bytes after those of `value`: every part but the last fills one. -/
def fill (value : Nat) : Nat → List Nat → Option Nat
  | _, [] => none
  | room, [last] => if last < 256 ^ room then some (value * 256 ^ room + last) else none
  | 0, _ => none
  | room + 1, part :: rest => if part < 256 then fill (value * 256 + part) room rest else none

def readNumbers? (cs : List Char) : Option (BitVec 32) := do
  let parts ← (cs.splitOn '.').mapM Numeral.readPrefixed?
  if parts.length ≤ 4 then (fill 0 4 parts).map (BitVec.ofNat 32) else none

/-- A byte in decimal, without a zero before other digits. -/
def readByte? (cs : List Char) : Option Nat :=
  if 3 < cs.length ∨ (cs.head? = some '0' ∧ cs.length ≠ 1) then none
  else (Numeral.read? 10 cs).filter (· < 256)

def readBytes? (cs : List Char) : Option Nat := do
  match ← (cs.splitOn '.').mapM readByte? with
  | [a, b, c, d] => fill 0 4 [a, b, c, d]
  | _ => none

def readGroup? (cs : List Char) : Option Nat :=
  if cs.length ≤ 4 then Numeral.read? 16 cs else none

/-- Groups, the last two of which may be written as four bytes. -/
def readGroups? : List (List Char) → Option (List Nat)
  | [] => some []
  | [last] =>
    match readBytes? last with
    | some number => some [number / 65536, number % 65536]
    | none => (readGroup? last).map ([·])
  | part :: rest => do return (← readGroup? part) :: (← readGroups? rest)

/-- Cuts at the first two colons in a row. -/
def splitGap? : List Char → Option (List Char × List Char)
  | ':' :: ':' :: rest => some ([], rest)
  | c :: rest => (splitGap? rest).map fun (before, after) => (c :: before, after)
  | [] => none

def splitParts (cs : List Char) : List (List Char) :=
  if cs = [] then [] else cs.splitOn ':'

/-- Eight groups. A gap stands for at least one. -/
def readAllGroups? (cs : List Char) : Option (List Nat) := do
  match splitGap? cs with
  | none =>
    let groups ← readGroups? (splitParts cs)
    if groups.length = 8 then some groups else none
  | some (before, after) =>
    let before ← (splitParts before).mapM readGroup?
    let after ← readGroups? (splitParts after)
    if before.length + after.length < 8 then
      some (before ++ List.replicate (8 - before.length - after.length) 0 ++ after)
    else none

def readLong? (cs : List Char) : Option (BitVec 128) :=
  (readAllGroups? cs).map fun groups =>
    BitVec.ofNat 128 (groups.foldl (fun value group => value * 65536 + group) 0)

def readLinkNumber? (cs : List Char) : Option UInt32 :=
  ((Numeral.read? 10 cs).filter (· < UInt32.size)).map UInt32.ofNat

/-- A link by its number, or by its name if the long number stays on one host or one link. -/
def readLink? (number : BitVec 128) (cs : List Char) : Option UInt32 :=
  if isLocal number ∧ cs = ['l', 'o'] then some loopbackLink else readLinkNumber? cs

/-- A long number, with the link after a percent sign if there is one. -/
def readLinked? (readLink? : BitVec 128 → List Char → Option UInt32) (cs : List Char) :
    Option Host := do
  let number ← readLong? (cs.takeWhile (· ≠ '%'))
  match cs.dropWhile (· ≠ '%') with
  | _ :: link => return .v6 number (← readLink? number link)
  | [] => return .v6 number 0

/-! ## Writing -/

def bytesText (number : BitVec 32) : String :=
  ".".intercalate <| [24, 16, 8, 0].map fun place =>
    Decimal.textOfNat ((number >>> place).toNat % 256)

def groups (number : BitVec 128) : List Nat :=
  [112, 96, 80, 64, 48, 32, 16, 0].map fun place => (number >>> place).toNat % 65536

def groupsText (groups : List Nat) : String :=
  ":".intercalate (groups.map fun group => String.ofList (Numeral.hexDigits group))

/-- How many of the groups from a place on are zero before the first that is not. -/
def zeros (groups : List Nat) (place : Nat) : Nat :=
  ((groups.drop place).takeWhile (· = 0)).length

/-- Where the longest run of zeros begins, the first one of those of equal length. -/
def longestZeros (groups : List Nat) : Nat :=
  (List.range groups.length).foldl
    (fun best place => if zeros groups best < zeros groups place then place else best) 0

/-- The longest run of two zeros or more is left out. -/
def longText (number : BitVec 128) : String :=
  let groups := groups number
  let place := longestZeros groups
  if 2 ≤ zeros groups place then
    groupsText (groups.take place) ++ "::" ++ groupsText (groups.drop (place + zeros groups place))
  else groupsText groups

/-- A long number that stands for a short one shows it. The link is not shown. -/
def text : Host → String
  | .v4 number => bytesText number
  | .v6 number link =>
    match (Host.v6 number link).short? with
    | some short => "::ffff:" ++ bytesText short
    | none => longText number

/-! ## Names -/

inductive Fault where
  | holdsNul
  | unknown
  | unanswered
  deriving DecidableEq, Repr

def Fault.message : Fault → String
  | .holdsNul => "file name contained an unexpected NUL byte"
  | .unknown => "failed to lookup address information: Name or service not known"
  | .unanswered => "failed to lookup address information: Temporary failure in name resolution"

def isNameChar (c : Char) : Bool :=
  c.isAlphanum || c = '-' || c = '_'

/-- The parts of a name; a point may end it. -/
def labels (cs : List Char) : List (List Char) :=
  match (cs.splitOn '.').reverse with
  | [] :: rest => rest.reverse
  | _ => cs.splitOn '.'

/-- Whether a text can be the name of a host: the root alone, or parts of 1 to 63 letters, digits,
hyphens and underscores, with points between them fewer than 254 characters, and no hyphen first. -/
def isName (cs : List Char) : Bool :=
  cs = ['.'] ||
    (labels cs ≠ [] && cs.head? ≠ some '-' &&
      (labels cs).all (fun label => label ≠ [] && label.length ≤ 63 && label.all isNameChar) &&
      (['.'].intercalate (labels cs)).length < 254)

/-- The host that a text stands for: a number, or this host by name. No other name is known, and
nobody is there to ask. -/
def resolve (cs : List Char) : Except Fault Host :=
  if '\x00' ∈ cs then .error .holdsNul
  else
    match readNumbers? cs, readLinked? readLink? cs with
    | some number, _ => .ok (.v4 number)
    | none, some host => .ok host
    | none, none =>
      if cs.map Char.toLower = "localhost".toList then .ok loopback
      else .error (if isName cs then .unanswered else .unknown)

end Host

end RespStore
