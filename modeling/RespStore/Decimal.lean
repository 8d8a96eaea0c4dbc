import RespStore.Bytes

/-!
# Decimal numbers

Numbers are written in decimal without leading zeros, and read with an optional sign, any number
of leading zeros and a bound. Digits are read from the left, so of two flaws the first one counts.
`readNat_ofNat` and `readInt64?_ofInt64` say that what is written reads back.
-/

set_option autoImplicit false

namespace RespStore.Decimal

open RespStore (Bytes)

def plus : UInt8 := 43

def minus : UInt8 := 45

def digit (n : Nat) : UInt8 := UInt8.ofNat (48 + n)

def isDigit (b : UInt8) : Bool := 48 ≤ b && b ≤ 57

def digitValue (b : UInt8) : Nat := b.toNat - 48

/-- Digits of `n`, highest first and without leading zeros. -/
def ofNat (n : Nat) : Bytes :=
  if n < 10 then [digit n] else ofNat (n / 10) ++ [digit (n % 10)]
termination_by n
decreasing_by omega

/-- A negative number is its magnitude after a minus sign. -/
def ofInt : Int → Bytes
  | .ofNat n => ofNat n
  | .negSucc n => minus :: ofNat (n + 1)

def ofInt64 (n : Int64) : Bytes := ofInt n.toInt

def textOfNat (n : Nat) : String :=
  String.ofList ((ofNat n).map fun b => Char.ofNat b.toNat)

def textOfInt64 (n : Int64) : String :=
  String.ofList ((ofInt64 n).map fun b => Char.ofNat b.toNat)

def textOfUInt64 (n : UInt64) : String :=
  textOfNat n.toNat

inductive Flaw where
  | empty
  | notDigit
  | tooLarge
  deriving DecidableEq, Repr

def Flaw.message : Flaw → String
  | .empty => "cannot parse integer from empty string"
  | .notDigit => "invalid digit found in string"
  | .tooLarge => "number too large to fit in target type"

/-- Reads digits after those whose value is `value`, until one is no digit or passes `bound`. -/
def readDigits (bound value : Nat) : Bytes → Except Flaw Nat
  | [] => .ok value
  | b :: rest =>
    if isDigit b then
      if value * 10 + digitValue b ≤ bound then readDigits bound (value * 10 + digitValue b) rest
      else .error .tooLarge
    else .error .notDigit

def readMagnitude (bound : Nat) : Bytes → Except Flaw Nat
  | [] => .error .notDigit
  | digits => readDigits bound 0 digits

/-- A natural number of at most `bound`; one plus sign may stand before it. -/
def readNat (bound : Nat) : Bytes → Except Flaw Nat
  | [] => .error .empty
  | b :: rest => if b = plus then readMagnitude bound rest else readMagnitude bound (b :: rest)

def maxUInt64 : Nat := UInt64.size - 1

def readUInt64 (s : Bytes) : Except Flaw UInt64 :=
  (readNat maxUInt64 s).map UInt64.ofNat

def maxInt64 : Nat := Int64.size / 2 - 1

def readInt64? (s : Bytes) : Option Int64 :=
  match s with
  | [] => none
  | b :: rest =>
    if b = minus then
      (readMagnitude (maxInt64 + 1) rest).toOption.map fun n : Nat => Int64.ofInt (-(n : Int))
    else if b = plus then
      (readMagnitude maxInt64 rest).toOption.map fun n : Nat => Int64.ofInt (n : Int)
    else (readMagnitude maxInt64 s).toOption.map fun n : Nat => Int64.ofInt (n : Int)

theorem digitValue_digit {n : Nat} (h : n < 10) : digitValue (digit n) = n := by
  simp only [digitValue, digit, UInt8.toNat_ofNat']
  omega

theorem isDigit_digit {n : Nat} (h : n < 10) : isDigit (digit n) = true := by
  simp only [isDigit, digit, Bool.and_eq_true, decide_eq_true_eq, UInt8.le_iff_toNat_le,
    UInt8.toNat_ofNat']
  exact ⟨by simp; omega, by simp; omega⟩

/-- A written number starts with a digit. -/
theorem exists_cons_ofNat (n : Nat) : ∃ b rest, ofNat n = b :: rest ∧ isDigit b = true := by
  fun_induction ofNat n with
  | case1 n h => exact ⟨digit n, [], rfl, isDigit_digit h⟩
  | case2 n h ih =>
    obtain ⟨b, rest, hn, hb⟩ := ih
    exact ⟨b, rest ++ [digit (n % 10)], by simp [hn], hb⟩

theorem readDigits_ofNat {bound n : Nat} (h : n ≤ bound) (rest : Bytes) :
    readDigits bound 0 (ofNat n ++ rest) = readDigits bound n rest := by
  fun_induction ofNat n generalizing rest with
  | case1 n hn => simp [readDigits, isDigit_digit hn, digitValue_digit hn, h]
  | case2 n hn ih =>
    have hmod : n % 10 < 10 := Nat.mod_lt n (by decide)
    rw [List.append_assoc, ih (by omega)]
    simp [readDigits, isDigit_digit hmod, digitValue_digit hmod, Nat.div_add_mod', h]

theorem readMagnitude_ofNat {bound n : Nat} (h : n ≤ bound) :
    readMagnitude bound (ofNat n) = .ok n := by
  obtain ⟨b, rest, hn, -⟩ := exists_cons_ofNat n
  have hread := readDigits_ofNat h []
  rw [List.append_nil, hn] at hread
  rw [hn, readMagnitude, hread, readDigits]
  simp

theorem readNat_ofNat {bound n : Nat} (h : n ≤ bound) : readNat bound (ofNat n) = .ok n := by
  have hread := readMagnitude_ofNat h
  obtain ⟨b, rest, hn, hb⟩ := exists_cons_ofNat n
  have hplus : b ≠ plus := by rintro rfl; exact absurd hb (by decide)
  rw [hn] at hread ⊢
  simp [readNat, hplus, hread]

theorem readInt64?_ofInt64 (n : Int64) : readInt64? (ofInt64 n) = some n := by
  have hlow := Int64.le_toInt n
  have hhigh := Int64.toInt_lt n
  have hback := Int64.ofInt_toInt n
  revert hlow hhigh hback
  rw [ofInt64]
  cases n.toInt with
  | ofNat m =>
    intro hlow hhigh hback
    have hread : readMagnitude maxInt64 (ofNat m) = .ok m :=
      readMagnitude_ofNat (by simp at hhigh; simp only [maxInt64, Int64.size]; omega)
    obtain ⟨b, rest, hm, hb⟩ := exists_cons_ofNat m
    have hplus : b ≠ plus := by rintro rfl; exact absurd hb (by decide)
    have hminus : b ≠ minus := by rintro rfl; exact absurd hb (by decide)
    rw [hm] at hread
    rw [ofInt, hm, readInt64?, if_neg hminus, if_neg hplus, hread]
    exact congrArg some hback
  | negSucc m =>
    intro hlow hhigh hback
    have hread : readMagnitude (maxInt64 + 1) (ofNat (m + 1)) = .ok (m + 1) :=
      readMagnitude_ofNat (by
        rw [Int.negSucc_eq] at hlow
        simp only [maxInt64, Int64.size]
        omega)
    rw [ofInt, readInt64?, if_pos rfl, hread]
    exact congrArg some hback

end RespStore.Decimal
