set_option autoImplicit false

namespace RespStore.Text.Numeral

def digitValue? (c : Char) : Option Nat :=
  if '0' ≤ c ∧ c ≤ '9' then some (c.toNat - '0'.toNat)
  else if 'a' ≤ c ∧ c ≤ 'f' then some (c.toNat - 'a'.toNat + 10)
  else if 'A' ≤ c ∧ c ≤ 'F' then some (c.toNat - 'A'.toNat + 10)
  else none

/-- Reads digits after those whose value is `value`. -/
def readAfter (base value : Nat) : List Char → Option Nat
  | [] => some value
  | c :: rest =>
    match digitValue? c with
    | none => none
    | some digit => if digit < base then readAfter base (value * base + digit) rest else none

def read? (base : Nat) : List Char → Option Nat
  | [] => none
  | cs => readAfter base 0 cs

/-- A number that names its base: hexadecimal after `0x`, octal after another zero, else decimal. -/
def readPrefixed? : List Char → Option Nat
  | '0' :: 'x' :: digits => read? 16 digits
  | '0' :: 'X' :: digits => read? 16 digits
  | '0' :: digits => readAfter 8 0 digits
  | digits => read? 10 digits

def hexDigits (n : Nat) : List Char := Nat.toDigits 16 n

theorem digitValue?_digitChar {d : Nat} (h : d < 16) : digitValue? d.digitChar = some d := by
  revert d
  decide

theorem readAfter_hexDigits (n : Nat) (rest : List Char) :
    readAfter 16 0 (hexDigits n ++ rest) = readAfter 16 n rest := by
  induction n using Nat.strongRecOn generalizing rest with
  | ind n ih =>
    by_cases h : n < 16
    · simp [hexDigits, Nat.toDigits_of_lt_base h, readAfter, digitValue?_digitChar h, h]
    · have hmod : n % 16 < 16 := Nat.mod_lt n (by decide)
      rw [hexDigits, Nat.toDigits_of_base_le (by decide) (by omega), List.append_assoc]
      refine (ih (n / 16) (by omega) _).trans ?_
      simp [readAfter, digitValue?_digitChar hmod, hmod, Nat.div_add_mod']

theorem read?_hexDigits (n : Nat) : read? 16 (hexDigits n) = some n := by
  have h := readAfter_hexDigits n []
  rw [List.append_nil] at h
  rw [read?, h, readAfter]
  simp [hexDigits]

end RespStore.Text.Numeral
