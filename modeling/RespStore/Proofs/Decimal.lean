import RespStore.Decimal

set_option autoImplicit false

namespace RespStore.Decimal

open RespStore (Bytes)

theorem isDigit_of_mem_ofNat {b : UInt8} {n : Nat} (h : b ∈ ofNat n) : isDigit b = true := by
  fun_induction ofNat n with
  | case1 n hn =>
    rw [List.mem_singleton.1 h]
    exact isDigit_digit hn
  | case2 n hn ih =>
    rcases List.mem_append.1 h with hmem | hmem
    · exact ih hmem
    · rw [List.mem_singleton.1 hmem]
      exact isDigit_digit (Nat.mod_lt n (by decide))

def Digits (s : Bytes) : Prop := s ≠ [] ∧ ∀ b ∈ s, isDigit b = true

def valueAfter (value : Nat) (digits : Bytes) : Nat :=
  digits.foldl (fun value b => value * 10 + digitValue b) value

def valueOf (digits : Bytes) : Nat := valueAfter 0 digits

/-- One digit or more, of any value, after at most one sign. -/
inductive Writes : Bytes → Int → Prop where
  | unsigned {digits : Bytes} (hdigits : Digits digits) : Writes digits (valueOf digits)
  | plus {digits : Bytes} (hdigits : Digits digits) : Writes (plus :: digits) (valueOf digits)
  | minus {digits : Bytes} (hdigits : Digits digits) : Writes (minus :: digits) (-valueOf digits)

theorem Writes.digit_or_sign {line : Bytes} {v : Int} (h : Writes line v) {b : UInt8}
    (hmem : b ∈ line) : isDigit b = true ∨ b = Decimal.plus ∨ b = Decimal.minus := by
  cases h with
  | unsigned hdigits => exact .inl (hdigits.2 b hmem)
  | plus hdigits | minus hdigits =>
    rcases List.mem_cons.1 hmem with hsign | hmem
    · simp [hsign]
    · exact .inl (hdigits.2 b hmem)

theorem Writes.ne_cr {line : Bytes} {v : Int} (h : Writes line v) : Bytes.cr ∉ line := by
  intro hmem
  exact absurd (h.digit_or_sign hmem) (by decide)

theorem Writes.ne_lf {line : Bytes} {v : Int} (h : Writes line v) : Bytes.lf ∉ line := by
  intro hmem
  exact absurd (h.digit_or_sign hmem) (by decide)

theorem not_crlf_infix_of_writes {line : Bytes} {v : Int} (h : Writes line v) :
    ¬ Bytes.crlf <:+: line := by
  intro hcrlf
  exact h.ne_cr (hcrlf.subset (by simp [Bytes.crlf]))

theorem le_valueAfter (value : Nat) (s : Bytes) : value ≤ valueAfter value s := by
  induction s generalizing value with
  | nil => exact Nat.le_refl value
  | cons b rest ih =>
    have hrest := ih (value * 10 + digitValue b)
    change value ≤ valueAfter (value * 10 + digitValue b) rest
    omega

theorem readDigits_eq_ok_iff {bound value n : Nat} (s : Bytes) (hvalue : value ≤ bound) :
    readDigits bound value s = .ok n ↔
      (∀ b ∈ s, isDigit b = true) ∧ valueAfter value s = n ∧ n ≤ bound := by
  induction s generalizing value with
  | nil =>
    simp only [readDigits, valueAfter, List.foldl_nil, Except.ok.injEq]
    constructor
    · rintro rfl
      exact ⟨by simp, rfl, hvalue⟩
    · exact fun h => h.2.1
  | cons b rest ih =>
    have hstep : valueAfter value (b :: rest) = valueAfter (value * 10 + digitValue b) rest := rfl
    have hgrows := le_valueAfter (value * 10 + digitValue b) rest
    rw [readDigits, hstep]
    by_cases hb : isDigit b = true
    · by_cases hbound : value * 10 + digitValue b ≤ bound
      · rw [if_pos hb, if_pos hbound, ih hbound]
        simp [hb]
      · rw [if_pos hb, if_neg hbound]
        constructor
        · intro h
          cases h
        · rintro ⟨-, hn, hle⟩
          omega
    · rw [if_neg hb]
      constructor
      · intro h
        cases h
      · intro h
        exact absurd (h.1 b (by simp)) hb

theorem readMagnitude_eq_ok_iff {bound n : Nat} (s : Bytes) :
    readMagnitude bound s = .ok n ↔ Digits s ∧ valueOf s = n ∧ n ≤ bound := by
  cases s with
  | nil => simp [readMagnitude, Digits]
  | cons b rest =>
    rw [readMagnitude, readDigits_eq_ok_iff _ (Nat.zero_le bound)]
    · simp [Digits, valueOf]
    · intro h
      cases h

theorem toInt_ofInt_of_le {n : Nat} (h : n ≤ maxInt64) : (Int64.ofInt n).toInt = n := by
  simp only [maxInt64, Int64.size] at h
  exact Int64.toInt_ofInt_of_le (by omega) (by omega)

theorem toInt_ofInt_neg_of_le {n : Nat} (h : n ≤ maxInt64 + 1) :
    (Int64.ofInt (-(n : Int))).toInt = -n := by
  simp only [maxInt64, Int64.size] at h
  exact Int64.toInt_ofInt_of_le (by omega) (by omega)

theorem map_readMagnitude_eq_some_iff {bound : Nat} {s : Bytes} {f : Nat → Int64} {n : Int64} :
    (readMagnitude bound s).toOption.map f = some n ↔
      Digits s ∧ valueOf s ≤ bound ∧ f (valueOf s) = n := by
  constructor
  · intro h
    cases hm : readMagnitude bound s with
    | error flaw =>
      rw [hm] at h
      cases h
    | ok m =>
      obtain ⟨hdigits, rfl, hle⟩ := (readMagnitude_eq_ok_iff s).1 hm
      rw [hm] at h
      exact ⟨hdigits, hle, by simpa [Except.toOption] using h⟩
  · rintro ⟨hdigits, hle, rfl⟩
    rw [(readMagnitude_eq_ok_iff s).2 ⟨hdigits, rfl, hle⟩]
    rfl

theorem writes_of_readInt64? {line : Bytes} {n : Int64} (h : readInt64? line = some n) :
    Writes line n.toInt := by
  cases line with
  | nil => cases h
  | cons b rest =>
    rw [readInt64?] at h
    split at h
    · rename_i hminus
      obtain ⟨hdigits, hle, rfl⟩ := map_readMagnitude_eq_some_iff.1 h
      rw [hminus, toInt_ofInt_neg_of_le hle]
      exact .minus hdigits
    · split at h
      · rename_i hplus
        obtain ⟨hdigits, hle, rfl⟩ := map_readMagnitude_eq_some_iff.1 h
        rw [hplus, toInt_ofInt_of_le hle]
        exact .plus hdigits
      · obtain ⟨hdigits, hle, rfl⟩ := map_readMagnitude_eq_some_iff.1 h
        rw [toInt_ofInt_of_le hle]
        exact .unsigned hdigits

theorem ne_sign_of_isDigit {b : UInt8} (hb : isDigit b = true) : b ≠ plus ∧ b ≠ minus := by
  constructor
  · intro hplus
    rw [hplus] at hb
    exact absurd hb (by decide)
  · intro hminus
    rw [hminus] at hb
    exact absurd hb (by decide)

theorem readInt64?_of_writes {line : Bytes} {v : Int} (h : Writes line v) {n : Int64}
    (hn : v = n.toInt) : readInt64? line = some n := by
  have hlow := Int64.le_toInt n
  have hhigh := Int64.toInt_lt n
  have hback := Int64.ofInt_toInt n
  have hmax : maxInt64 = 9223372036854775807 := by decide
  rw [← hn] at hlow hhigh hback
  cases h with
  | unsigned hdigits =>
    cases line with
    | nil => exact absurd rfl hdigits.1
    | cons b rest =>
      obtain ⟨hplus, hminus⟩ := ne_sign_of_isDigit (hdigits.2 b List.mem_cons_self)
      rw [readInt64?, if_neg hminus, if_neg hplus]
      exact map_readMagnitude_eq_some_iff.2 ⟨hdigits, by omega, hback⟩
  | plus hdigits =>
    rw [readInt64?, if_neg (by decide), if_pos rfl]
    exact map_readMagnitude_eq_some_iff.2 ⟨hdigits, by omega, hback⟩
  | minus hdigits =>
    rw [readInt64?, if_pos rfl]
    exact map_readMagnitude_eq_some_iff.2 ⟨hdigits, by omega, hback⟩

theorem readInt64?_eq_some_iff {line : Bytes} {n : Int64} :
    readInt64? line = some n ↔ Writes line n.toInt :=
  ⟨writes_of_readInt64?, fun h => readInt64?_of_writes h rfl⟩

def InRange (v : Int) : Prop := -(maxInt64 : Int) - 1 ≤ v ∧ v ≤ maxInt64

theorem inRange_toInt (n : Int64) : InRange n.toInt := by
  have hlow := n.le_toInt
  have hhigh := n.toInt_lt
  simp only [InRange, maxInt64, Int64.size]
  omega

theorem InRange.exists_toInt {v : Int} (h : InRange v) : ∃ n : Int64, n.toInt = v := by
  simp only [InRange, maxInt64, Int64.size] at h
  exact ⟨Int64.ofInt v, Int64.toInt_ofInt_of_le (by omega) (by omega)⟩

theorem readInt64?_eq_none_iff {line : Bytes} :
    readInt64? line = none ↔ ¬ ∃ v, Writes line v ∧ InRange v := by
  constructor
  · rintro h ⟨v, hwrites, hrange⟩
    obtain ⟨n, rfl⟩ := hrange.exists_toInt
    rw [readInt64?_eq_some_iff.2 hwrites] at h
    cases h
  · intro h
    cases hread : readInt64? line with
    | none => rfl
    | some n => exact absurd ⟨_, readInt64?_eq_some_iff.1 hread, inRange_toInt n⟩ h

inductive WritesNat : Bytes → Nat → Prop where
  | unsigned {digits : Bytes} (hdigits : Digits digits) : WritesNat digits (valueOf digits)
  | plus {digits : Bytes} (hdigits : Digits digits) : WritesNat (plus :: digits) (valueOf digits)

theorem readNat_eq_ok_iff {bound n : Nat} {s : Bytes} :
    readNat bound s = .ok n ↔ WritesNat s n ∧ n ≤ bound := by
  constructor
  · intro h
    cases s with
    | nil => cases h
    | cons b rest =>
      rw [readNat] at h
      split at h
      · rename_i hplus
        obtain ⟨hdigits, rfl, hle⟩ := (readMagnitude_eq_ok_iff rest).1 h
        rw [hplus]
        exact ⟨.plus hdigits, hle⟩
      · obtain ⟨hdigits, rfl, hle⟩ := (readMagnitude_eq_ok_iff (b :: rest)).1 h
        exact ⟨.unsigned hdigits, hle⟩
  · rintro ⟨hwrites, hle⟩
    cases hwrites with
    | unsigned hdigits =>
      cases s with
      | nil => exact absurd rfl hdigits.1
      | cons b rest =>
        have hplus := (ne_sign_of_isDigit (hdigits.2 b List.mem_cons_self)).1
        rw [readNat, if_neg hplus]
        exact (readMagnitude_eq_ok_iff _).2 ⟨hdigits, rfl, hle⟩
    | plus hdigits =>
      rw [readNat, if_pos rfl]
      exact (readMagnitude_eq_ok_iff _).2 ⟨hdigits, rfl, hle⟩

theorem readUInt64_eq_ok_iff {s : Bytes} {n : UInt64} :
    readUInt64 s = .ok n ↔ WritesNat s n.toNat := by
  have hmax : maxUInt64 + 1 = UInt64.size := rfl
  have hn : n.toNat < UInt64.size := n.toNat_lt
  constructor
  · intro h
    cases hread : readNat maxUInt64 s with
    | error flaw =>
      rw [readUInt64, hread] at h
      cases h
    | ok m =>
      obtain ⟨hwrites, hle⟩ := readNat_eq_ok_iff.1 hread
      rw [readUInt64, hread] at h
      have hword : UInt64.ofNat m = n := Except.ok.inj h
      rwa [← hword, UInt64.toNat_ofNat_of_lt' (by omega)]
  · intro h
    rw [readUInt64, readNat_eq_ok_iff.2 ⟨h, by omega⟩]
    exact congrArg Except.ok UInt64.ofNat_toNat

theorem writesNat_ofNat (n : Nat) : WritesNat (ofNat n) n :=
  (readNat_eq_ok_iff.1 (readNat_ofNat (Nat.le_refl n))).1

/-- A text of a number without plus sign, without leading zeros and without a minus sign before
zero. -/
inductive Canonical : Bytes → Int → Prop where
  | zero : Canonical [digit 0] 0
  | positive {digits : Bytes} (hdigits : Digits digits) (hfirst : digits.head? ≠ some (digit 0)) :
      Canonical digits (valueOf digits)
  | negative {digits : Bytes} (hdigits : Digits digits) (hfirst : digits.head? ≠ some (digit 0)) :
      Canonical (Decimal.minus :: digits) (-valueOf digits)

theorem Canonical.writes {text : Bytes} {v : Int} (h : Canonical text v) : Writes text v := by
  cases h with
  | zero =>
    have hdigits : Digits [digit 0] := ⟨List.cons_ne_nil _ _, by simp [isDigit_digit]⟩
    exact .unsigned hdigits
  | positive hdigits => exact .unsigned hdigits
  | negative hdigits => exact .minus hdigits

theorem digits_ofNat (n : Nat) : Digits (ofNat n) ∧ valueOf (ofNat n) = n := by
  obtain ⟨hdigits, hvalue, -⟩ :=
    (readMagnitude_eq_ok_iff (ofNat n)).1 (readMagnitude_ofNat (Nat.le_refl n))
  exact ⟨hdigits, hvalue⟩

theorem head?_ofNat {n : Nat} (hpos : 0 < n) : (ofNat n).head? ≠ some (digit 0) := by
  fun_induction ofNat n with
  | case1 n hn =>
    intro h
    have hvalue := digitValue_digit hn
    rw [Option.some.inj h] at hvalue
    rw [digitValue_digit (by decide)] at hvalue
    omega
  | case2 n hn ih =>
    obtain ⟨b, rest, hcons, -⟩ := exists_cons_ofNat (n / 10)
    have hfirst := ih (by omega)
    rw [hcons] at hfirst ⊢
    exact hfirst

theorem canonical_ofInt (v : Int) : Canonical (ofInt v) v := by
  cases v with
  | ofNat n =>
    obtain ⟨hdigits, hvalue⟩ := digits_ofNat n
    cases n with
    | zero =>
      have hzero : ofInt (Int.ofNat 0) = [digit 0] := by rw [ofInt, ofNat, if_pos (by decide)]
      rw [hzero]
      exact .zero
    | succ n =>
      have hcanonical := Canonical.positive hdigits (head?_ofNat n.succ_pos)
      rwa [hvalue] at hcanonical
  | negSucc n =>
    obtain ⟨hdigits, hvalue⟩ := digits_ofNat (n + 1)
    have hcanonical := Canonical.negative hdigits (head?_ofNat n.succ_pos)
    rwa [hvalue] at hcanonical

end RespStore.Decimal
