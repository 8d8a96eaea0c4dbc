import RespStore.Proofs.Decimal
import RespStore.Proofs.Text.Ascii
import RespStore.Settings.CommandLine

set_option autoImplicit false

namespace RespStore

namespace Settings

open Text

def value (settings : Settings) : (field : Field) → field.Carrier
  | .address => settings.address
  | .maxBulk => settings.maxBulk
  | .maxArray => settings.maxArray
  | .maxDepth => settings.maxDepth
  | .pollInterval => settings.pollInterval
  | .shutdownPasses => settings.shutdownPasses
  | .readBuffer => settings.readBuffer

@[simp]
theorem value_ofValues (values : (field : Field) → field.Carrier) (field : Field) :
    (ofValues values).value field = values field := by
  cases field <;> rfl

namespace Field

/-- A number is its digits, with at most one plus sign before them, and has to fit a word of 64
bits. -/
def WritesNumber (text : String) (n : UInt64) : Prop :=
  Decimal.WritesNat (Utf8.encode text) n.toNat

def Writes : (field : Field) → String → field.Carrier → Prop
  | .address, text, value => text = value
  | .maxBulk, text, n | .maxArray, text, n | .maxDepth, text, n | .pollInterval, text, n
  | .shutdownPasses, text, n | .readBuffer, text, n => WritesNumber text n

def Accepts (field : Field) (text : String) : Prop := ∃ value, field.Writes text value

variable {field : Field} {text : String}

theorem readNumber_eq_ok_iff {n : UInt64} : readNumber text = .ok n ↔ WritesNumber text n := by
  rw [WritesNumber, ← Decimal.readUInt64_eq_ok_iff, readNumber]
  cases Decimal.readUInt64 (Utf8.encode text) <;> simp

theorem read_eq_ok_iff {value : field.Carrier} :
    field.read text = .ok value ↔ field.Writes text value := by
  cases field with
  | address => exact ⟨Except.ok.inj, congrArg Except.ok⟩
  | maxBulk | maxArray | maxDepth | pollInterval | shutdownPasses | readBuffer =>
    exact readNumber_eq_ok_iff

theorem Writes.unique {v w : field.Carrier} (hv : field.Writes text v)
    (hw : field.Writes text w) : v = w := by
  have hread := read_eq_ok_iff.2 hv
  rw [read_eq_ok_iff.2 hw] at hread
  exact (Except.ok.inj hread).symm

theorem not_accepts_of_read {reason : String} (h : field.read text = .error reason) :
    ¬ field.Accepts text := by
  rintro ⟨value, hwrites⟩
  rw [read_eq_ok_iff.2 hwrites] at h
  cases h

instance (field : Field) (text : String) : Decidable (field.Accepts text) :=
  match hread : field.read text with
  | .ok value => .isTrue ⟨value, read_eq_ok_iff.1 hread⟩
  | .error _ => .isFalse (not_accepts_of_read hread)

theorem writesNumber_textOfUInt64 (n : UInt64) : WritesNumber (Decimal.textOfUInt64 n) n := by
  have hsmall : ∀ b ∈ Decimal.ofNat n.toNat, b.toNat < 128 := by
    intro b hb
    have hdigit := Decimal.isDigit_of_mem_ofNat hb
    simp only [Decimal.isDigit, Bool.and_eq_true, decide_eq_true_eq, UInt8.le_iff_toNat_le]
      at hdigit
    exact Nat.lt_of_le_of_lt hdigit.2 (by decide)
  rw [WritesNumber, Decimal.textOfUInt64, Decimal.textOfNat, Utf8.encode_ofList_of_lt hsmall]
  exact Decimal.writesNat_ofNat n.toNat

/-- The texts of the defaults and the standard settings are two tables of the same values. -/
theorem writes_defaultText (field : Field) :
    field.Writes field.defaultText (standard.value field) := by
  cases field with
  | address => rfl
  | maxBulk | maxArray | maxDepth | pollInterval | shutdownPasses | readBuffer =>
    exact writesNumber_textOfUInt64 _

end Field

end Settings

end RespStore
