import RespStore.Proofs.Decimal
import RespStore.Proofs.Frame.RoundTrip
import RespStore.Proofs.Text.Lowercase

set_option autoImplicit false

namespace RespStore

open Text

def isLineBreak (c : Char) : Bool := c = '\r' || c = '\n'

theorem isLineBreak_ofNat {n : Nat} (hcr : n ≠ 13) (hlf : n ≠ 10) :
    isLineBreak (Char.ofNat n) = false := by
  have hr : '\r' ≠ Char.ofNat n := by
    rw [ne_eq, eq_ofNat_iff (by decide)]
    exact Ne.symm hcr
  have hn : '\n' ≠ Char.ofNat n := by
    rw [ne_eq, eq_ofNat_iff (by decide)]
    exact Ne.symm hlf
  simp [isLineBreak, hr.symm, hn.symm]

theorem hasLineBreak_ofList (cs : List Char) :
    hasLineBreak (String.ofList cs) = cs.any isLineBreak := by
  rw [hasLineBreak, String.toList_ofList]
  rfl

theorem hasLineBreak_append (front back : String) :
    hasLineBreak (front ++ back) = (hasLineBreak front || hasLineBreak back) := by
  rw [hasLineBreak, String.toList_append, List.any_append]
  rfl

theorem hasLineBreak_eq_true_iff (text : String) :
    hasLineBreak text = true ↔ '\r' ∈ text.toList ∨ '\n' ∈ text.toList := by
  rw [← Bool.not_eq_false, Frame.hasLineBreak_eq_false_iff, Decidable.not_and_iff_not_or_not,
    Decidable.not_not, Decidable.not_not]

theorem any_isLineBreak_ofNat (n : Nat) :
    ((Decimal.ofNat n).map fun b => Char.ofNat b.toNat).any isLineBreak = false := by
  rw [List.any_map, List.any_eq_false]
  intro b hmem
  have hdigit := Decimal.isDigit_of_mem_ofNat hmem
  have hlow : 48 ≤ b.toNat := by
    simp only [Decimal.isDigit, Bool.and_eq_true, decide_eq_true_eq,
      UInt8.le_iff_toNat_le] at hdigit
    exact hdigit.1
  simp [isLineBreak_ofNat (show b.toNat ≠ 13 by omega) (show b.toNat ≠ 10 by omega)]

theorem hasLineBreak_textOfUInt64 (n : UInt64) : hasLineBreak (Decimal.textOfUInt64 n) = false := by
  rw [Decimal.textOfUInt64, Decimal.textOfNat, hasLineBreak_ofList, any_isLineBreak_ofNat]

theorem hasLineBreak_textOfInt64 (n : Int64) : hasLineBreak (Decimal.textOfInt64 n) = false := by
  rw [Decimal.textOfInt64, Decimal.ofInt64, hasLineBreak_ofList]
  cases n.toInt with
  | ofNat m => exact any_isLineBreak_ofNat m
  | negSucc m =>
    rw [Decimal.ofInt, List.map_cons, List.any_cons, any_isLineBreak_ofNat]
    decide

theorem digitValue?_of_readAfter {base value n : Nat} {cs : List Char}
    (h : Numeral.readAfter base value cs = some n) : ∀ c ∈ cs, Numeral.digitValue? c ≠ none := by
  induction cs generalizing value with
  | nil =>
    intro c hmem
    cases hmem
  | cons c rest ih =>
    rw [Numeral.readAfter] at h
    split at h
    · cases h
    · rename_i digit hc
      split at h
      · intro d hmem
        rcases List.mem_cons.1 hmem with rfl | hmem
        · rw [hc]
          exact Option.some_ne_none digit
        · exact ih h d hmem
      · cases h

theorem any_isLineBreak_hexDigits (n : Nat) : (Numeral.hexDigits n).any isLineBreak = false := by
  have hread := Numeral.readAfter_hexDigits n []
  rw [List.append_nil] at hread
  rw [List.any_eq_false]
  intro c hmem hbreak
  have hdigit := digitValue?_of_readAfter hread c hmem
  rcases (by simpa [isLineBreak] using hbreak : c = '\r' ∨ c = '\n') with rfl | rfl
  · exact hdigit (by decide)
  · exact hdigit (by decide)

theorem any_isLineBreak_quoteChar (c : Char) : (quoteChar c).any isLineBreak = false := by
  unfold quoteChar
  split
  · decide
  split
  · decide
  split
  · decide
  split
  · decide
  split
  · rename_i hquoted
    rcases hquoted with rfl | rfl <;> decide
  split
  · rw [List.any_append, List.any_append, any_isLineBreak_hexDigits]
    decide
  · rename_i hcr hlf _ _
    simp [isLineBreak, hcr, hlf]

theorem hasLineBreak_quote (text : String) : hasLineBreak (quote text) = false := by
  have hchars : (text.toList.flatMap quoteChar).any isLineBreak = false := by
    rw [List.any_flatMap, List.any_eq_false]
    intro c _
    rw [any_isLineBreak_quoteChar]
    decide
  rw [quote, hasLineBreak_ofList, List.cons_append, List.any_cons, List.any_append, hchars]
  decide

theorem any_isLineBreak_quoteByte (b : UInt8) : (quoteByte b).any isLineBreak = false := by
  unfold quoteByte
  simp only
  split
  · decide
  split
  · decide
  split
  · decide
  split
  · rename_i hquoted
    rcases hquoted with h | h | h <;> rw [h] <;> decide
  split
  · rename_i hvisible
    have hlow : 0x20 ≤ b.toNat := UInt8.le_iff_toNat_le.1 hvisible.1
    rw [List.any_cons, isLineBreak_ofNat (by omega) (by omega)]
    rfl
  · rw [List.any_append, List.any_append, any_isLineBreak_hexDigits, any_isLineBreak_hexDigits]
    decide

theorem hasLineBreak_quoteByte (b : UInt8) :
    hasLineBreak (String.ofList (quoteByte b)) = false := by
  rw [hasLineBreak_ofList, any_isLineBreak_quoteByte]

theorem Malformed.hasLineBreak_message (cause : Malformed) :
    hasLineBreak cause.message = false := by
  unfold message
  cases cause with
  | unknownLead byte =>
    simp only [hasLineBreak_append, hasLineBreak_quoteByte]
    rfl
  | invalidInteger line | invalidBulkLength line | invalidArrayLength line =>
    simp only [hasLineBreak_append, hasLineBreak_quote]
    rfl
  | negativeBulkLength length | negativeArrayLength length =>
    simp only [hasLineBreak_append, hasLineBreak_textOfInt64]
    rfl
  | bulkTooLong length limit | arrayTooLong length limit =>
    simp only [hasLineBreak_append, hasLineBreak_textOfInt64, hasLineBreak_textOfUInt64]
    rfl
  | unterminatedBulk => rfl
  | tooDeep limit =>
    simp only [hasLineBreak_append, hasLineBreak_textOfUInt64]
    rfl

theorem hasLineBreak_encode_iff (text : String) :
    hasLineBreak text = true ↔ Bytes.cr ∈ Utf8.encode text ∨ Bytes.lf ∈ Utf8.encode text := by
  rw [hasLineBreak_eq_true_iff, ← Utf8.mem_encode_iff text '\r' (by decide),
    ← Utf8.mem_encode_iff text '\n' (by decide)]
  rfl

theorem hasLineBreak_decode_iff (s : Bytes) :
    hasLineBreak (Utf8.decode s) = true ↔ Bytes.cr ∈ s ∨ Bytes.lf ∈ s := by
  rw [hasLineBreak_eq_true_iff, Utf8.mem_decode_iff s '\r' (by decide) (by decide),
    Utf8.mem_decode_iff s '\n' (by decide) (by decide)]
  rfl

theorem hasLineBreak_lowercase (text : String) :
    hasLineBreak (lowercase text) = hasLineBreak text := by
  rw [Bool.eq_iff_iff, hasLineBreak_eq_true_iff, hasLineBreak_eq_true_iff,
    mem_lowercase_iff text '\r' (by decide) (by decide),
    mem_lowercase_iff text '\n' (by decide) (by decide)]

end RespStore
