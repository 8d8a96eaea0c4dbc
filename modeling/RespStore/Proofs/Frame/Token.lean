import RespStore.Frame.Read
import RespStore.Frame.Written
import RespStore.Proofs.Decimal

set_option autoImplicit false

namespace RespStore.Token

open RespStore.Frame (headed)

theorem read_headed (limits : Limits) (lead : Lead) {line : Bytes} (hline : ¬ Bytes.crlf <:+: line)
    (rest : Bytes) :
    Token.read limits (headed lead line ++ rest) = readBody limits lead line rest := by
  have hsplit : Bytes.splitLine (line ++ Bytes.crlf ++ rest) = some (line, rest) :=
    Bytes.splitLine_eq_some_iff.2 ⟨rfl, hline⟩
  simp only [headed, List.cons_append, Token.read, Lead.ofByte?_byte, hsplit]

theorem read_cases (limits : Limits) (s : Bytes) :
    Token.read limits s = .error .incomplete ∨
      (∃ b rest, s = b :: rest ∧ Lead.ofByte? b = none ∧
        Token.read limits s = .error (.malformed (.unknownLead b))) ∨
      ∃ lead line rest, s = headed lead line ++ rest ∧ ¬ Bytes.crlf <:+: line ∧
        Token.read limits s = readBody limits lead line rest := by
  cases s with
  | nil => exact .inl rfl
  | cons b tail =>
    rw [Token.read]
    cases hlead : Lead.ofByte? b with
    | none => exact .inr (.inl ⟨b, tail, rfl, hlead, rfl⟩)
    | some lead =>
      cases hsplit : Bytes.splitLine tail with
      | none => exact .inl rfl
      | some parts =>
        obtain ⟨line, rest⟩ := parts
        obtain ⟨htail, hline⟩ := Bytes.splitLine_eq_some_iff.1 hsplit
        refine .inr (.inr ⟨lead, line, rest, ?_, hline, rfl⟩)
        rw [headed, Lead.byte_of_ofByte? hlead, htail]
        rfl

theorem exists_headed_of_read {limits : Limits} {s rest : Bytes} {token : Token}
    (h : Token.read limits s = .ok (token, rest)) :
    ∃ lead line after, s = headed lead line ++ after ∧ ¬ Bytes.crlf <:+: line ∧
      readBody limits lead line after = .ok (token, rest) := by
  rcases read_cases limits s with hs | ⟨b, tail, -, -, hs⟩ | ⟨lead, line, after, hs, hline, hbody⟩
  · rw [hs] at h
    cases h
  · rw [hs] at h
    cases h
  · exact ⟨lead, line, after, hs, hline, hbody ▸ h⟩

theorem readInteger_eq_ok_iff {line s rest : Bytes} {token : Token} :
    readInteger line s = .ok (token, rest) ↔
      ∃ n : Int64, Decimal.Writes line n.toInt ∧ token = .leaf (.integer n) ∧ rest = s := by
  rw [readInteger]
  cases h : Decimal.readInt64? line with
  | none =>
    simp only [← Decimal.readInt64?_eq_some_iff, h]
    simp
  | some n =>
    simp only [← Decimal.readInt64?_eq_some_iff, h]
    simp [eq_comm]

theorem exists_of_length_le {length : Nat} {s : Bytes} (h : length + 2 ≤ s.length) :
    ∃ (payload : Bytes) (a b : UInt8) (rest : Bytes),
      payload.length = length ∧ s = payload ++ ([a, b] ++ rest) := by
  have hfirst : length < s.length := by omega
  have hsecond : length + 1 < s.length := by omega
  refine ⟨s.take length, s[length], s[length + 1], s.drop (length + 2),
    List.length_take_of_le (by omega), ?_⟩
  have hrest : [s[length], s[length + 1]] ++ s.drop (length + 2) = s.drop length := by
    rw [List.drop_eq_getElem_cons hfirst, List.drop_eq_getElem_cons hsecond]
    rfl
  rw [hrest, List.take_append_drop]

theorem readPayload_split (payload : Bytes) (a b : UInt8) (rest : Bytes) :
    readPayload payload.length (payload ++ ([a, b] ++ rest)) =
      if a = Bytes.cr ∧ b = Bytes.lf then .ok (.leaf (.bulk payload), rest)
      else .error (.malformed .unterminatedBulk) := by
  rw [readPayload, List.drop_left, List.take_left]
  rfl

theorem readPayload_eq_incomplete_iff {length : Nat} {s : Bytes} :
    readPayload length s = .error .incomplete ↔ s.length < length + 2 := by
  constructor
  · intro h
    refine Nat.lt_of_not_le fun hle => ?_
    obtain ⟨payload, a, b, rest, rfl, rfl⟩ := exists_of_length_le hle
    rw [readPayload_split] at h
    split at h <;> cases h
  · intro h
    rw [readPayload]
    split
    · rename_i a b rest hdrop
      have hlength := congrArg List.length hdrop
      simp only [List.length_drop, List.length_cons] at hlength
      omega
    · rfl

theorem readPayload_eq_ok_iff {length : Nat} {s rest : Bytes} {token : Token} :
    readPayload length s = .ok (token, rest) ↔
      ∃ payload : Bytes, payload.length = length ∧ token = .leaf (.bulk payload) ∧
        s = payload ++ Bytes.crlf ++ rest := by
  constructor
  · intro h
    have hlong : ¬ s.length < length + 2 := by
      intro hshort
      rw [readPayload_eq_incomplete_iff.2 hshort] at h
      cases h
    obtain ⟨payload, a, b, after, rfl, rfl⟩ := exists_of_length_le (Nat.not_lt.1 hlong)
    rw [readPayload_split] at h
    split at h
    · rename_i hend
      obtain ⟨rfl, rfl⟩ := hend
      cases h
      exact ⟨payload, rfl, rfl, by rw [List.append_assoc]; rfl⟩
    · cases h
  · rintro ⟨payload, rfl, rfl, rfl⟩
    simp [readPayload, Bytes.crlf]

theorem toInt_neg_one : (-1 : Int64).toInt = -1 := by decide

theorem count_of_toInt_eq {n : Int64} {count : Nat} (h : n.toInt = count) :
    n.toNatClampNeg = count ∧ ¬ n < 0 ∧ n ≠ -1 := by
  refine ⟨?_, ?_, ?_⟩
  · rw [← Int64.toNat_toInt, h]
    exact Int.toNat_natCast count
  · rw [Int64.lt_iff_toInt_lt, h]
    exact Int.not_lt.2 (Int.natCast_nonneg count)
  · rintro rfl
    rw [toInt_neg_one] at h
    omega

theorem toInt_eq_of_not_neg {n : Int64} (h : ¬ n < 0) : n.toInt = n.toNatClampNeg := by
  rw [Int64.lt_iff_toInt_lt, Int64.toInt_zero] at h
  rw [← Int64.toNat_toInt]
  omega

theorem readBulk_of_writes {line : Bytes} {n : Int64} {length : Nat}
    (hline : Decimal.Writes line n.toInt) (hlength : n.toInt = length) (limits : Limits)
    (s : Bytes) :
    readBulk limits line s =
      if limits.maxBulk.toNat < length then .error (.malformed (.bulkTooLong n limits.maxBulk))
      else readPayload length s := by
  obtain ⟨hcount, hneg, hnull⟩ := count_of_toInt_eq hlength
  simp only [readBulk, Decimal.readInt64?_eq_some_iff.2 hline, hcount, if_neg hneg, if_neg hnull]

theorem readArrayHead_of_writes {line : Bytes} {n : Int64} {count : Nat}
    (hline : Decimal.Writes line n.toInt) (hcount : n.toInt = count) (limits : Limits)
    (s : Bytes) :
    readArrayHead limits line s =
      if limits.maxArray.toNat < count then .error (.malformed (.arrayTooLong n limits.maxArray))
      else .ok (.array count, s) := by
  obtain ⟨hclamp, hneg, -⟩ := count_of_toInt_eq hcount
  simp only [readArrayHead, Decimal.readInt64?_eq_some_iff.2 hline, hclamp, if_neg hneg]

theorem exists_of_readBulk {limits : Limits} {line s rest : Bytes} {token : Token}
    (h : readBulk limits line s = .ok (token, rest)) :
    (Decimal.Writes line (-1) ∧ token = .leaf .null ∧ rest = s) ∨
      ∃ (n : Int64) (payload : Bytes), Decimal.Writes line n.toInt ∧ n.toInt = payload.length ∧
        payload.length ≤ limits.maxBulk.toNat ∧ token = .leaf (.bulk payload) ∧
        s = payload ++ Bytes.crlf ++ rest := by
  rw [readBulk] at h
  split at h
  · cases h
  · rename_i n hn
    have hline := Decimal.readInt64?_eq_some_iff.1 hn
    split at h
    · rename_i hnull
      cases h
      exact .inl ⟨by simpa [hnull] using hline, rfl, rfl⟩
    · split at h
      · cases h
      · rename_i hneg
        split at h
        · cases h
        · rename_i hlimit
          obtain ⟨payload, hlength, htoken, hs⟩ := readPayload_eq_ok_iff.1 h
          have hn := toInt_eq_of_not_neg hneg
          exact .inr ⟨n, payload, hline, by omega, by omega, htoken, hs⟩

theorem exists_of_readArrayHead {limits : Limits} {line s rest : Bytes} {token : Token}
    (h : readArrayHead limits line s = .ok (token, rest)) :
    ∃ (n : Int64) (count : Nat), Decimal.Writes line n.toInt ∧ n.toInt = count ∧
      count ≤ limits.maxArray.toNat ∧ token = .array count ∧ rest = s := by
  rw [readArrayHead] at h
  split at h
  · cases h
  · rename_i n hn
    split at h
    · cases h
    · rename_i hneg
      split at h
      · cases h
      · rename_i hlimit
        cases h
        exact ⟨n, n.toNatClampNeg, Decimal.readInt64?_eq_some_iff.1 hn, toInt_eq_of_not_neg hneg,
          by omega, rfl, rfl⟩

theorem exists_of_read_array {limits : Limits} {s rest : Bytes} {count : Nat}
    (h : Token.read limits s = .ok (.array count, rest)) :
    ∃ (line : Bytes) (n : Int64), s = headed .array line ++ rest ∧ Decimal.Writes line n.toInt ∧
      n.toInt = count ∧ count ≤ limits.maxArray.toNat := by
  obtain ⟨lead, line, after, rfl, -, hbody⟩ := exists_headed_of_read h
  cases lead with
  | simple | error => cases hbody
  | integer =>
    obtain ⟨n, -, htoken, -⟩ := readInteger_eq_ok_iff.1 hbody
    cases htoken
  | bulk =>
    rcases exists_of_readBulk hbody with ⟨-, htoken, -⟩ | ⟨n, payload, -, -, -, htoken, -⟩ <;>
      cases htoken
  | array =>
    obtain ⟨n, m, hline, hn, hlimit, htoken, rfl⟩ := exists_of_readArrayHead hbody
    cases htoken
    exact ⟨line, n, rfl, hline, hn, hlimit⟩

variable {limits : Limits}

theorem readBody_integer {line : Bytes} {n : Int64} (hline : Decimal.Writes line n.toInt)
    (s : Bytes) : readBody limits .integer line s = .ok (.leaf (.integer n), s) :=
  readInteger_eq_ok_iff.2 ⟨n, hline, rfl, rfl⟩

theorem readBody_null {line : Bytes} (hline : Decimal.Writes line (-1)) (s : Bytes) :
    readBody limits .bulk line s = .ok (.leaf .null, s) := by
  rw [← toInt_neg_one] at hline
  simp only [readBody, readBulk, Decimal.readInt64?_eq_some_iff.2 hline, if_pos]

theorem readBody_bulk {line payload : Bytes} {n : Int64} (hline : Decimal.Writes line n.toInt)
    (hlength : n.toInt = payload.length) (hlimit : payload.length ≤ limits.maxBulk.toNat)
    (rest : Bytes) :
    readBody limits .bulk line (payload ++ (Bytes.crlf ++ rest)) =
      .ok (.leaf (.bulk payload), rest) := by
  rw [readBody, readBulk_of_writes hline hlength, if_neg (Nat.not_lt.2 hlimit)]
  exact readPayload_eq_ok_iff.2 ⟨payload, rfl, rfl, (List.append_assoc _ _ _).symm⟩

theorem readBody_array {line : Bytes} {n : Int64} {count : Nat}
    (hline : Decimal.Writes line n.toInt) (hcount : n.toInt = count)
    (hlimit : count ≤ limits.maxArray.toNat) (s : Bytes) :
    readBody limits .array line s = .ok (.array count, s) := by
  rw [readBody, readArrayHead_of_writes hline hcount, if_neg (Nat.not_lt.2 hlimit)]

theorem length_lt_of_readBulk_incomplete {line s : Bytes}
    (h : readBulk limits line s = .error .incomplete) : s.length < limits.maxBulk.toNat + 2 := by
  rw [readBulk] at h
  split at h
  · cases h
  · split at h
    · cases h
    · split at h
      · cases h
      · split at h
        · cases h
        · rename_i hlimit
          have hlength := readPayload_eq_incomplete_iff.1 h
          omega

/-- After its line a token waits for no more than a payload. -/
theorem length_lt_of_readBody_incomplete {lead : Lead} {line s : Bytes}
    (h : readBody limits lead line s = .error .incomplete) :
    s.length < limits.maxBulk.toNat + 2 := by
  cases lead with
  | simple | error => cases h
  | integer =>
    rw [readBody, readInteger] at h
    split at h <;> cases h
  | bulk => exact length_lt_of_readBulk_incomplete h
  | array =>
    rw [readBody, readArrayHead] at h
    split at h
    · cases h
    · split at h
      · cases h
      · split at h <;> cases h

theorem length_le_of_readBody {lead : Lead} {line s rest : Bytes} {token : Token}
    (h : readBody limits lead line s = .ok (token, rest)) :
    s.length ≤ limits.maxBulk.toNat + 2 + rest.length := by
  cases lead with
  | simple | error =>
    cases h
    omega
  | integer =>
    obtain ⟨n, -, -, rfl⟩ := readInteger_eq_ok_iff.1 h
    omega
  | bulk =>
    rcases exists_of_readBulk h with ⟨-, -, rfl⟩ | ⟨n, payload, -, -, hlimit, -, rfl⟩
    · omega
    · simp only [List.length_append, Bytes.crlf, List.length_cons, List.length_nil]
      omega
  | array =>
    obtain ⟨n, count, -, -, -, -, rfl⟩ := exists_of_readArrayHead h
    omega

end RespStore.Token
