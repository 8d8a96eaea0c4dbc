import RespStore.Proofs.Frame.Items
import RespStore.Proofs.Frame.Nodes
import RespStore.Proofs.Frame.Token
import RespStore.Proofs.Text.Utf8

set_option autoImplicit false

namespace RespStore.Frame

open Text
open Decimal (Writes not_crlf_infix_of_writes)

theorem writes_ofInt64 (n : Int64) : Writes (Decimal.ofInt64 n) n.toInt :=
  Decimal.writes_of_readInt64? (Decimal.readInt64?_ofInt64 n)

theorem toInt_ofNat_of_le {n : Nat} (h : n ≤ Decimal.maxInt64) : (Int64.ofNat n).toInt = n := by
  simp only [Decimal.maxInt64, Int64.size] at h
  exact Int64.toInt_ofNat_of_lt (by omega)

theorem writes_ofNat {n : Nat} (h : n ≤ Decimal.maxInt64) :
    Writes (Decimal.ofNat n) (Int64.ofNat n).toInt := by
  have hwrites := writes_ofInt64 (Int64.ofNat n)
  have hline : Decimal.ofInt64 (Int64.ofNat n) = Decimal.ofNat n := by
    rw [Decimal.ofInt64, toInt_ofNat_of_le h]
    rfl
  rwa [hline] at hwrites

theorem not_crlf_infix_of_unbroken {text : String}
    (h : '\r' ∉ text.toList ∧ '\n' ∉ text.toList) : ¬ Bytes.crlf <:+: Utf8.encode text := by
  intro hcrlf
  have hcr : Bytes.cr ∈ Utf8.encode text := hcrlf.subset (by simp [Bytes.crlf])
  exact h.1 ((Utf8.mem_encode_iff text '\r' (by decide)).1 hcr)

def unlessMalformed {α : Type} (found : Option Malformed) (value : α) : Except ReadError α :=
  match found with
  | none => .ok value
  | some cause => .error (.malformed cause)

variable {limits : Limits}

theorem readItems_bytesOfAll (limits : Limits) {items : List Frame} (depth : Nat) (rest : Bytes)
    (hitems : ∀ item ∈ items, ∀ rest, read limits depth (item.bytes ++ rest) =
      unlessMalformed ((item.nodes depth).findSome? limits.fault?) (item, rest)) :
    readItems limits depth items.length (bytesOfAll items ++ rest) =
      unlessMalformed ((nodesOfAll depth items).findSome? limits.fault?) (items, rest) := by
  induction items with
  | nil => rfl
  | cons item items ih =>
    have hitem := hitems item (by simp) (bytesOfAll items ++ rest)
    have hrest := ih fun other hother => hitems other (by simp [hother])
    rw [bytesOfAll, List.append_assoc, List.length_cons, readItems, hitem, nodesOfAll,
      List.findSome?_append]
    cases (item.nodes depth).findSome? limits.fault? with
    | some cause => rfl
    | none =>
      simp only [unlessMalformed, hrest, Option.none_or]
      cases (nodesOfAll depth items).findSome? limits.fault? <;> rfl

theorem read_leaf {frame : Frame} {depth : Nat} {s rest : Bytes}
    (hnodes : frame.nodes depth = [⟨depth, frame⟩])
    (htoken : Token.read limits s = unlessMalformed (limits.excess? frame) (.leaf frame, rest)) :
    read limits depth s =
      unlessMalformed ((frame.nodes depth).findSome? limits.fault?) (frame, rest) := by
  rw [hnodes, List.findSome?_singleton, Limits.fault?, read_eq, htoken]
  by_cases hdeep : limits.maxDepth.toNat < depth
  · rw [if_pos hdeep, if_pos hdeep]
    rfl
  · rw [if_neg hdeep, if_neg hdeep]
    cases limits.excess? frame <;> rfl

theorem read_array {items : List Frame} {depth : Nat} {s middle rest : Bytes}
    (htoken : Token.read limits s =
      unlessMalformed (limits.excess? (.array items)) (.array items.length, middle))
    (hitems : readItems limits (depth + 1) items.length middle =
      unlessMalformed ((nodesOfAll (depth + 1) items).findSome? limits.fault?) (items, rest)) :
    read limits depth s =
      unlessMalformed (((Frame.array items).nodes depth).findSome? limits.fault?)
        (.array items, rest) := by
  rw [nodes, List.findSome?_cons, Limits.fault?, read_eq, htoken]
  by_cases hdeep : limits.maxDepth.toNat < depth
  · rw [if_pos hdeep, if_pos hdeep]
    rfl
  · rw [if_neg hdeep, if_neg hdeep]
    cases limits.excess? (.array items) with
    | some cause => rfl
    | none =>
      simp only [unlessMalformed, hitems]
      cases (nodesOfAll (depth + 1) items).findSome? limits.fault? <;> rfl

theorem readToken_bulk {payload : Bytes} (hcount : payload.length ≤ Decimal.maxInt64)
    (rest : Bytes) :
    Token.read limits ((Frame.bulk payload).bytes ++ rest) =
      unlessMalformed (limits.excess? (.bulk payload)) (.leaf (.bulk payload), rest) := by
  have hline := writes_ofNat hcount
  rw [bytes, List.append_assoc, List.append_assoc,
    Token.read_headed _ _ (not_crlf_infix_of_writes hline), Token.readBody,
    Token.readBulk_of_writes hline (toInt_ofNat_of_le hcount), Limits.excess?]
  split
  · rfl
  · exact Token.readPayload_eq_ok_iff.2 ⟨payload, rfl, rfl, (List.append_assoc _ _ _).symm⟩

theorem readToken_array {items : List Frame} (hcount : items.length ≤ Decimal.maxInt64)
    (rest : Bytes) :
    Token.read limits ((Frame.array items).bytes ++ rest) =
      unlessMalformed (limits.excess? (.array items))
        (.array items.length, bytesOfAll items ++ rest) := by
  have hline := writes_ofNat hcount
  rw [bytes, List.append_assoc, Token.read_headed _ _ (not_crlf_infix_of_writes hline),
    Token.readBody, Token.readArrayHead_of_writes hline (toInt_ofNat_of_le hcount),
    Limits.excess?]
  split <;> rfl

/-- The bytes of a frame are read as this frame, or fail for its first node with a fault. -/
theorem read_bytes (limits : Limits) {frame : Frame} (hunbroken : frame.Unbroken)
    (hcountable : frame.Countable) (depth : Nat) (rest : Bytes) :
    read limits depth (frame.bytes ++ rest) =
      unlessMalformed ((frame.nodes depth).findSome? limits.fault?) (frame, rest) := by
  induction frame generalizing depth rest with
  | simple text | error text =>
    have hline := not_crlf_infix_of_unbroken ((everywhere_leaf rfl).1 hunbroken text rfl)
    apply read_leaf rfl
    rw [bytes, Token.read_headed _ _ hline, Token.readBody, Utf8.decode_encode]
    rfl
  | integer value =>
    have hline := writes_ofInt64 value
    apply read_leaf rfl
    rw [bytes, Token.read_headed _ _ (not_crlf_infix_of_writes hline)]
    exact Token.readBody_integer hline rest
  | bulk payload =>
    have hcount := (everywhere_leaf rfl).1 hcountable
    exact read_leaf rfl (readToken_bulk hcount rest)
  | array items ih =>
    obtain ⟨-, hunbroken⟩ := everywhere_array.1 hunbroken
    obtain ⟨hcount, hcountable⟩ := everywhere_array.1 hcountable
    apply read_array (readToken_array hcount rest)
    apply readItems_bytesOfAll
    intro item hitem
    exact ih item hitem (hunbroken item hitem) (hcountable item hitem) (depth + 1)
  | null =>
    have hline : Writes (Decimal.ofInt (-1)) (-1) := writes_ofInt64 (-1)
    apply read_leaf rfl
    rw [bytes, Token.read_headed _ _ (not_crlf_infix_of_writes hline)]
    exact Token.readBody_null hline rest

theorem hasLineBreak_eq_false_iff (text : String) :
    hasLineBreak text = false ↔ '\r' ∉ text.toList ∧ '\n' ∉ text.toList := by
  rw [hasLineBreak, List.any_eq_false]
  constructor
  · intro h
    exact ⟨fun hcr => h '\r' hcr (by decide), fun hlf => h '\n' hlf (by decide)⟩
  · intro h c hc
    have hcr : c ≠ '\r' := fun heq => h.1 (heq ▸ hc)
    have hlf : c ≠ '\n' := fun heq => h.2 (heq ▸ hc)
    simp [hcr, hlf]

theorem brokenKindAmong?_eq_none_iff (items : List Frame) :
    brokenKindAmong? items = none ↔ ∀ item ∈ items, item.brokenKind? = none := by
  induction items with
  | nil => simp [brokenKindAmong?]
  | cons item rest ih =>
    rw [brokenKindAmong?, List.forall_mem_cons, ← ih]
    cases item.brokenKind? <;> simp

theorem brokenKind?_eq_none_iff (frame : Frame) : frame.brokenKind? = none ↔ frame.Unbroken := by
  induction frame with
  | simple text | error text =>
    rw [unbroken_leaf rfl, brokenKind?]
    simp [text?, ← hasLineBreak_eq_false_iff]
  | integer | bulk | null => exact iff_of_true rfl (unbroken_of_text?_eq_none rfl rfl)
  | array items ih =>
    rw [unbroken_array, brokenKind?, brokenKindAmong?_eq_none_iff]
    exact forall₂_congr ih

theorem encode_of_unbroken {frame : Frame} (h : frame.Unbroken) :
    frame.encode = .ok frame.bytes := by
  rw [encode, (brokenKind?_eq_none_iff frame).2 h]

theorem exists_encode_of_broken {frame : Frame} (h : ¬ frame.Unbroken) :
    ∃ fault, frame.encode = .error fault := by
  rw [← brokenKind?_eq_none_iff] at h
  obtain ⟨kind, hkind⟩ := Option.ne_none_iff_exists'.1 h
  exact ⟨⟨kind⟩, by rw [encode, hkind]⟩

/-- A frame that can be written is written as bytes that read back, at the place where they stand,
as this frame if it keeps the limits, and otherwise fail for its first node that does not. -/
theorem readAt_encode (limits : Limits) (frame : Frame) (before after : Bytes)
    (hunbroken : frame.Unbroken) (hcountable : frame.Countable) :
    ∃ written, frame.encode = .ok written ∧
      (frame.Within limits →
        readAt limits 0 (before ++ written ++ after) before.length =
          .ok (frame, before.length + written.length)) ∧
      (¬ frame.Within limits →
        ∃ cause, (frame.nodes 0).findSome? limits.fault? = some cause ∧
          readAt limits 0 (before ++ written ++ after) before.length =
            .error (.malformed cause)) := by
  have hencode : frame.encode = .ok frame.bytes := by
    rw [encode, (brokenKind?_eq_none_iff frame).2 hunbroken]
  have hread := read_bytes limits hunbroken hcountable 0 after
  -- Both readings start at the frame: what stands before it is dropped.
  have hdrop : (before ++ frame.bytes ++ after).drop before.length = frame.bytes ++ after := by
    rw [List.append_assoc, List.drop_left]
  refine ⟨frame.bytes, hencode, ?_, ?_⟩
  · intro hwithin
    rw [(within_iff limits frame).1 hwithin] at hread
    rw [readAt, hdrop, hread]
    simp only [unlessMalformed, List.length_append, Except.ok.injEq, Prod.mk.injEq, true_and]
    omega
  · intro hwithin
    rw [within_iff] at hwithin
    obtain ⟨cause, hcause⟩ := Option.ne_none_iff_exists'.1 hwithin
    rw [hcause] at hread
    refine ⟨cause, hcause, ?_⟩
    rw [readAt, hdrop, hread]
    rfl

-- The simple frame, which is too deep, stands before the payload that is too long.
theorem readAt_encode_of_deep :
    ∃ written,
      (Frame.array [.bulk Bytes.crlf, .array [.simple "OK"], .bulk [1, 2, 3]]).encode =
        .ok written ∧
      readAt ⟨2, 3, 1⟩ 0 ([0] ++ written ++ [1, 2]) 1 = .error (.malformed (.tooDeep 1)) := by
  have hunbroken :
      (Frame.array [.bulk Bytes.crlf, .array [.simple "OK"], .bulk [1, 2, 3]]).Unbroken := by
    simp [Unbroken, Everywhere, nodes, nodesOfAll, text?]
  have hcountable :
      (Frame.array [.bulk Bytes.crlf, .array [.simple "OK"], .bulk [1, 2, 3]]).Countable := by
    unfold Countable Everywhere
    decide
  obtain ⟨written, hencode, -, hfault⟩ :=
    readAt_encode ⟨2, 3, 1⟩ _ [0] [1, 2] hunbroken hcountable
  have hwithin : ¬ Within ⟨2, 3, 1⟩
      (.array [.bulk Bytes.crlf, .array [.simple "OK"], .bulk [1, 2, 3]]) := by
    rw [within_iff]
    exact Option.some_ne_none (Malformed.tooDeep 1)
  obtain ⟨cause, hcause, hread⟩ := hfault hwithin
  cases hcause
  exact ⟨written, hencode, hread⟩

end RespStore.Frame
