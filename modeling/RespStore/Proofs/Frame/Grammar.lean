import RespStore.Proofs.Frame.Items
import RespStore.Proofs.Frame.Nodes
import RespStore.Proofs.Frame.Token
import RespStore.Proofs.Text.Lossy

/-!
# The grammar of frames

`Derives` gives the bytes that write a frame at a depth, in all the forms that are accepted.
Reading finds exactly the frame that the bytes at the front derive.
-/

set_option autoImplicit false

namespace RespStore.Frame

open Decimal (Writes not_crlf_infix_of_writes readInt64?_eq_some_iff)
open Text

/-- Bytes that write a frame at a depth: a line under its lead byte, and what the line announces. -/
inductive Derives (limits : Limits) : Nat → Bytes → Frame → Prop where
  | simple {depth : Nat} {line : Bytes} {text : String} (hdepth : depth ≤ limits.maxDepth.toNat)
      (hline : ¬ Bytes.crlf <:+: line) (htext : Utf8.Lossy line text.toList) :
      Derives limits depth (headed .simple line) (.simple text)
  | error {depth : Nat} {line : Bytes} {text : String} (hdepth : depth ≤ limits.maxDepth.toNat)
      (hline : ¬ Bytes.crlf <:+: line) (htext : Utf8.Lossy line text.toList) :
      Derives limits depth (headed .error line) (.error text)
  | integer {depth : Nat} {line : Bytes} {n : Int64} (hdepth : depth ≤ limits.maxDepth.toNat)
      (hline : Writes line n.toInt) :
      Derives limits depth (headed .integer line) (.integer n)
  | null {depth : Nat} {line : Bytes} (hdepth : depth ≤ limits.maxDepth.toNat)
      (hline : Writes line (-1)) :
      Derives limits depth (headed .bulk line) .null
  | bulk {depth : Nat} {line payload : Bytes} {n : Int64} (hdepth : depth ≤ limits.maxDepth.toNat)
      (hline : Writes line n.toInt) (hlength : n.toInt = payload.length)
      (hlimit : payload.length ≤ limits.maxBulk.toNat) :
      Derives limits depth (headed .bulk line ++ payload ++ Bytes.crlf) (.bulk payload)
  | array {depth : Nat} {line : Bytes} {items : List (Bytes × Frame)} {n : Int64}
      (hdepth : depth ≤ limits.maxDepth.toNat) (hline : Writes line n.toInt)
      (hcount : n.toInt = items.length) (hlimit : items.length ≤ limits.maxArray.toNat)
      (hitems : ∀ item ∈ items, Derives limits (depth + 1) item.1 item.2) :
      Derives limits depth (headed .array line ++ items.flatMap Prod.fst)
        (.array (items.map Prod.snd))

variable {limits : Limits} {depth : Nat}

theorem Derives.depth_le {s : Bytes} {frame : Frame} (h : Derives limits depth s frame) :
    depth ≤ limits.maxDepth.toNat := by
  cases h <;> assumption

theorem readItems_of_forall {items : List (Bytes × Frame)} (rest : Bytes)
    (hitems : ∀ item ∈ items, ∀ rest, read limits depth (item.1 ++ rest) = .ok (item.2, rest)) :
    readItems limits depth items.length (items.flatMap Prod.fst ++ rest) =
      .ok (items.map Prod.snd, rest) := by
  induction items with
  | nil => rfl
  | cons item items ih =>
    have hitem := hitems item (by simp)
    have hrest := ih fun other hother => hitems other (by simp [hother])
    simp only [List.length_cons, List.flatMap_cons, List.append_assoc, readItems, hitem, hrest,
      List.map_cons]

theorem read_headed {lead : Lead} {line : Bytes} (hdepth : depth ≤ limits.maxDepth.toNat)
    (hline : ¬ Bytes.crlf <:+: line) (rest : Bytes) :
    read limits depth (headed lead line ++ rest) =
      match Token.readBody limits lead line rest with
      | .error fault => .error fault
      | .ok (.leaf frame, rest) => .ok (frame, rest)
      | .ok (.array count, rest) =>
        match readItems limits (depth + 1) count rest with
        | .error fault => .error fault
        | .ok (items, rest) => .ok (.array items, rest) := by
  rewrite [read_eq, if_neg (Nat.not_lt.2 hdepth), Token.read_headed _ _ hline]
  rfl

theorem read_of_derives {s : Bytes} {frame : Frame} (h : Derives limits depth s frame)
    (rest : Bytes) : read limits depth (s ++ rest) = .ok (frame, rest) := by
  induction h generalizing rest with
  | simple hdepth hline htext | error hdepth hline htext =>
    rw [read_headed hdepth hline, Utf8.lossy_iff.1 htext]
    rfl
  | integer hdepth hline =>
    rw [read_headed hdepth (not_crlf_infix_of_writes hline), Token.readBody_integer hline]
  | null hdepth hline =>
    rw [read_headed hdepth (not_crlf_infix_of_writes hline), Token.readBody_null hline]
  | bulk hdepth hline hlength hlimit =>
    rw [List.append_assoc, List.append_assoc,
      read_headed hdepth (not_crlf_infix_of_writes hline),
      Token.readBody_bulk hline hlength hlimit]
  | array hdepth hline hcount hlimit hitems ih =>
    rw [List.append_assoc, read_headed hdepth (not_crlf_infix_of_writes hline),
      Token.readBody_array hline hcount hlimit]
    simp only [readItems_of_forall rest ih]

theorem exists_of_read {s rest : Bytes} {frame : Frame}
    (h : read limits depth s = .ok (frame, rest)) :
    depth ≤ limits.maxDepth.toNat ∧
      (Token.read limits s = .ok (.leaf frame, rest) ∨
        ∃ count middle items, Token.read limits s = .ok (.array count, middle) ∧
          readItems limits (depth + 1) count middle = .ok (items, rest) ∧
          frame = .array items) := by
  rw [read_eq] at h
  split at h
  · cases h
  · rename_i hdepth
    refine ⟨Nat.not_lt.1 hdepth, ?_⟩
    split at h
    · cases h
    · rename_i htoken
      cases h
      exact .inl htoken
    · rename_i count middle htoken
      split at h
      · cases h
      · rename_i items after hitems
        cases h
        exact .inr ⟨count, middle, items, htoken, hitems, rfl⟩

theorem derives_of_read_leaf {s rest : Bytes} {frame : Frame}
    (hdepth : depth ≤ limits.maxDepth.toNat)
    (h : Token.read limits s = .ok (.leaf frame, rest)) :
    ∃ front, s = front ++ rest ∧ Derives limits depth front frame := by
  obtain ⟨lead, line, after, rfl, hline, hbody⟩ := Token.exists_headed_of_read h
  cases lead with
  | simple =>
    cases hbody
    exact ⟨_, rfl, .simple hdepth hline (Utf8.lossy_iff.2 rfl)⟩
  | error =>
    cases hbody
    exact ⟨_, rfl, .error hdepth hline (Utf8.lossy_iff.2 rfl)⟩
  | integer =>
    obtain ⟨n, hnumber, htoken, rfl⟩ := Token.readInteger_eq_ok_iff.1 hbody
    cases htoken
    exact ⟨_, rfl, .integer hdepth hnumber⟩
  | bulk =>
    rcases Token.exists_of_readBulk hbody with
      ⟨hnumber, htoken, rfl⟩ | ⟨n, payload, hnumber, hlength, hlimit, htoken, rfl⟩
    · cases htoken
      exact ⟨_, rfl, .null hdepth hnumber⟩
    · cases htoken
      exact ⟨_, by simp only [List.append_assoc], .bulk hdepth hnumber hlength hlimit⟩
  | array =>
    obtain ⟨n, count, -, -, -, htoken, -⟩ := Token.exists_of_readArrayHead hbody
    cases htoken

theorem exists_of_readItems {count : Nat} {s rest : Bytes} {items : List Frame}
    (hitems : ∀ item ∈ items, ∀ s rest, read limits depth s = .ok (item, rest) →
      ∃ front, s = front ++ rest ∧ Derives limits depth front item)
    (h : readItems limits depth count s = .ok (items, rest)) :
    ∃ pieces : List (Bytes × Frame), pieces.map Prod.snd = items ∧ pieces.length = count ∧
      s = pieces.flatMap Prod.fst ++ rest ∧
      ∀ piece ∈ pieces, Derives limits depth piece.1 piece.2 := by
  induction count generalizing s items with
  | zero =>
    cases h
    exact ⟨[], rfl, rfl, rfl, by simp⟩
  | succ count ih =>
    rw [readItems] at h
    split at h
    · cases h
    · rename_i frame middle hframe
      split at h
      · cases h
      · rename_i frames after hframes
        cases h
        obtain ⟨front, rfl, hfront⟩ := hitems frame (by simp) s middle hframe
        obtain ⟨pieces, hmap, hlength, rfl, hpieces⟩ :=
          ih (fun item hitem => hitems item (by simp [hitem])) hframes
        refine ⟨(front, frame) :: pieces, by simp [hmap], by simp [hlength], by simp, ?_⟩
        intro piece hpiece
        rcases List.mem_cons.1 hpiece with rfl | hpiece
        · exact hfront
        · exact hpieces piece hpiece

theorem derives_of_read {s rest : Bytes} {frame : Frame}
    (h : read limits depth s = .ok (frame, rest)) :
    ∃ front, s = front ++ rest ∧ Derives limits depth front frame := by
  induction frame generalizing depth s rest with
  | array items ih =>
    obtain ⟨hdepth, hleaf | ⟨count, middle, items', htoken, hitems, hframe⟩⟩ := exists_of_read h
    · exact derives_of_read_leaf hdepth hleaf
    · cases hframe
      obtain ⟨pieces, rfl, rfl, rfl, hpieces⟩ :=
        exists_of_readItems (fun item hitem s rest => ih item hitem) hitems
      obtain ⟨line, n, rfl, hline, hcount, hlimit⟩ := Token.exists_of_read_array htoken
      exact ⟨_, (List.append_assoc _ _ _).symm, .array hdepth hline hcount hlimit hpieces⟩
  | simple | error | integer | bulk | null =>
    obtain ⟨hdepth, hleaf | ⟨count, middle, items, -, -, hframe⟩⟩ := exists_of_read h
    · exact derives_of_read_leaf hdepth hleaf
    · cases hframe

theorem read_eq_ok_iff {s rest : Bytes} {frame : Frame} :
    read limits depth s = .ok (frame, rest) ↔
      ∃ front, s = front ++ rest ∧ Derives limits depth front frame := by
  constructor
  · exact derives_of_read
  · rintro ⟨front, rfl, hfront⟩
    exact read_of_derives hfront rest

theorem Derives.unique {front₁ front₂ rest₁ rest₂ : Bytes} {frame₁ frame₂ : Frame}
    (h₁ : Derives limits depth front₁ frame₁) (h₂ : Derives limits depth front₂ frame₂)
    (hs : front₁ ++ rest₁ = front₂ ++ rest₂) : front₁ = front₂ ∧ frame₁ = frame₂ := by
  have hread₁ := read_of_derives h₁ rest₁
  have hread₂ := read_of_derives h₂ rest₂
  rw [hs, hread₂] at hread₁
  cases hread₁
  exact ⟨List.append_cancel_right hs, rfl⟩

theorem readAt_eq_ok_iff {data : Bytes} {start stop : Nat} {frame : Frame} :
    readAt limits depth data start = .ok (frame, stop) ↔
      start < stop ∧ stop ≤ data.length ∧
        read limits depth (data.drop start) = .ok (frame, data.drop stop) := by
  rw [readAt]
  cases h : read limits depth (data.drop start) with
  | error fault => simp
  | ok result =>
    obtain ⟨found, rest⟩ := result
    have hlength := length_of_read h
    obtain ⟨front, hfront, -⟩ := derives_of_read h
    rw [List.length_drop] at hlength
    have hsuffix : rest <:+ data := List.IsSuffix.trans ⟨front, hfront.symm⟩ (List.drop_suffix _ _)
    have hrest : rest = data.drop (data.length - rest.length) := List.suffix_iff_eq_drop.1 hsuffix
    simp only [Except.ok.injEq, Prod.mk.injEq]
    constructor
    · rintro ⟨rfl, rfl⟩
      exact ⟨by omega, by omega, rfl, hrest⟩
    · rintro ⟨hstart, hstop, rfl, rfl⟩
      refine ⟨rfl, ?_⟩
      rw [List.length_drop]
      omega

theorem readAt_eq_error_iff {data : Bytes} {start : Nat} {fault : ReadError} :
    readAt limits depth data start = .error fault ↔
      read limits depth (data.drop start) = .error fault := by
  rw [readAt]
  cases read limits depth (data.drop start) with
  | error found => simp only [Except.error.injEq]
  | ok result =>
    constructor
    · intro h
      cases h
    · intro h
      cases h

theorem extract_append_drop {data : Bytes} {start stop : Nat} (h : start ≤ stop) :
    data.extract start stop ++ data.drop stop = data.drop start := by
  have hsplit := List.take_append_drop (stop - start) (data.drop start)
  rw [List.drop_drop, Nat.add_sub_cancel' h] at hsplit
  exact hsplit

/-- Reading from a position finds the frame that the bytes from there to another position derive,
and there is at most one such position and frame. -/
theorem readAt_eq_ok_iff_derives (limits : Limits) (depth : Nat) (data : Bytes) (start : Nat) :
    (∀ frame stop, readAt limits depth data start = .ok (frame, stop) ↔
      start < stop ∧ stop ≤ data.length ∧ Derives limits depth (data.extract start stop) frame) ∧
    (∀ frame₁ stop₁ frame₂ stop₂,
      start < stop₁ ∧ stop₁ ≤ data.length ∧
        Derives limits depth (data.extract start stop₁) frame₁ →
      start < stop₂ ∧ stop₂ ≤ data.length ∧
        Derives limits depth (data.extract start stop₂) frame₂ →
      frame₁ = frame₂ ∧ stop₁ = stop₂) ∧
    (limits.maxDepth.toNat < depth → ∀ s frame, ¬ Derives limits depth s frame) := by
  have hspan (frame : Frame) (stop : Nat) (hstart : start ≤ stop) :
      read limits depth (data.drop start) = .ok (frame, data.drop stop) ↔
        Derives limits depth (data.extract start stop) frame := by
    rw [← extract_append_drop hstart, read_eq_ok_iff]
    constructor
    · rintro ⟨front, hfront, hderives⟩
      rw [List.append_cancel_right hfront]
      exact hderives
    · intro h
      exact ⟨_, rfl, h⟩
  refine ⟨?_, ?_, ?_⟩
  · intro frame stop
    rw [readAt_eq_ok_iff]
    constructor
    · rintro ⟨hstart, hstop, hread⟩
      exact ⟨hstart, hstop, (hspan frame stop (Nat.le_of_lt hstart)).1 hread⟩
    · rintro ⟨hstart, hstop, hderives⟩
      exact ⟨hstart, hstop, (hspan frame stop (Nat.le_of_lt hstart)).2 hderives⟩
  · rintro frame₁ stop₁ frame₂ stop₂ ⟨hstart₁, hstop₁, h₁⟩ ⟨hstart₂, hstop₂, h₂⟩
    have hdata : data.extract start stop₁ ++ data.drop stop₁ =
        data.extract start stop₂ ++ data.drop stop₂ := by
      rw [extract_append_drop (Nat.le_of_lt hstart₁), extract_append_drop (Nat.le_of_lt hstart₂)]
    obtain ⟨hfront, hframe⟩ := h₁.unique h₂ hdata
    have hlength := congrArg List.length hfront
    simp only [List.extract_eq_take_drop, List.length_take, List.length_drop] at hlength
    exact ⟨hframe, by omega⟩
  · intro hdeep s frame h
    have hdepth := h.depth_le
    omega

-- The length of the bulk frame has a sign, and its payload is a line end. In the line, 255 is in no
-- character, and 226 130 is the start of one that breaks off.
theorem readAt_bulk_crlf_in_array :
    readAt ⟨2, 2, 1⟩ 0 [0, 42, 50, 13, 10, 36, 43, 50, 13, 10, 13, 10, 13, 10, 43, 97, 195, 169,
        255, 226, 130, 13, 10, 36] 1 =
      .ok (.array [.bulk Bytes.crlf, .simple "a\u00e9\uFFFD\uFFFD"], 23) := by
  have hcount : Writes [50] (2 : Int64).toInt := readInt64?_eq_some_iff.1 (by decide)
  have hlength : Writes [43, 50] (2 : Int64).toInt := readInt64?_eq_some_iff.1 (by decide)
  have hbulk : Derives ⟨2, 2, 1⟩ 1 (headed .bulk [43, 50] ++ Bytes.crlf ++ Bytes.crlf)
      (.bulk Bytes.crlf) := .bulk (by decide) hlength rfl (by decide)
  have htext : Utf8.Lossy [97, 195, 169, 255, 226, 130] "a\u00e9\uFFFD\uFFFD".toList :=
    Utf8.lossy_iff.2 (by decide +kernel)
  have hsimple : Derives ⟨2, 2, 1⟩ 1 (headed .simple [97, 195, 169, 255, 226, 130])
      (.simple "a\u00e9\uFFFD\uFFFD") := .simple (by decide) (by decide) htext
  have harray := @Derives.array ⟨2, 2, 1⟩ 0 [50] [(_, _), (_, _)] 2 (by decide) hcount rfl
    (by decide) (List.forall_mem_cons.2 ⟨hbulk, List.forall_mem_singleton.2 hsimple⟩)
  exact ((readAt_eq_ok_iff_derives ⟨2, 2, 1⟩ 0 _ 1).1 _ 23).2 ⟨by decide, by decide, harray⟩

end RespStore.Frame
