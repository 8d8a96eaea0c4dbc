import RespStore.Proofs.Frame.Grammar
import RespStore.Proofs.Text.Utf8

set_option autoImplicit false

namespace RespStore

open Decimal (not_crlf_infix_of_writes)
open Text

def Bytes.Unbroken (line : Bytes) : Prop := Bytes.cr ∉ line ∧ Bytes.lf ∉ line

instance (line : Bytes) : Decidable line.Unbroken :=
  inferInstanceAs (Decidable (Bytes.cr ∉ line ∧ Bytes.lf ∉ line))

theorem unbroken_of_writes {line : Bytes} {v : Int} (h : Decimal.Writes line v) :
    Bytes.Unbroken line :=
  ⟨h.ne_cr, h.ne_lf⟩

theorem unbroken_decode_iff (line : Bytes) :
    '\r' ∉ (Utf8.decode line).toList ∧ '\n' ∉ (Utf8.decode line).toList ↔ line.Unbroken := by
  rw [Utf8.mem_decode_iff line '\r' (by decide) (by decide),
    Utf8.mem_decode_iff line '\n' (by decide) (by decide)]
  rfl

namespace Frame

/-- The lines of the tokens that `s` begins with. The last one may have no end yet. -/
def lines (limits : Limits) (s : Bytes) : List Bytes :=
  match s with
  | [] => []
  | b :: rest =>
    match Lead.ofByte? b with
    | none => []
    | some lead =>
      match _hsplit : Bytes.splitLine rest with
      | none => [rest]
      | some (line, after) =>
        match _hbody : Token.readBody limits lead line after with
        | .error _ => [line]
        | .ok (_, rest) => line :: lines limits rest
termination_by s.length
decreasing_by
  have hsplit := Bytes.length_of_splitLine _hsplit
  have hbody := Token.length_of_readBody _hbody
  simp only [List.length_cons]
  omega

variable {limits : Limits} {depth : Nat}

theorem lines_nil (limits : Limits) : lines limits [] = [] := by
  rw [lines]

theorem lines_cons {b : UInt8} {lead : Lead} (hlead : Lead.ofByte? b = some lead) (rest : Bytes) :
    lines limits (b :: rest) =
      match Bytes.splitLine rest with
      | none => [rest]
      | some (line, after) =>
        match Token.readBody limits lead line after with
        | .error _ => [line]
        | .ok (_, rest) => line :: lines limits rest := by
  rw [lines]
  simp only [hlead]
  split <;> rename_i hsplit <;> rewrite [hsplit]
  · rfl
  · split <;> rename_i hbody <;> simp only [hbody]

theorem lines_of_readBody {lead : Lead} {line rest after : Bytes} {token : Token}
    (hline : ¬ Bytes.crlf <:+: line)
    (hbody : Token.readBody limits lead line rest = .ok (token, after)) :
    lines limits (headed lead line ++ rest) = line :: lines limits after := by
  have hsplit : Bytes.splitLine (line ++ Bytes.crlf ++ rest) = some (line, rest) :=
    Bytes.splitLine_eq_some_iff.2 ⟨rfl, hline⟩
  rw [headed, List.cons_append, List.cons_append, lines_cons (Lead.ofByte?_byte lead), hsplit]
  simp only [hbody]

theorem length_le_of_mem_lines {s line : Bytes} (h : line ∈ lines limits s) :
    line.length ≤ s.length := by
  fun_induction lines limits s with
  | case1 | case2 => cases h
  | case3 b rest lead hlead hsplit =>
    rw [List.mem_singleton.1 h]
    exact Nat.le_succ _
  | case4 b rest lead hlead first after hsplit fault hbody =>
    have hlength := Bytes.length_of_splitLine hsplit
    rw [List.mem_singleton.1 h, List.length_cons]
    omega
  | case5 b rest lead hlead first after hsplit token later hbody ih =>
    have hlength := Bytes.length_of_splitLine hsplit
    have hafter := Token.length_of_readBody hbody
    rw [List.length_cons]
    rcases List.mem_cons.1 h with rfl | hmem
    · omega
    · have := ih hmem
      omega

theorem exists_lines_of_forall {items : List (Bytes × Frame)}
    (hitems : ∀ item ∈ items, ∃ own,
      (∀ rest, lines limits (item.1 ++ rest) = own ++ lines limits rest) ∧
        (item.2.Unbroken ↔ ∀ line ∈ own, line.Unbroken)) :
    ∃ own, (∀ rest, lines limits (items.flatMap Prod.fst ++ rest) = own ++ lines limits rest) ∧
      ((∀ item ∈ items, item.2.Unbroken) ↔ ∀ line ∈ own, line.Unbroken) := by
  induction items with
  | nil => exact ⟨[], fun rest => rfl, by simp⟩
  | cons item items ih =>
    obtain ⟨first, hfirst, hitem⟩ := hitems item List.mem_cons_self
    obtain ⟨later, hlater, hrest⟩ :=
      ih fun other hother => hitems other (List.mem_cons_of_mem _ hother)
    refine ⟨first ++ later, fun rest => ?_, ?_⟩
    · rw [List.flatMap_cons, List.append_assoc, hfirst, hlater, List.append_assoc]
    · rw [List.forall_mem_cons, hitem, hrest, List.forall_mem_append]

theorem exists_lines_of_derives {s : Bytes} {frame : Frame} (h : Derives limits depth s frame) :
    ∃ own, (∀ rest, lines limits (s ++ rest) = own ++ lines limits rest) ∧
      (frame.Unbroken ↔ ∀ line ∈ own, line.Unbroken) := by
  induction h with
  | @simple depth line text hdepth hline htext | @error depth line text hdepth hline htext =>
    refine ⟨[line], fun rest => lines_of_readBody hline rfl, ?_⟩
    rw [List.forall_mem_singleton, ← unbroken_decode_iff, ← Utf8.lossy_iff.1 htext,
      unbroken_leaf rfl]
    simp [text?]
  | @integer depth line n hdepth hline =>
    refine ⟨[line], fun rest => ?_, iff_of_true ?_ ?_⟩
    · exact lines_of_readBody (not_crlf_infix_of_writes hline) (Token.readBody_integer hline rest)
    · exact unbroken_of_text?_eq_none rfl rfl
    · exact List.forall_mem_singleton.2 (unbroken_of_writes hline)
  | @null depth line hdepth hline =>
    refine ⟨[line], fun rest => ?_, iff_of_true ?_ ?_⟩
    · exact lines_of_readBody (not_crlf_infix_of_writes hline) (Token.readBody_null hline rest)
    · exact unbroken_of_text?_eq_none rfl rfl
    · exact List.forall_mem_singleton.2 (unbroken_of_writes hline)
  | @bulk depth line payload n hdepth hline hlength hlimit =>
    refine ⟨[line], fun rest => ?_, iff_of_true ?_ ?_⟩
    · rw [List.append_assoc, List.append_assoc]
      exact lines_of_readBody (not_crlf_infix_of_writes hline)
        (Token.readBody_bulk hline hlength hlimit rest)
    · exact unbroken_of_text?_eq_none rfl rfl
    · exact List.forall_mem_singleton.2 (unbroken_of_writes hline)
  | @array depth line items n hdepth hline hcount hlimit hitems ih =>
    obtain ⟨own, hown, hunbroken⟩ := exists_lines_of_forall ih
    refine ⟨line :: own, fun rest => ?_, ?_⟩
    · rw [List.append_assoc, lines_of_readBody (not_crlf_infix_of_writes hline)
        (Token.readBody_array hline hcount hlimit _), hown]
      rfl
    · rw [List.forall_mem_cons, ← hunbroken, unbroken_array, List.forall_mem_map]
      exact (and_iff_right (unbroken_of_writes hline)).symm

theorem Derives.unbroken_iff {s : Bytes} {frame : Frame} (h : Derives limits depth s frame) :
    frame.Unbroken ↔ ∀ line ∈ lines limits s, line.Unbroken := by
  obtain ⟨own, hown, hunbroken⟩ := exists_lines_of_derives h
  have hs := hown []
  rw [List.append_nil, lines_nil, List.append_nil] at hs
  rw [hs, hunbroken]

end Frame

end RespStore
