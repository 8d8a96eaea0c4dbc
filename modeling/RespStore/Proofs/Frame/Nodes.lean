import RespStore.Decimal
import RespStore.Frame.Malformed

set_option autoImplicit false

namespace RespStore

namespace Frame

@[induction_eliminator]
theorem induction {motive : Frame → Prop} (simple : ∀ text, motive (.simple text))
    (error : ∀ text, motive (.error text)) (integer : ∀ value, motive (.integer value))
    (bulk : ∀ payload, motive (.bulk payload))
    (array : ∀ items, (∀ item ∈ items, motive item) → motive (.array items))
    (null : motive .null) (frame : Frame) : motive frame :=
  @Frame.rec motive (fun items => ∀ item ∈ items, motive item) simple error integer bulk array null
    (by simp) (fun item rest hitem hrest => by simpa using ⟨hitem, hrest⟩) frame

/-- A frame inside of a frame, and in how many arrays it is. -/
structure Node where
  depth : Nat
  frame : Frame

mutual

def nodes (depth : Nat) : Frame → List Node
  | .simple text => [⟨depth, .simple text⟩]
  | .error text => [⟨depth, .error text⟩]
  | .integer value => [⟨depth, .integer value⟩]
  | .bulk payload => [⟨depth, .bulk payload⟩]
  | .array items => ⟨depth, .array items⟩ :: nodesOfAll (depth + 1) items
  | .null => [⟨depth, .null⟩]

def nodesOfAll (depth : Nat) : List Frame → List Node
  | [] => []
  | item :: rest => nodes depth item ++ nodesOfAll depth rest

end

theorem map_frame_nodesOfAll {items : List Frame}
    (h : ∀ item ∈ items, ∀ d e, (item.nodes d).map Node.frame = (item.nodes e).map Node.frame)
    (d e : Nat) : (nodesOfAll d items).map Node.frame = (nodesOfAll e items).map Node.frame := by
  induction items with
  | nil => rfl
  | cons item rest ih =>
    rw [nodesOfAll, nodesOfAll, List.map_append, List.map_append, h item (by simp) d e,
      ih fun other hother => h other (by simp [hother])]

theorem map_frame_nodes (frame : Frame) (d e : Nat) :
    (frame.nodes d).map Node.frame = (frame.nodes e).map Node.frame := by
  induction frame generalizing d e with
  | array items ih =>
    simp only [nodes, List.map_cons, map_frame_nodesOfAll ih (d + 1) (e + 1)]
  | simple | error | integer | bulk | null => rfl

def Everywhere (p : Frame → Prop) (frame : Frame) : Prop :=
  ∀ node ∈ frame.nodes 0, p node.frame

theorem mem_nodesOfAll {node : Node} {depth : Nat} {items : List Frame} :
    node ∈ nodesOfAll depth items ↔ ∃ item ∈ items, node ∈ item.nodes depth := by
  induction items with
  | nil => simp [nodesOfAll]
  | cons item rest ih => simp [nodesOfAll, ih]

theorem everywhere_iff (p : Frame → Prop) (frame : Frame) (depth : Nat) :
    frame.Everywhere p ↔ ∀ node ∈ frame.nodes depth, p node.frame := by
  have hmap := map_frame_nodes frame 0 depth
  have hall (depth : Nat) : (∀ node ∈ frame.nodes depth, p node.frame) ↔
      ∀ inner ∈ (frame.nodes depth).map Node.frame, p inner := by simp
  rw [Everywhere, hall, hall, hmap]

theorem everywhere_array {p : Frame → Prop} {items : List Frame} :
    (Frame.array items).Everywhere p ↔
      p (.array items) ∧ ∀ item ∈ items, item.Everywhere p := by
  have hitem (item : Frame) := everywhere_iff p item 1
  constructor
  · intro h
    refine ⟨h ⟨0, .array items⟩ (by simp [nodes]), ?_⟩
    intro item hmem
    refine (hitem item).2 fun node hnode => h node ?_
    exact List.mem_cons_of_mem _ (mem_nodesOfAll.2 ⟨item, hmem, hnode⟩)
  · rintro ⟨hself, hitems⟩ node hnode
    rcases List.mem_cons.1 hnode with rfl | hnode
    · exact hself
    · obtain ⟨item, hmem, hnode⟩ := mem_nodesOfAll.1 hnode
      exact (hitem item).1 (hitems item hmem) node hnode

theorem everywhere_leaf {p : Frame → Prop} {frame : Frame} (h : frame.nodes 0 = [⟨0, frame⟩]) :
    frame.Everywhere p ↔ p frame := by
  rw [Everywhere, h, List.forall_mem_singleton]

def text? : Frame → Option String
  | .simple text => some text
  | .error text => some text
  | .integer _ => none
  | .bulk _ => none
  | .array _ => none
  | .null => none

def count : Frame → Nat
  | .bulk payload => payload.length
  | .array items => items.length
  | .simple _ => 0
  | .error _ => 0
  | .integer _ => 0
  | .null => 0

def Unbroken (frame : Frame) : Prop :=
  frame.Everywhere fun inner => ∀ text, inner.text? = some text →
    '\r' ∉ text.toList ∧ '\n' ∉ text.toList

theorem unbroken_leaf {frame : Frame} (h : frame.nodes 0 = [⟨0, frame⟩]) :
    frame.Unbroken ↔
      ∀ text, frame.text? = some text → '\r' ∉ text.toList ∧ '\n' ∉ text.toList :=
  everywhere_leaf h

theorem unbroken_of_text?_eq_none {frame : Frame} (h : frame.nodes 0 = [⟨0, frame⟩])
    (htext : frame.text? = none) : frame.Unbroken := by
  rw [unbroken_leaf h, htext]
  nofun

theorem unbroken_array {items : List Frame} :
    (Frame.array items).Unbroken ↔ ∀ item ∈ items, item.Unbroken :=
  everywhere_array.trans (and_iff_right nofun)

def Countable (frame : Frame) : Prop :=
  frame.Everywhere fun inner => inner.count ≤ Decimal.maxInt64

end Frame

namespace Limits

def excess? (limits : Limits) : Frame → Option Malformed
  | .bulk payload =>
    if limits.maxBulk.toNat < payload.length then
      some (.bulkTooLong (Int64.ofNat payload.length) limits.maxBulk)
    else none
  | .array items =>
    if limits.maxArray.toNat < items.length then
      some (.arrayTooLong (Int64.ofNat items.length) limits.maxArray)
    else none
  | .simple _ => none
  | .error _ => none
  | .integer _ => none
  | .null => none

/-- The limit that a node passes. Its depth counts before its length. -/
def fault? (limits : Limits) (node : Frame.Node) : Option Malformed :=
  if limits.maxDepth.toNat < node.depth then some (.tooDeep limits.maxDepth)
  else limits.excess? node.frame

theorem fault?_eq_none_iff {limits : Limits} {node : Frame.Node} :
    limits.fault? node = none ↔
      node.depth ≤ limits.maxDepth.toNat ∧
        (∀ payload, node.frame = .bulk payload → payload.length ≤ limits.maxBulk.toNat) ∧
        ∀ items, node.frame = .array items → items.length ≤ limits.maxArray.toNat := by
  rw [fault?]
  by_cases hdeep : limits.maxDepth.toNat < node.depth
  · rw [if_pos hdeep]
    constructor
    · intro h
      cases h
    · intro h
      exact absurd h.1 (Nat.not_le.2 hdeep)
  · rw [if_neg hdeep]
    cases node.frame <;> simp [excess?, Nat.not_lt.1 hdeep]

end Limits

namespace Frame

structure Within (limits : Limits) (frame : Frame) : Prop where
  depth : ∀ node ∈ frame.nodes 0, node.depth ≤ limits.maxDepth.toNat
  bulk : ∀ node ∈ frame.nodes 0, ∀ payload, node.frame = .bulk payload →
    payload.length ≤ limits.maxBulk.toNat
  array : ∀ node ∈ frame.nodes 0, ∀ items, node.frame = .array items →
    items.length ≤ limits.maxArray.toNat

theorem within_iff (limits : Limits) (frame : Frame) :
    frame.Within limits ↔ (frame.nodes 0).findSome? limits.fault? = none := by
  rw [List.findSome?_eq_none_iff]
  constructor
  · intro h node hnode
    exact Limits.fault?_eq_none_iff.2
      ⟨h.depth node hnode, h.bulk node hnode, h.array node hnode⟩
  · intro h
    have hnode (node : Node) (hmem : node ∈ frame.nodes 0) :=
      Limits.fault?_eq_none_iff.1 (h node hmem)
    exact ⟨fun node hmem => (hnode node hmem).1, fun node hmem => (hnode node hmem).2.1,
      fun node hmem => (hnode node hmem).2.2⟩

end Frame

end RespStore
