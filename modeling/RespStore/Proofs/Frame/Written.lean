import RespStore.Proofs.Text.Lines

set_option autoImplicit false

namespace RespStore.Frame

open Text

def Broken (frame : Frame) : Prop :=
  ∃ text, frame.text? = some text ∧ ('\r' ∈ text.toList ∨ '\n' ∈ text.toList)

/-- What decides whether a node can be written: nothing of a payload or a number. -/
def Node.label (node : Node) : Kind × Option String :=
  (node.frame.kind, node.frame.text?)

def brokenLabel? (label : Kind × Option String) : Option Kind :=
  match label.2 with
  | some text => if hasLineBreak text then some label.1 else none
  | none => none

theorem findSome?_nodesOfAll {items : List Frame} {depth : Nat} {f : Node → Option Kind}
    (h : ∀ item ∈ items, item.brokenKind? = (item.nodes depth).findSome? f) :
    brokenKindAmong? items = (nodesOfAll depth items).findSome? f := by
  induction items with
  | nil => rfl
  | cons item rest ih =>
    have hrest := ih fun other hother => h other (List.mem_cons_of_mem _ hother)
    rw [brokenKindAmong?, nodesOfAll, List.findSome?_append, ← h item List.mem_cons_self, hrest]
    cases item.brokenKind? <;> rfl

/-- Looking through a frame finds its first node with a line break. -/
theorem brokenKind?_eq_findSome? (frame : Frame) (depth : Nat) :
    frame.brokenKind? = (frame.nodes depth).findSome? fun node => brokenLabel? node.label := by
  induction frame generalizing depth with
  | array items ih =>
    rw [brokenKind?, nodes, List.findSome?_cons]
    exact findSome?_nodesOfAll fun item hitem => ih item hitem (depth + 1)
  | simple text | error text =>
    rw [brokenKind?, nodes, List.findSome?_singleton]
    rfl
  | integer | bulk | null => rfl

theorem brokenLabel?_eq_some_iff {node : Node} {kind : Kind} :
    brokenLabel? node.label = some kind ↔ node.frame.Broken ∧ node.frame.kind = kind := by
  rw [brokenLabel?, Node.label, Broken]
  cases node.frame.text? with
  | none => simp
  | some text => simp [hasLineBreak_eq_true_iff]

theorem brokenLabel?_eq_none_iff {node : Node} :
    brokenLabel? node.label = none ↔ ¬ node.frame.Broken := by
  rw [Option.eq_none_iff_forall_ne_some]
  simp [brokenLabel?_eq_some_iff]

mutual

def writeTo (buffer : Bytes) : Frame → Bytes
  | .simple text => buffer ++ headed .simple (Utf8.encode text)
  | .error text => buffer ++ headed .error (Utf8.encode text)
  | .integer value => buffer ++ headed .integer (Decimal.ofInt64 value)
  | .bulk payload =>
    buffer ++ headed .bulk (Decimal.ofNat payload.length) ++ payload ++ Bytes.crlf
  | .array items => writeAllTo (buffer ++ headed .array (Decimal.ofNat items.length)) items
  | .null => buffer ++ headed .bulk (Decimal.ofInt (-1))

def writeAllTo (buffer : Bytes) : List Frame → Bytes
  | [] => buffer
  | item :: rest => writeAllTo (writeTo buffer item) rest

end

theorem writeAllTo_eq {items : List Frame}
    (h : ∀ item ∈ items, ∀ buffer, writeTo buffer item = buffer ++ item.bytes) (buffer : Bytes) :
    writeAllTo buffer items = buffer ++ bytesOfAll items := by
  induction items generalizing buffer with
  | nil => exact (List.append_nil buffer).symm
  | cons item rest ih =>
    have hrest := ih fun other hother => h other (List.mem_cons_of_mem _ hother)
    rw [writeAllTo, h item List.mem_cons_self, hrest, bytesOfAll, List.append_assoc]

theorem writeTo_eq (buffer : Bytes) (frame : Frame) :
    writeTo buffer frame = buffer ++ frame.bytes := by
  induction frame generalizing buffer with
  | array items ih =>
    rw [writeTo, writeAllTo_eq fun item hitem buffer => ih item hitem buffer, bytes,
      List.append_assoc]
  | bulk payload => simp only [writeTo, bytes, List.append_assoc]
  | simple | error | integer | null => rfl

theorem fst_encodeInto_eq_ok_iff (frame : Frame) (buffer : Bytes) :
    (frame.encodeInto buffer).1 = .ok () ↔ frame.Unbroken := by
  rw [← brokenKind?_eq_none_iff, encodeInto, encode]
  cases frame.brokenKind? <;> simp

/-- The first node with a line break, each array before its items, is the one that is named. -/
theorem exists_first_broken {frame : Frame} (h : ¬ frame.Unbroken) :
    ∃ front node back, frame.nodes 0 = front ++ node :: back ∧
      (∀ other ∈ front, ¬ other.frame.Broken) ∧ node.frame.Broken ∧
      frame.encode = .error ⟨node.frame.kind⟩ := by
  rw [← brokenKind?_eq_none_iff] at h
  obtain ⟨kind, hkind⟩ := Option.ne_none_iff_exists'.1 h
  have hfirst := hkind
  rw [brokenKind?_eq_findSome? frame 0, List.findSome?_eq_some_iff] at hfirst
  obtain ⟨front, node, back, hnodes, hnode, hfront⟩ := hfirst
  obtain ⟨hbroken, rfl⟩ := brokenLabel?_eq_some_iff.1 hnode
  refine ⟨front, node, back, hnodes, ?_, hbroken, by rw [encode, hkind]⟩
  exact fun other hother => brokenLabel?_eq_none_iff.1 (hfront other hother)

theorem fst_encodeInto_congr {frame other : Frame}
    (h : (other.nodes 0).map Node.label = (frame.nodes 0).map Node.label) (buffer : Bytes) :
    (other.encodeInto buffer).1 = (frame.encodeInto buffer).1 := by
  have hlabels (frame : Frame) :
      frame.brokenKind? = ((frame.nodes 0).map Node.label).findSome? brokenLabel? := by
    rw [brokenKind?_eq_findSome? frame 0, List.findSome?_map]
    rfl
  have hkind : other.brokenKind? = frame.brokenKind? := by rw [hlabels, hlabels, h]
  rw [encodeInto, encodeInto, encode, encode, hkind]
  cases frame.brokenKind? <;> rfl

/-- A frame is written into a buffer, whole and behind what the buffer holds, if no text at any
depth of it holds a CR or LF. Otherwise the buffer is left as it is, and the first frame with such a
text is named. Only the texts decide: a frame of the same shape with the same texts, but with any
other payloads, has the same outcome. -/
theorem encodeInto_whole_or_nothing (frame : Frame) (buffer : Bytes) :
    ((frame.encodeInto buffer).1 = .ok () ↔ frame.Unbroken) ∧
    (frame.Unbroken → ∃ written, frame.encode = .ok written ∧
      frame.encodeInto buffer = (.ok (), buffer ++ written) ∧
      writeTo buffer frame = buffer ++ written) ∧
    (¬ frame.Unbroken → ∃ front node back, frame.nodes 0 = front ++ node :: back ∧
      (∀ other ∈ front, ¬ other.frame.Broken) ∧ node.frame.Broken ∧
      frame.encode = .error ⟨node.frame.kind⟩ ∧
      frame.encodeInto buffer = (.error ⟨node.frame.kind⟩, buffer)) ∧
    ∀ other : Frame, (other.nodes 0).map Node.label = (frame.nodes 0).map Node.label →
      (other.encodeInto buffer).1 = (frame.encodeInto buffer).1 := by
  refine ⟨fst_encodeInto_eq_ok_iff frame buffer, ?_, ?_, ?_⟩
  · intro h
    have hinto : frame.encodeInto buffer = (.ok (), buffer ++ frame.bytes) := by
      simp only [encodeInto, encode_of_unbroken h]
    exact ⟨frame.bytes, encode_of_unbroken h, hinto, writeTo_eq buffer frame⟩
  · intro h
    obtain ⟨front, node, back, hnodes, hfront, hbroken, hencode⟩ := exists_first_broken h
    exact ⟨front, node, back, hnodes, hfront, hbroken, hencode, by simp only [encodeInto, hencode]⟩
  · exact fun other h => fst_encodeInto_congr h buffer

def brokenDeep (payload : Bytes) : Frame :=
  .array [.bulk payload, .array [.integer 1, .array [.error "a\nb"]], .simple "\r"]

theorem encodeInto_whole_or_nothing_deep :
    (brokenDeep Bytes.crlf).encodeInto [58, 49, 13, 10] = (.error ⟨.error⟩, [58, 49, 13, 10]) ∧
      ((brokenDeep []).encodeInto [58, 49, 13, 10]).1 = .error ⟨.error⟩ ∧
      (Frame.array [.bulk Bytes.crlf]).encodeInto [58, 49, 13, 10] =
        (.ok (), [58, 49, 13, 10, 42, 49, 13, 10, 36, 50, 13, 10, 13, 10, 13, 10]) := by
  obtain ⟨hok, -, hfails, hlabels⟩ :=
    encodeInto_whole_or_nothing (brokenDeep Bytes.crlf) [58, 49, 13, 10]
  have hfirst : ((brokenDeep Bytes.crlf).encodeInto [58, 49, 13, 10]).1 = .error ⟨.error⟩ := by
    with_unfolding_all rfl
  have hbroken : ¬ (brokenDeep Bytes.crlf).Unbroken := by
    rw [← hok, hfirst]
    nofun
  obtain ⟨front, node, back, -, -, -, -, hinto⟩ := hfails hbroken
  have hkind : node.frame.kind = .error := by
    rw [hinto] at hfirst
    simpa using hfirst
  have hempty := hlabels (brokenDeep []) rfl
  obtain ⟨hwhole, hwritten, -⟩ :=
    encodeInto_whole_or_nothing (.array [.bulk Bytes.crlf]) [58, 49, 13, 10]
  have hunbroken := hwhole.1 (by with_unfolding_all rfl)
  obtain ⟨written, hencode, hinto', -⟩ := hwritten hunbroken
  have hbytes : (Frame.array [.bulk Bytes.crlf]).encode =
      .ok [42, 49, 13, 10, 36, 50, 13, 10, 13, 10, 13, 10] := by with_unfolding_all rfl
  cases hencode.symm.trans hbytes
  exact ⟨by rw [hinto, hkind], hempty.trans hfirst, hinto'⟩

end RespStore.Frame
