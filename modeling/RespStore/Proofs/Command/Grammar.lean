import Mathlib.Data.List.Forall2
import RespStore.Command.Basic

/-!
# The grammar of commands

`Reads` says what a frame is read as: a command, or the first reason why it is none. Reading gives
just that (`ofFrame_eq_iff_reads`), and a simple frame counts like a bulk frame with the same bytes.
-/

set_option autoImplicit false

namespace RespStore

open Text

namespace Frame

inductive IsText : Frame → Bytes → Prop where
  | simple (text : String) : IsText (.simple text) (Utf8.encode text)
  | bulk (payload : Bytes) : IsText (.bulk payload) payload

def NoText (frame : Frame) : Prop := ∀ bytes, ¬ frame.IsText bytes

inductive Names : Frame → String → Prop where
  | simple (text : String) : Names (.simple text) (lowercase text)
  | bulk (payload : Bytes) : Names (.bulk payload) (lowercase (Utf8.decode payload))

theorem Names.not_noText {head : Frame} {name : String} (h : head.Names name) : ¬ head.NoText := by
  intro hnone
  cases h with
  | simple text => exact hnone _ (.simple text)
  | bulk payload => exact hnone _ (.bulk payload)

theorem Names.unique {head : Frame} {name other : String} (h : head.Names name)
    (hother : head.Names other) : name = other := by
  cases h <;> cases hother <;> rfl

end Frame

namespace Verb

def Admits (verb : Verb) (count : Nat) : Prop :=
  match verb with
  | .del => 1 ≤ count
  | .echo => count = 1
  | .get => count = 1
  | .incr => count = 1
  | .ping => count ≤ 1
  | .set => count = 2

inductive Forms : Verb → List Bytes → Command → Prop where
  | del {keys : List Bytes} (hkeys : keys ≠ []) : Forms .del keys (.del keys)
  | echo (message : Bytes) : Forms .echo [message] (.echo message)
  | get (key : Bytes) : Forms .get [key] (.get key)
  | incr (key : Bytes) : Forms .incr [key] (.incr key)
  | ping : Forms .ping [] (.ping none)
  | pingWith (payload : Bytes) : Forms .ping [payload] (.ping (some payload))
  | set (key value : Bytes) : Forms .set [key, value] (.set key value)

theorem exists_forms {verb : Verb} {texts : List Bytes} (h : verb.Admits texts.length) :
    ∃ command, verb.Forms texts command := by
  cases verb with
  | del => exact ⟨_, .del (List.ne_nil_of_length_pos h)⟩
  | echo =>
    obtain ⟨message, rfl⟩ := List.length_eq_one_iff.1 h
    exact ⟨_, .echo message⟩
  | get =>
    obtain ⟨key, rfl⟩ := List.length_eq_one_iff.1 h
    exact ⟨_, .get key⟩
  | incr =>
    obtain ⟨key, rfl⟩ := List.length_eq_one_iff.1 h
    exact ⟨_, .incr key⟩
  | ping =>
    rcases Nat.le_one_iff_eq_zero_or_eq_one.1 h with hnone | hone
    · rw [List.length_eq_zero_iff.1 hnone]
      exact ⟨_, .ping⟩
    · obtain ⟨payload, rfl⟩ := List.length_eq_one_iff.1 hone
      exact ⟨_, .pingWith payload⟩
  | set =>
    obtain ⟨key, value, rfl⟩ := List.length_eq_two.1 h
    exact ⟨_, .set key value⟩

theorem ofName?_eq_some_iff {name : String} {verb : Verb} :
    ofName? name = some verb ↔ verb.name = name := by
  constructor
  · exact name_of_ofName?
  · rintro rfl
    exact ofName?_name verb

theorem ofName?_eq_none_iff {name : String} :
    ofName? name = none ↔ ∀ verb : Verb, verb.name ≠ name := by
  constructor
  · intro h verb hverb
    rw [← ofName?_eq_some_iff, h] at hverb
    cases hverb
  · intro h
    cases hverb : ofName? name with
    | none => rfl
    | some verb => exact absurd (name_of_ofName? hverb) (h verb)

end Verb

namespace Command

/-- What a frame is read as. The reasons for rejection stand in their order, and each holds only
where none before it does. -/
inductive Reads : Frame → Except Rejection Command → Prop where
  | notAnArray {frame : Frame} (hframe : ∀ items, frame ≠ .array items) :
      Reads frame (.error .notAnArray)
  | emptyCommand : Reads (.array []) (.error .emptyCommand)
  | nameless {head : Frame} {rest : List Frame} (hhead : head.NoText) :
      Reads (.array (head :: rest)) (.error (.invalidToken head.kind))
  | unknownCommand {head : Frame} {rest : List Frame} {name : String} (hname : head.Names name)
      (hverb : ∀ verb : Verb, verb.name ≠ name) :
      Reads (.array (head :: rest)) (.error (.unknownCommand name))
  | wrongArity {head : Frame} {rest : List Frame} {verb : Verb} (hname : head.Names verb.name)
      (hcount : ¬ verb.Admits rest.length) :
      Reads (.array (head :: rest)) (.error (.wrongArity verb.name))
  | badArgument {head bad : Frame} {front back : List Frame} {verb : Verb}
      (hname : head.Names verb.name) (hcount : verb.Admits (front ++ bad :: back).length)
      (hfront : ∀ frame ∈ front, ∃ bytes, frame.IsText bytes) (hbad : bad.NoText) :
      Reads (.array (head :: (front ++ bad :: back))) (.error (.invalidToken bad.kind))
  | command {head : Frame} {rest : List Frame} {verb : Verb} {texts : List Bytes}
      {command : Command} (hname : head.Names verb.name)
      (htexts : List.Forall₂ Frame.IsText rest texts) (hforms : verb.Forms texts command) :
      Reads (.array (head :: rest)) (.ok command)

/-! ## Texts -/

theorem argument_eq_ok_iff {frame : Frame} {bytes : Bytes} :
    argument frame = .ok bytes ↔ frame.IsText bytes := by
  constructor
  · intro h
    cases frame with
    | simple text =>
      cases h
      exact .simple text
    | bulk payload =>
      cases h
      exact .bulk _
    | error | integer | array | null => cases h
  · intro h
    cases h <;> rfl

theorem argument_eq_error_iff {frame : Frame} {rejection : Rejection} :
    argument frame = .error rejection ↔
      frame.NoText ∧ rejection = .invalidToken frame.kind := by
  constructor
  · intro h
    refine ⟨fun bytes htext => ?_, ?_⟩
    · rw [argument_eq_ok_iff.2 htext] at h
      cases h
    · cases frame <;> cases h <;> rfl
  · rintro ⟨hnone, rfl⟩
    cases frame with
    | simple text => exact absurd (.simple text) (hnone _)
    | bulk payload => exact absurd (.bulk payload) (hnone _)
    | error | integer | array | null => rfl

theorem spelledName_of_names {head : Frame} {name : String} (h : head.Names name) :
    spelledName head = .ok name := by
  cases h <;> rfl

theorem spelledName_of_noText {head : Frame} (h : head.NoText) :
    spelledName head = .error (.invalidToken head.kind) := by
  cases head with
  | simple text => exact absurd (.simple text) (h _)
  | bulk payload => exact absurd (.bulk payload) (h _)
  | error | integer | array | null => rfl

theorem text_or_noText (frame : Frame) : (∃ bytes, frame.IsText bytes) ∨ frame.NoText := by
  by_cases h : ∃ bytes, frame.IsText bytes
  · exact .inl h
  · exact .inr (not_exists.1 h)

theorem names_or_noText (head : Frame) : (∃ name, head.Names name) ∨ head.NoText := by
  cases head with
  | simple text => exact .inl ⟨_, .simple text⟩
  | bulk payload => exact .inl ⟨_, .bulk payload⟩
  | error | integer | array | null => exact .inr nofun

theorem map_eq_ok {α β : Type} {f : α → β} {outcome : Except Rejection α} {value : β}
    (h : outcome.map f = .ok value) : ∃ found, outcome = .ok found ∧ f found = value := by
  cases outcome with
  | error rejection => cases h
  | ok found =>
    cases h
    exact ⟨found, rfl, rfl⟩

theorem map_eq_error {α β : Type} {f : α → β} {outcome : Except Rejection α}
    {rejection : Rejection} (h : outcome.map f = .error rejection) :
    outcome = .error rejection := by
  cases outcome with
  | error found =>
    cases h
    rfl
  | ok value => cases h

theorem arguments_cons_of_ok {frame : Frame} {bytes : Bytes} (h : frame.IsText bytes)
    (rest : List Frame) : arguments (frame :: rest) = (arguments rest).map (bytes :: ·) := by
  rw [arguments, argument_eq_ok_iff.2 h]

theorem arguments_cons_of_noText {frame : Frame} (h : frame.NoText) (rest : List Frame) :
    arguments (frame :: rest) = .error (.invalidToken frame.kind) := by
  rw [arguments, argument_eq_error_iff.2 ⟨h, rfl⟩]

theorem arguments_eq_ok_iff {items : List Frame} {texts : List Bytes} :
    arguments items = .ok texts ↔ List.Forall₂ Frame.IsText items texts := by
  constructor
  · intro h
    induction items generalizing texts with
    | nil =>
      cases h
      exact .nil
    | cons item rest ih =>
      rcases text_or_noText item with ⟨bytes, hbytes⟩ | hnone
      · rw [arguments_cons_of_ok hbytes] at h
        obtain ⟨others, hothers, rfl⟩ := map_eq_ok h
        exact .cons hbytes (ih hothers)
      · rw [arguments_cons_of_noText hnone] at h
        cases h
  · intro h
    induction h with
    | nil => rfl
    | cons hbytes _ ih =>
      rw [arguments_cons_of_ok hbytes, ih]
      rfl

theorem isText_of_forall₂ {items : List Frame} {texts : List Bytes}
    (h : List.Forall₂ Frame.IsText items texts) : ∀ item ∈ items, ∃ bytes, item.IsText bytes := by
  have hboth : List.Forall₂ (fun item bytes => (∃ found, item.IsText found) ∧ item.IsText bytes)
      items texts := h.imp fun _ bytes hbytes => ⟨⟨bytes, hbytes⟩, hbytes⟩
  exact ((List.forall₂_and_left _ _).1 hboth).1

theorem arguments_eq_error_iff {items : List Frame} {rejection : Rejection} :
    arguments items = .error rejection ↔
      ∃ front bad back, items = front ++ bad :: back ∧
        (∀ frame ∈ front, ∃ bytes, frame.IsText bytes) ∧ bad.NoText ∧
        rejection = .invalidToken bad.kind := by
  constructor
  · intro h
    induction items with
    | nil => cases h
    | cons item rest ih =>
      rcases text_or_noText item with ⟨bytes, hbytes⟩ | hnone
      · rw [arguments_cons_of_ok hbytes] at h
        obtain ⟨front, bad, back, rfl, hfront, hbad⟩ := ih (map_eq_error h)
        refine ⟨item :: front, bad, back, rfl, ?_, hbad⟩
        intro frame hmem
        rcases List.mem_cons.1 hmem with rfl | hmem
        · exact ⟨bytes, hbytes⟩
        · exact hfront frame hmem
      · rw [arguments_cons_of_noText hnone] at h
        cases h
        exact ⟨[], item, rest, rfl, nofun, hnone, rfl⟩
  · rintro ⟨front, bad, back, rfl, hfront, hbad, rfl⟩
    induction front with
    | nil => exact arguments_cons_of_noText hbad back
    | cons frame rest ih =>
      obtain ⟨bytes, hbytes⟩ := hfront frame List.mem_cons_self
      rw [List.cons_append, arguments_cons_of_ok hbytes,
        ih fun other hmem => hfront other (List.mem_cons_of_mem _ hmem)]
      rfl

/-! ## Verbs and their arguments -/

theorem ofVerb_of_not_admits {verb : Verb} {items : List Frame}
    (h : ¬ verb.Admits items.length) : ofVerb verb items = .error (.wrongArity verb.name) := by
  unfold ofVerb
  split
  · exact absurd (Nat.le_add_left 1 _) h
  · exact absurd rfl h
  · exact absurd rfl h
  · exact absurd rfl h
  · exact absurd (Nat.zero_le 1) h
  · exact absurd (Nat.le_refl 1) h
  · exact absurd rfl h
  · rfl

theorem ofVerb_of_forms {verb : Verb} {items : List Frame} {texts : List Bytes} {command : Command}
    (htexts : List.Forall₂ Frame.IsText items texts) (hforms : verb.Forms texts command) :
    ofVerb verb items = .ok command := by
  cases hforms with
  | del hkeys =>
    cases htexts with
    | nil => exact absurd rfl hkeys
    | cons hkey hrest => rw [ofVerb, arguments_eq_ok_iff.2 (.cons hkey hrest)]; rfl
  | ping =>
    cases htexts
    rfl
  | echo | get | incr | pingWith =>
    obtain ⟨item, rest, hitem, hrest, rfl⟩ := List.forall₂_cons_right_iff.1 htexts
    cases hrest
    rw [ofVerb, argument_eq_ok_iff.2 hitem]
    rfl
  | set key value =>
    cases htexts with
    | cons hkey hrest =>
      cases hrest with
      | cons hvalue hnil =>
        cases hnil
        rw [ofVerb, argument_eq_ok_iff.2 hkey, argument_eq_ok_iff.2 hvalue]
        rfl

theorem ofVerb_of_arguments_eq_error {verb : Verb} {items : List Frame} {rejection : Rejection}
    (hcount : verb.Admits items.length) (h : arguments items = .error rejection) :
    ofVerb verb items = .error rejection := by
  have hone (item : Frame) : arguments [item] = (argument item).map fun bytes => [bytes] := by
    cases item <;> rfl
  cases verb with
  | del =>
    obtain ⟨item, rest, rfl⟩ := List.exists_cons_of_length_pos hcount
    rw [ofVerb, h]
    rfl
  | echo | get | incr =>
    obtain ⟨item, rfl⟩ := List.length_eq_one_iff.1 hcount
    rw [hone] at h
    rw [ofVerb, map_eq_error h]
    rfl
  | ping =>
    rcases Nat.le_one_iff_eq_zero_or_eq_one.1 hcount with hzero | hlength
    · rw [List.length_eq_zero_iff.1 hzero] at h
      cases h
    · obtain ⟨item, rfl⟩ := List.length_eq_one_iff.1 hlength
      rw [hone] at h
      rw [ofVerb, map_eq_error h]
      rfl
  | set =>
    obtain ⟨key, value, rfl⟩ := List.length_eq_two.1 hcount
    rcases text_or_noText key with ⟨bytes, hbytes⟩ | hnone
    · rw [arguments_cons_of_ok hbytes, hone] at h
      rw [ofVerb, argument_eq_ok_iff.2 hbytes, map_eq_error (map_eq_error h)]
      rfl
    · rw [arguments_cons_of_noText hnone] at h
      cases h
      rw [ofVerb, argument_eq_error_iff.2 ⟨hnone, rfl⟩]

theorem reads_ofVerb {head : Frame} {verb : Verb} (hname : head.Names verb.name)
    (rest : List Frame) : Reads (.array (head :: rest)) (ofVerb verb rest) := by
  by_cases hcount : verb.Admits rest.length
  · cases harguments : arguments rest with
    | error rejection =>
      rw [ofVerb_of_arguments_eq_error hcount harguments]
      obtain ⟨front, bad, back, rfl, hfront, hbad, rfl⟩ := arguments_eq_error_iff.1 harguments
      exact .badArgument hname hcount hfront hbad
    | ok texts =>
      have htexts := arguments_eq_ok_iff.1 harguments
      rw [htexts.length_eq] at hcount
      obtain ⟨command, hforms⟩ := Verb.exists_forms hcount
      rw [ofVerb_of_forms htexts hforms]
      exact .command hname htexts hforms
  · rw [ofVerb_of_not_admits hcount]
    exact .wrongArity hname hcount

/-! ## Frames -/

theorem ofFrame_of_names {head : Frame} {name : String} (h : head.Names name)
    (rest : List Frame) :
    ofFrame (.array (head :: rest)) =
      match Verb.ofName? name with
      | none => .error (.unknownCommand name)
      | some verb => ofVerb verb rest := by
  cases hverb : Verb.ofName? name <;> simp only [ofFrame, spelledName_of_names h, hverb]

theorem ofFrame_of_verb {head : Frame} {verb : Verb} (h : head.Names verb.name)
    (rest : List Frame) : ofFrame (.array (head :: rest)) = ofVerb verb rest := by
  rw [ofFrame_of_names h, Verb.ofName?_name]

theorem reads_ofFrame (frame : Frame) : Reads frame (ofFrame frame) := by
  cases frame with
  | simple | error | integer | bulk | null => exact .notAnArray nofun
  | array items =>
    cases items with
    | nil => exact .emptyCommand
    | cons head rest =>
      rcases names_or_noText head with ⟨name, hname⟩ | hhead
      · cases hverb : Verb.ofName? name with
        | none =>
          rw [ofFrame_of_names hname, hverb]
          exact .unknownCommand hname (Verb.ofName?_eq_none_iff.1 hverb)
        | some verb =>
          obtain rfl := Verb.name_of_ofName? hverb
          rw [ofFrame_of_verb hname]
          exact reads_ofVerb hname rest
      · rw [ofFrame, spelledName_of_noText hhead]
        exact .nameless hhead

theorem Reads.ofFrame_eq {frame : Frame} {outcome : Except Rejection Command}
    (h : Reads frame outcome) : ofFrame frame = outcome := by
  cases h with
  | notAnArray hframe =>
    cases frame with
    | array items => exact absurd rfl (hframe items)
    | simple | error | integer | bulk | null => rfl
  | emptyCommand => rfl
  | nameless hhead => rw [ofFrame, spelledName_of_noText hhead]
  | unknownCommand hname hverb => rw [ofFrame_of_names hname, Verb.ofName?_eq_none_iff.2 hverb]
  | wrongArity hname hcount => rw [ofFrame_of_verb hname, ofVerb_of_not_admits hcount]
  | badArgument hname hcount hfront hbad =>
    rw [ofFrame_of_verb hname]
    exact ofVerb_of_arguments_eq_error hcount
      (arguments_eq_error_iff.2 ⟨_, _, _, rfl, hfront, hbad, rfl⟩)
  | command hname htexts hforms => rw [ofFrame_of_verb hname, ofVerb_of_forms htexts hforms]

theorem reads_of_ofFrame_eq {frame : Frame} {outcome : Except Rejection Command}
    (h : ofFrame frame = outcome) : Reads frame outcome :=
  h ▸ reads_ofFrame frame

theorem not_noText_of_ofFrame {items : List Frame} {command : Command}
    (h : ofFrame (.array items) = .ok command) {item : Frame} (hitem : item ∈ items) :
    ¬ item.NoText := by
  cases reads_of_ofFrame_eq h with
  | command hname htexts _ =>
    rcases List.mem_cons.1 hitem with rfl | hrest
    · exact hname.not_noText
    · obtain ⟨bytes, hbytes⟩ := isText_of_forall₂ htexts item hrest
      exact fun hnone => hnone bytes hbytes

/-! ## Simple frames and bulk frames -/

/-- Two frames that are the same but for the way in which a text is sent. -/
inductive Resent : Frame → Frame → Prop where
  | same (frame : Frame) : Resent frame frame
  | asBulk (text : String) : Resent (.simple text) (.bulk (Utf8.encode text))
  | asSimple (text : String) : Resent (.bulk (Utf8.encode text)) (.simple text)

theorem Resent.argument_eq {frame other : Frame} (h : Resent frame other) :
    argument frame = argument other := by
  cases h <;> rfl

theorem Resent.spelledName_eq {frame other : Frame} (h : Resent frame other) :
    spelledName frame = spelledName other := by
  cases h with
  | same => rfl
  | asBulk text | asSimple text => simp only [spelledName, Utf8.decode_encode]

theorem arguments_resent {items others : List Frame} (h : List.Forall₂ Resent items others) :
    arguments items = arguments others := by
  induction h with
  | nil => rfl
  | cons hitem _ ih => rw [arguments, arguments, hitem.argument_eq, ih]

theorem ofVerb_resent {items others : List Frame} (h : List.Forall₂ Resent items others)
    (verb : Verb) : ofVerb verb items = ofVerb verb others := by
  have harguments := arguments_resent h
  by_cases hcount : verb.Admits items.length
  · have hother : verb.Admits others.length := h.length_eq ▸ hcount
    cases hitems : arguments items with
    | error rejection =>
      rw [ofVerb_of_arguments_eq_error hcount hitems,
        ofVerb_of_arguments_eq_error hother (harguments ▸ hitems)]
    | ok texts =>
      have htexts := arguments_eq_ok_iff.1 hitems
      rw [htexts.length_eq] at hcount
      obtain ⟨command, hforms⟩ := Verb.exists_forms hcount
      rw [ofVerb_of_forms htexts hforms,
        ofVerb_of_forms (arguments_eq_ok_iff.1 (harguments ▸ hitems)) hforms]
  · have hother : ¬ verb.Admits others.length := h.length_eq ▸ hcount
    rw [ofVerb_of_not_admits hcount, ofVerb_of_not_admits hother]

theorem ofFrame_resent {items others : List Frame} (h : List.Forall₂ Resent items others) :
    ofFrame (.array items) = ofFrame (.array others) := by
  cases h with
  | nil => rfl
  | cons hhead hrest =>
    rw [ofFrame, ofFrame, hhead.spelledName_eq]
    simp only [ofVerb_resent hrest]

/-- A frame is read as what the grammar says and as nothing else: the command, or the first reason
in the order of `Reads` for which it is none. Whether a text comes simple or in bulk does not
matter, neither for the name nor for any argument. -/
theorem ofFrame_eq_iff_reads :
    (∀ frame outcome, ofFrame frame = outcome ↔ Reads frame outcome) ∧
      ∀ items others, List.Forall₂ Resent items others →
        ofFrame (.array items) = ofFrame (.array others) := by
  constructor
  · intro frame outcome
    exact ⟨reads_of_ofFrame_eq, Reads.ofFrame_eq⟩
  · intro items others hresent
    exact ofFrame_resent hresent

/-- A wrong number of arguments goes before an argument that is no text, and of two such arguments
the left one counts. -/
theorem ofFrame_eq_iff_reads_defects :
    Reads (.array [.simple "SET", .integer 1]) (.error (.wrongArity "set")) ∧
      Reads (.array [.simple "Del", .bulk [107], .null, .integer 1])
        (.error (.invalidToken .null)) ∧
      List.Forall₂ Resent [.simple "Echo", .bulk (Utf8.encode "é")]
        [.bulk (Utf8.encode "Echo"), .simple "é"] ∧
      ofFrame (.array [.simple "Echo", .bulk (Utf8.encode "é")]) =
        ofFrame (.array [.bulk (Utf8.encode "Echo"), .simple "é"]) := by
  obtain ⟨hreads, hresent⟩ := ofFrame_eq_iff_reads
  have hboth : List.Forall₂ Resent [.simple "Echo", .bulk (Utf8.encode "é")]
      [.bulk (Utf8.encode "Echo"), .simple "é"] :=
    .cons (.asBulk "Echo") (.cons (.asSimple "é") .nil)
  refine ⟨(hreads _ _).1 ?_, (hreads _ _).1 ?_, hboth, hresent _ _ hboth⟩
  · with_unfolding_all rfl
  · with_unfolding_all rfl

end Command

end RespStore
