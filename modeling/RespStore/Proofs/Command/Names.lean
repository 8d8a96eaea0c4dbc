import RespStore.Proofs.Command.Grammar
import RespStore.Proofs.Text.Ascii

set_option autoImplicit false

namespace RespStore

open Text

namespace Verb

/-- No name holds the letter `k`, which is the lower case of a sign outside ASCII. -/
theorem not_strange_name (verb : Verb) : ∀ c ∈ verb.name.toList, ¬ Strange c := by
  -- Deciding the statement itself may go through all characters.
  have hall : (verb.name.toList.all fun c => decide (¬ Strange c)) = true := by
    cases verb <;> decide
  exact fun c hc => of_decide_eq_true (List.all_eq_true.1 hall c hc)

/-- Bytes spell a name if there are as many of them as in the name and in small letters they are the
same. -/
theorem lowercase_decode_eq_name_iff (verb : Verb) (t : Bytes) :
    lowercase (Utf8.decode t) = verb.name ↔
      t.length = (Utf8.encode verb.name).length ∧ t.map lowerByte = Utf8.encode verb.name := by
  rw [lowercase_decode_eq_iff verb.not_strange_name]
  constructor
  · intro h
    rw [← h, List.length_map]
    exact ⟨rfl, rfl⟩
  · exact fun h => h.2

end Verb

namespace Command

def verb : Command → Verb
  | .del _ => .del
  | .echo _ => .echo
  | .get _ => .get
  | .incr _ => .incr
  | .ping _ => .ping
  | .set _ _ => .set

def Selects (verb : Verb) (frame : Frame) : Prop :=
  ∃ command, ofFrame frame = .ok command ∧ command.verb = verb

theorem verb_of_forms {verb : Verb} {texts : List Bytes} {command : Command}
    (h : verb.Forms texts command) : command.verb = verb := by
  cases h <;> rfl

theorem exists_texts {items : List Frame} (h : ∀ item ∈ items, ∃ bytes, item.IsText bytes) :
    ∃ texts, List.Forall₂ Frame.IsText items texts := by
  cases harguments : arguments items with
  | ok texts => exact ⟨texts, arguments_eq_ok_iff.1 harguments⟩
  | error rejection =>
    obtain ⟨front, bad, back, rfl, -, hbad, -⟩ := arguments_eq_error_iff.1 harguments
    obtain ⟨bytes, hbytes⟩ := h bad (by simp)
    exact absurd hbytes (hbad bytes)

theorem selects_iff_names {verb : Verb} {items : List Frame} (hcount : verb.Admits items.length)
    (hitems : ∀ item ∈ items, ∃ bytes, item.IsText bytes) {head : Frame} {name : String}
    (hname : head.Names name) : Selects verb (.array (head :: items)) ↔ name = verb.name := by
  constructor
  · rintro ⟨command, hcommand, rfl⟩
    cases reads_of_ofFrame_eq hcommand with
    | command hverb htexts hforms =>
      rw [verb_of_forms hforms]
      exact hname.unique hverb
  · rintro rfl
    obtain ⟨texts, htexts⟩ := exists_texts hitems
    rw [htexts.length_eq] at hcount
    obtain ⟨command, hforms⟩ := Verb.exists_forms hcount
    exact ⟨command, (Reads.command hname htexts hforms).ofFrame_eq, verb_of_forms hforms⟩

theorem ofFrame_of_strange {head : Frame} {name : String} (hname : head.Names name)
    (hstrange : ∃ c ∈ name.toList, Strange c) (items : List Frame) :
    ofFrame (.array (head :: items)) = .error (.unknownCommand name) := by
  refine (Reads.unknownCommand hname ?_).ofFrame_eq
  rintro verb rfl
  obtain ⟨c, hc, hstrange⟩ := hstrange
  exact verb.not_strange_name c hc hstrange

/-- With arguments that suit a command, its name selects it in any mix of capital and small letters
of ASCII, sent in either way, and nothing else does. A name with a byte or character outside ASCII
is that of no command, whatever the arguments. -/
theorem selects_iff_spelled :
    (∀ (verb : Verb) (items : List Frame), verb.Admits items.length →
      (∀ item ∈ items, ∃ bytes, item.IsText bytes) →
      (∀ t : Bytes, Selects verb (.array (.bulk t :: items)) ↔
        t.length = (Utf8.encode verb.name).length ∧ t.map lowerByte = Utf8.encode verb.name) ∧
      ∀ s : String, Selects verb (.array (.simple s :: items)) ↔
        (Utf8.encode s).length = (Utf8.encode verb.name).length ∧
          (Utf8.encode s).map lowerByte = Utf8.encode verb.name) ∧
    (∀ (t : Bytes) (items : List Frame), (∃ b ∈ t, 128 ≤ b.toNat) →
      ofFrame (.array (.bulk t :: items)) =
        .error (.unknownCommand (lowercase (Utf8.decode t)))) ∧
    ∀ (s : String) (items : List Frame), (∃ c ∈ s.toList, 128 ≤ c.toNat) →
      ofFrame (.array (.simple s :: items)) = .error (.unknownCommand (lowercase s)) := by
  refine ⟨fun verb items hcount hitems => ⟨fun t => ?_, fun s => ?_⟩, ?_, ?_⟩
  · rw [selects_iff_names hcount hitems (.bulk t), verb.lowercase_decode_eq_name_iff]
  · rw [selects_iff_names hcount hitems (.simple s), ← verb.lowercase_decode_eq_name_iff,
      Utf8.decode_encode]
  · rintro t items ⟨b, hb, hlarge⟩
    obtain ⟨c, hc, hother⟩ := Utf8.exists_not_plain_decode hb hlarge
    exact ofFrame_of_strange (.bulk t) (exists_strange_lowercase hc hother) items
  · rintro s items ⟨c, hc, hlarge⟩
    have hother : ¬ Plain c := fun hplain => Nat.not_lt.2 hlarge hplain.2
    exact ofFrame_of_strange (.simple s) (exists_strange_lowercase hc hother) items

/-- A name in mixed case selects its command. One with a Kelvin sign, whose lower case is a letter
of ASCII, does not. -/
theorem selects_iff_spelled_kelvin :
    Selects .echo (.array [.bulk [69, 99, 104, 79], .bulk [255]]) ∧
      ofFrame (.array [.simple "\u212A", .simple "x"]) = .error (.unknownCommand "k") := by
  obtain ⟨hselects, -, hother⟩ := selects_iff_spelled
  constructor
  · have hitems : ∀ item ∈ [Frame.bulk [255]], ∃ bytes, item.IsText bytes :=
      List.forall_mem_singleton.2 ⟨_, .bulk [255]⟩
    exact ((hselects .echo [.bulk [255]] rfl hitems).1 [69, 99, 104, 79]).2 (by decide)
  · have hlower : lowercase "\u212A" = "k" := by decide +kernel
    rw [← hlower]
    exact hother "\u212A" [.simple "x"] ⟨'\u212A', by decide, by decide⟩

end Command

end RespStore
