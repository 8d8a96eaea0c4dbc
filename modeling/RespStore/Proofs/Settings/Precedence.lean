import RespStore.Proofs.CommandLine.Reader
import RespStore.Proofs.Settings.Values

/-!
# Where a setting comes from

A field is read from its flag, else from its environment variable, else from its default
(`parse_precedence`). That a value on the line comes before one in the environment and so on is
documented of the library that reads the line; the flags, variables and defaults are the program's.
-/

set_option autoImplicit false

namespace RespStore

namespace Settings

open CommandLine (Invocation Library)

def source (invocation : Invocation declarations) (field : Field) : Option String :=
  (invocation.assignments.lookup field).or (invocation.environment field.variableName)

/-- Every field has the value that its source writes, or its default if it has no source. -/
def Chosen (invocation : Invocation declarations) (settings : Settings) : Prop :=
  ∀ field, match source invocation field with
    | some text => field.Writes text (settings.value field)
    | none => settings.value field = standard.value field

variable {invocation : Invocation declarations} {field : Field} {text : String}

theorem source_of_line (hline : (field, text) ∈ invocation.assignments) :
    source invocation field = some text := by
  rw [source, (CommandLine.lookup_eq_some_iff_mem invocation.nodup_assignments).2 hline]
  rfl

theorem source_of_notMem (hline : field ∉ invocation.assignments.map Prod.fst) :
    source invocation field = invocation.exported field := by
  rw [source, CommandLine.lookup_eq_none_iff_notMem.2 hline]
  rfl

variable {ρ : Type} {library : Library ρ} {settings : Settings}

theorem chosen_of_outcome (documented : library.Documented)
    {values : (field : Field) → field.Carrier} (h : library.outcome invocation = .ok values) :
    Chosen invocation (ofValues values) := by
  intro field
  rw [value_ofValues]
  by_cases hline : field ∈ invocation.assignments.map Prod.fst
  · obtain ⟨⟨_, text⟩, hmem, rfl⟩ := List.mem_map.1 hline
    rw [source_of_line hmem]
    exact Field.read_eq_ok_iff.1 ((documented invocation).fromLine values h _ _ hmem)
  · rw [source_of_notMem hline]
    cases hvariable : invocation.exported field with
    | some text =>
      exact Field.read_eq_ok_iff.1
        ((documented invocation).fromVariable values h field text hline hvariable)
    | none =>
      have hdefault := (documented invocation).fromDefault values h field hline hvariable
      exact (Field.read_eq_ok_iff.1 hdefault).unique field.writes_defaultText

theorem exists_source_of_refused (documented : library.Documented) {refusal : ρ}
    (h : library.outcome invocation = .error refusal) :
    ∃ field, ∃ text ∈ source invocation field, ¬ field.Accepts text := by
  obtain ⟨field, text, reason, hread, hline | ⟨hline, hvariable⟩ | ⟨hline, -, rfl⟩⟩ :=
    (documented invocation).refused refusal h
  · exact ⟨field, text, source_of_line hline, Field.not_accepts_of_read hread⟩
  · rw [← source_of_notMem hline] at hvariable
    exact ⟨field, text, hvariable, Field.not_accepts_of_read hread⟩
  · exact absurd ⟨_, field.writes_defaultText⟩ (Field.not_accepts_of_read hread)

theorem parseWith_eq :
    parseWith library invocation.arguments invocation.environment =
      (library.outcome invocation).map ofValues :=
  rfl

theorem parse_cases (documented : library.Documented) (invocation : Invocation declarations) :
    (∃ settings, parseWith library invocation.arguments invocation.environment = .ok settings ∧
      Chosen invocation settings) ∨
    ∃ refusal, parseWith library invocation.arguments invocation.environment = .error refusal ∧
      ∃ field, ∃ text ∈ source invocation field, ¬ field.Accepts text := by
  rw [parseWith_eq]
  cases h : library.outcome invocation with
  | ok values => exact .inl ⟨_, rfl, chosen_of_outcome documented h⟩
  | error refusal => exact .inr ⟨refusal, rfl, exists_source_of_refused documented h⟩

theorem Chosen.accepts (h : Chosen invocation settings)
    (hsource : source invocation field = some text) : field.Accepts text := by
  have hfield := h field
  rw [hsource] at hfield
  exact ⟨_, hfield⟩

theorem chosen_of_parse (documented : library.Documented)
    (h : parseWith library invocation.arguments invocation.environment = .ok settings) :
    Chosen invocation settings := by
  rcases parse_cases documented invocation with ⟨last, hlast, hchosen⟩ | ⟨_, hrefusal, -⟩
  · rw [h] at hlast
    cases hlast
    exact hchosen
  · rw [h] at hrefusal
    cases hrefusal

theorem Chosen.value_eq {other : Invocation declarations} {later : Settings}
    (h : Chosen invocation settings) (hother : Chosen other later)
    (hsource : source invocation field = source other field) :
    settings.value field = later.value field := by
  have hfield := h field
  have hagain := hother field
  rw [← hsource] at hagain
  cases hgiven : source invocation field with
  | some text =>
    rw [hgiven] at hfield hagain
    exact hfield.unique hagain
  | none =>
    rw [hgiven] at hfield hagain
    exact hfield.trans hagain.symm

def twoVariables (name : String) : Option String :=
  if name = "RESPKV_MAX_DEPTH" then some "deep"
  else if name = "RESPKV_MAX_BULK_LEN" then some "18446744073709551615"
  else none

def threeFlags : Invocation declarations where
  line := [.apart .maxDepth "8" (by decide), .short .address 'a' "0.0.0.0:7000" rfl (by decide),
    .attached .readBuffer "+0512"]
  environment := twoVariables
  once := by decide

def noFlags : Invocation declarations where
  line := []
  environment := twoVariables
  once := .nil

end Settings

end RespStore
