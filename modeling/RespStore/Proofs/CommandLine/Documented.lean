import RespStore.CommandLine.Basic

set_option autoImplicit false

namespace RespStore.CommandLine

variable {ι : Type} {α : ι → Type}

def Bare (text : String) : Prop := text.toList.head? ≠ some '-'

instance (text : String) : Decidable (Bare text) :=
  inferInstanceAs (Decidable (text.toList.head? ≠ some '-'))

/-- An argument on the line: `--flag=value`, `--flag value` or, with its letter, `-l value`. -/
inductive Given (declarations : Declarations ι α) where
  | attached (i : ι) (value : String)
  | apart (i : ι) (value : String) (hbare : Bare value)
  | short (i : ι) (letter : Char) (value : String)
      (hletter : (declarations.declared i).letter = some letter) (hbare : Bare value)

namespace Given

variable {declarations : Declarations ι α}

def arguments : Given declarations → List String
  | attached i value => ["--" ++ (declarations.declared i).flag ++ "=" ++ value]
  | apart i value _ => ["--" ++ (declarations.declared i).flag, value]
  | short _ letter value _ _ => [String.ofList ['-', letter], value]

def assignment : Given declarations → ι × String
  | attached i value | apart i value _ | short i _ value _ _ => (i, value)

def key (given : Given declarations) : ι := given.assignment.1

end Given

structure Invocation (declarations : Declarations ι α) where
  line : List (Given declarations)
  environment : String → Option String
  once : (line.map Given.key).Nodup

namespace Invocation

variable {declarations : Declarations ι α} (invocation : Invocation declarations)

def arguments : List String := invocation.line.flatMap Given.arguments

def assignments : List (ι × String) := invocation.line.map Given.assignment

def exported (i : ι) : Option String :=
  invocation.environment (declarations.declared i).variableName

theorem nodup_assignments : (invocation.assignments.map Prod.fst).Nodup := by
  rw [assignments, List.map_map]
  exact invocation.once

end Invocation

theorem lookup_eq_some_iff_mem [DecidableEq ι] {assignments : List (ι × String)}
    (hnodup : (assignments.map Prod.fst).Nodup) {i : ι} {text : String} :
    assignments.lookup i = some text ↔ (i, text) ∈ assignments := by
  induction assignments with
  | nil => simp
  | cons assignment rest ih =>
    obtain ⟨first, other⟩ := assignment
    obtain ⟨hnew, hrest⟩ := List.nodup_cons.1 hnodup
    by_cases hfirst : i = first
    · subst hfirst
      have hlater : (i, text) ∉ rest := fun hmem =>
        hnew (List.mem_map_of_mem hmem : (i, text).1 ∈ rest.map Prod.fst)
      simp [List.lookup_cons_self, hlater, eq_comm]
    · have hskip : ((first, other) :: rest).lookup i = rest.lookup i := by
        rw [List.lookup_cons, beq_eq_false_iff_ne.2 hfirst]
      rw [hskip, ih hrest]
      simp [hfirst]

theorem lookup_eq_none_iff_notMem [DecidableEq ι] {assignments : List (ι × String)} {i : ι} :
    assignments.lookup i = none ↔ i ∉ assignments.map Prod.fst := by
  rw [List.lookup_eq_none_iff, List.mem_map]
  constructor
  · rintro h ⟨assignment, hmem, rfl⟩
    simpa using h assignment hmem
  · intro h assignment hmem
    have hne : i ≠ assignment.1 := fun heq => h ⟨assignment, hmem, heq.symm⟩
    simpa using hne

variable {ρ : Type}

/-- The documented handling of a line of known flags. A value comes from the line; without one, from
the variable; without either, from the default. The line is refused for no other reason than that
one of these texts cannot be read. -/
structure Answers {declarations : Declarations ι α} (invocation : Invocation declarations)
    (outcome : Except ρ ((i : ι) → α i)) : Prop where
  fromLine : ∀ values, outcome = .ok values → ∀ i text, (i, text) ∈ invocation.assignments →
    (declarations.declared i).read text = .ok (values i)
  fromVariable : ∀ values, outcome = .ok values → ∀ i text,
    i ∉ invocation.assignments.map Prod.fst → invocation.exported i = some text →
    (declarations.declared i).read text = .ok (values i)
  fromDefault : ∀ values, outcome = .ok values → ∀ i,
    i ∉ invocation.assignments.map Prod.fst → invocation.exported i = none →
    (declarations.declared i).read (declarations.declared i).defaultText = .ok (values i)
  refused : ∀ refusal, outcome = .error refusal → ∃ i text reason,
    (declarations.declared i).read text = .error reason ∧
      ((i, text) ∈ invocation.assignments ∨
        i ∉ invocation.assignments.map Prod.fst ∧ invocation.exported i = some text ∨
        i ∉ invocation.assignments.map Prod.fst ∧ invocation.exported i = none ∧
          text = (declarations.declared i).defaultText)

def Library.outcome [DecidableEq ι] (library : Library ρ) {declarations : Declarations ι α}
    (invocation : Invocation declarations) : Except ρ ((i : ι) → α i) :=
  library.parse declarations invocation.arguments invocation.environment

def Library.Documented (library : Library ρ) : Prop :=
  ∀ {ι : Type} [DecidableEq ι] {α : ι → Type} {declarations : Declarations ι α}
    (invocation : Invocation declarations), Answers invocation (library.outcome invocation)

end RespStore.CommandLine
