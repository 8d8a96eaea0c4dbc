import RespStore.CommandLine.Reader
import RespStore.Proofs.CommandLine.Documented

set_option autoImplicit false

namespace RespStore.CommandLine

variable {ι : Type} {α : ι → Type}

namespace Declarations

variable (declarations : Declarations ι α)

theorem ofFlag?_flag (i : ι) : declarations.ofFlag? (declarations.declared i).flag = some i := by
  cases h : declarations.ofFlag? (declarations.declared i).flag with
  | none =>
    simpa using List.find?_eq_none.1 h i (declarations.mem_all i)
  | some j =>
    have hflag : (declarations.declared j).flag = (declarations.declared i).flag := by
      simpa using List.find?_some h
    rw [declarations.flag_inj j i hflag]

theorem ofLetter?_letter {i : ι} {letter : Char}
    (hletter : (declarations.declared i).letter = some letter) :
    declarations.ofLetter? letter = some i := by
  cases h : declarations.ofLetter? letter with
  | none =>
    simpa [hletter] using List.find?_eq_none.1 h i (declarations.mem_all i)
  | some j =>
    have hother : (declarations.declared j).letter = some letter := by
      simpa using List.find?_some h
    rw [declarations.letter_inj j i letter hother hletter]

theorem notMem_flag (i : ι) : '=' ∉ (declarations.declared i).flag.toList := by
  intro h
  exact absurd (List.all_eq_true.1 (declarations.flag_plain i).2 '=' h) (by decide)

variable {declarations}

theorem exists_of_refusal? {i : ι} {text : String} {refusal : Refusal}
    (h : declarations.refusal? i text = some refusal) :
    ∃ reason, (declarations.declared i).read text = .error reason := by
  unfold refusal? at h
  split at h
  · cases h
  · exact ⟨_, ‹_›⟩

theorem read_eq_valueOf {i : ι} {text : String} (h : declarations.refusal? i text = none) :
    (declarations.declared i).read text = .ok (declarations.valueOf i text h) := by
  unfold valueOf
  split
  · assumption
  · rename_i reason hread
    simp [refusal?, hread] at h

variable (declarations) in
theorem values_cases (text : ι → String) :
    (∃ values, declarations.values text = .ok values ∧
      ∀ i, (declarations.declared i).read (text i) = .ok (values i)) ∨
    ∃ refusal, declarations.values text = .error refusal ∧
      ∃ i reason, (declarations.declared i).read (text i) = .error reason := by
  unfold values
  split
  · rename_i refusal h
    obtain ⟨i, -, hrefusal⟩ := List.exists_of_findSome?_eq_some h
    exact .inr ⟨refusal, rfl, i, exists_of_refusal? hrefusal⟩
  · exact .inl ⟨_, rfl, fun i => read_eq_valueOf _⟩

end Declarations

variable {declarations : Declarations ι α}

theorem ne_dashes_of_bare {text : String} (hbare : Bare text) : text ≠ "--" := by
  rintro rfl
  exact absurd hbare (by decide)

theorem flag_ne_dashes (i : ι) : "--" ++ (declarations.declared i).flag ≠ "--" := by
  intro h
  have hlength := congrArg String.length h
  rw [String.length_append, Nat.add_eq_left, String.length_eq_zero_iff] at hlength
  have hhead := (declarations.flag_plain i).1
  rw [hlength] at hhead
  exact absurd hhead (by decide)

theorem attached_ne_dashes (flag value : String) : "--" ++ flag ++ "=" ++ value ≠ "--" := by
  intro h
  have hlength := congrArg String.length h
  have hdashes : "--".length = 2 := rfl
  have hequals : "=".length = 1 := rfl
  simp only [String.length_append] at hlength
  omega

theorem short_ne_dashes {i : ι} {letter : Char}
    (hletter : (declarations.declared i).letter = some letter) :
    String.ofList ['-', letter] ≠ "--" := by
  intro h
  have hlist := congrArg String.toList h
  rw [String.toList_ofList] at hlist
  have hplain := declarations.letter_plain i letter hletter
  rw [(List.cons.inj (List.cons.inj hlist).2).1] at hplain
  exact absurd hplain (by decide)

namespace Line

variable [DecidableEq ι] (line : Line ι)

theorem argument_attached (i : ι) (value : String) :
    line.argument declarations ("--" ++ (declarations.declared i).flag ++ "=" ++ value) =
      line.flag declarations i (some value) := by
  have hlist : ("--" ++ (declarations.declared i).flag ++ "=" ++ value).toList =
      '-' :: '-' :: ((declarations.declared i).flag.toList ++ '=' :: value.toList) := by
    simp [String.toList_append]
  simp only [argument, hlist]
  rw [splitFlag_append (declarations.notMem_flag i), long, String.ofList_toList,
    declarations.ofFlag?_flag, String.ofList_toList]

theorem argument_apart (i : ι) :
    line.argument declarations ("--" ++ (declarations.declared i).flag) =
      line.flag declarations i none := by
  have hlist : ("--" ++ (declarations.declared i).flag).toList =
      '-' :: '-' :: (declarations.declared i).flag.toList := by
    simp [String.toList_append]
  simp only [argument, hlist]
  rw [splitFlag_of_notMem (declarations.notMem_flag i), long, String.ofList_toList,
    declarations.ofFlag?_flag]

theorem argument_short {i : ι} {letter : Char}
    (hletter : (declarations.declared i).letter = some letter) :
    line.argument declarations (String.ofList ['-', letter]) = line.flag declarations i none := by
  have hdash : letter ≠ '-' := by
    rintro rfl
    exact short_ne_dashes hletter rfl
  have hshort : line.argument declarations (String.ofList ['-', letter]) =
      line.short declarations letter [] := by
    simp only [argument, String.toList_ofList]
  rw [hshort, short, declarations.ofLetter?_letter hletter]

theorem argument_bare {text : String} (hbare : Bare text) :
    line.argument declarations text = line.plain text := by
  have hdash (cs : List Char) : text.toList ≠ '-' :: cs := by
    intro h
    rw [Bare, h] at hbare
    exact hbare rfl
  rw [argument]
  split
  · rename_i cs h
    exact absurd h (hdash _)
  · rename_i letter rest h
    exact absurd h (hdash _)
  · rfl

theorem read_cons {text : String} (htext : text ≠ "--") (rest : List String) :
    line.read declarations (text :: rest) =
      match line.argument declarations text with
      | .error refusal => .error refusal
      | .ok next => next.read declarations rest := by
  rw [read.eq_def]
  exact if_neg htext

variable {line}

theorem settle_of_supply {next : Line ι} {i : ι} {value : String}
    (h : line.supply declarations i value = .ok next) : next.settle declarations = .ok next := by
  rw [supply] at h
  split at h
  · cases h
  · split at h
    · cases h
    · cases h
      rfl

theorem read_attached (i : ι) (value : String) (rest : List String) :
    line.read declarations
        (("--" ++ (declarations.declared i).flag ++ "=" ++ value) :: rest) =
      match line.settle declarations with
      | .error refusal => .error refusal
      | .ok settled =>
        match settled.supply declarations i value with
        | .error refusal => .error refusal
        | .ok next => next.read declarations rest := by
  rw [read_cons line (attached_ne_dashes _ value), argument_attached, flag]
  cases line.settle declarations <;> rfl

theorem read_apart {i : ι} {name value : String} (hname : name ≠ "--")
    (hflag : line.argument declarations name = line.flag declarations i none)
    (hbare : Bare value) (rest : List String) :
    line.read declarations (name :: value :: rest) =
      match line.settle declarations with
      | .error refusal => .error refusal
      | .ok settled =>
        { settled with waiting := some (i, some value) }.read declarations rest := by
  rw [read_cons line hname, hflag, flag]
  cases line.settle declarations with
  | error refusal => rfl
  | ok settled =>
    simp only
    rw [read_cons _ (ne_dashes_of_bare hbare), argument_bare _ hbare]
    rfl

def supplyAll (declarations : Declarations ι α) (line : Line ι) :
    List (ι × String) → Except Refusal (Line ι)
  | [] => .ok line
  | (i, value) :: rest =>
    match line.supply declarations i value with
    | .error refusal => .error refusal
    | .ok next => next.supplyAll declarations rest

theorem read_arguments (given : List (Given declarations)) (line : Line ι) :
    line.read declarations (given.flatMap Given.arguments) =
      match line.settle declarations with
      | .error refusal => .error refusal
      | .ok settled => settled.supplyAll declarations (given.map Given.assignment) := by
  induction given generalizing line with
  | nil =>
    rw [List.flatMap_nil, read]
    cases line.settle declarations <;> rfl
  | cons first rest ih =>
    rw [List.flatMap_cons]
    cases first with
    | attached i value =>
      rw [Given.arguments, List.singleton_append, read_attached]
      cases line.settle declarations with
      | error refusal => rfl
      | ok settled =>
        simp only [List.map_cons, Given.assignment, supplyAll]
        cases hsupply : settled.supply declarations i value with
        | error refusal => rfl
        | ok next =>
          simp only
          rw [ih next, settle_of_supply hsupply]
    | apart i value hbare =>
      rw [Given.arguments, List.cons_append, List.singleton_append,
        read_apart (flag_ne_dashes i) (line.argument_apart i) hbare]
      cases line.settle declarations with
      | error refusal => rfl
      | ok settled => exact ih _
    | short i letter value hletter hbare =>
      rw [Given.arguments, List.cons_append, List.singleton_append,
        read_apart (short_ne_dashes hletter) (line.argument_short hletter) hbare]
      cases line.settle declarations with
      | error refusal => rfl
      | ok settled => exact ih _

/-- Values for arguments that differ from each other and from those before are kept, unless one of
them cannot be read. -/
theorem supplyAll_cases {assignments given : List (ι × String)}
    (hnodup : (assignments.map Prod.fst).Nodup)
    (hnew : ∀ i ∈ assignments.map Prod.fst, i ∉ given.map Prod.fst) :
    supplyAll declarations ⟨given, none⟩ assignments =
        .ok ⟨assignments.reverse ++ given, none⟩ ∨
      ∃ refusal, supplyAll declarations ⟨given, none⟩ assignments = .error refusal ∧
        ∃ i text reason, (i, text) ∈ assignments ∧
          (declarations.declared i).read text = .error reason := by
  induction assignments generalizing given with
  | nil => exact .inl rfl
  | cons assignment rest ih =>
    obtain ⟨i, text⟩ := assignment
    obtain ⟨hfirst, hrest⟩ := List.nodup_cons.1 hnodup
    rw [supplyAll, supply, if_neg (hnew i List.mem_cons_self)]
    cases hread : declarations.refusal? i text with
    | some refusal =>
      obtain ⟨reason, hreason⟩ := Declarations.exists_of_refusal? hread
      exact .inr ⟨refusal, rfl, i, text, reason, List.mem_cons_self, hreason⟩
    | none =>
      have hlater : ∀ j ∈ rest.map Prod.fst, j ∉ ((i, text) :: given).map Prod.fst := by
        intro j hj hmem
        rcases List.mem_cons.1 hmem with rfl | hmem
        · exact hfirst hj
        · exact hnew j (List.mem_cons_of_mem _ hj) hmem
      rcases ih hrest hlater with hok | ⟨refusal, herror, j, other, reason, hmem, hreason⟩
      · refine .inl ?_
        simp only [hok, List.reverse_cons, List.append_assoc, List.singleton_append]
      · exact .inr ⟨refusal, herror, j, other, reason, List.mem_cons_of_mem _ hmem, hreason⟩

end Line

namespace Invocation

variable [DecidableEq ι] (invocation : Invocation declarations) {i : ι}

def text (i : ι) : String :=
  Line.text declarations ⟨invocation.assignments.reverse, none⟩ invocation.environment i

theorem text_of_line {text : String} (hline : (i, text) ∈ invocation.assignments) :
    invocation.text i = text := by
  have hnodup : (invocation.assignments.reverse.map Prod.fst).Nodup :=
    ((List.reverse_perm _).map Prod.fst).nodup_iff.2 invocation.nodup_assignments
  rw [Invocation.text, Line.text, (lookup_eq_some_iff_mem hnodup).2 (List.mem_reverse.2 hline)]

theorem lookup_reverse (hline : i ∉ invocation.assignments.map Prod.fst) :
    invocation.assignments.reverse.lookup i = none := by
  rw [lookup_eq_none_iff_notMem, List.map_reverse, List.mem_reverse]
  exact hline

theorem text_of_variable {text : String} (hline : i ∉ invocation.assignments.map Prod.fst)
    (hvariable : invocation.exported i = some text) : invocation.text i = text := by
  rw [exported] at hvariable
  simp only [Invocation.text, Line.text, invocation.lookup_reverse hline, hvariable]

theorem text_of_default (hline : i ∉ invocation.assignments.map Prod.fst)
    (hvariable : invocation.exported i = none) :
    invocation.text i = (declarations.declared i).defaultText := by
  rw [exported] at hvariable
  simp only [Invocation.text, Line.text, invocation.lookup_reverse hline, hvariable]

theorem text_cases (i : ι) :
    (i, invocation.text i) ∈ invocation.assignments ∨
      i ∉ invocation.assignments.map Prod.fst ∧
        invocation.exported i = some (invocation.text i) ∨
      i ∉ invocation.assignments.map Prod.fst ∧ invocation.exported i = none ∧
        invocation.text i = (declarations.declared i).defaultText := by
  by_cases hline : i ∈ invocation.assignments.map Prod.fst
  · obtain ⟨⟨_, text⟩, hmem, rfl⟩ := List.mem_map.1 hline
    rw [invocation.text_of_line hmem]
    exact .inl hmem
  · cases hvariable : invocation.exported i with
    | some text =>
      rw [invocation.text_of_variable hline hvariable]
      exact .inr (.inl ⟨hline, rfl⟩)
    | none =>
      exact .inr (.inr ⟨hline, rfl, invocation.text_of_default hline hvariable⟩)

end Invocation

variable [DecidableEq ι] (invocation : Invocation declarations)

theorem reader_outcome :
    reader.outcome invocation =
      match Line.supplyAll declarations ⟨[], none⟩ invocation.assignments with
      | .error refusal => .error refusal
      | .ok line => declarations.values (line.text declarations invocation.environment) := by
  have hstart : Line.start.settle declarations = .ok Line.start := rfl
  simp only [Library.outcome, reader, Invocation.arguments, Line.read_arguments, hstart]
  rfl

theorem reader_cases :
    (∃ values, reader.outcome invocation = .ok values ∧
      ∀ i, (declarations.declared i).read (invocation.text i) = .ok (values i)) ∨
    ∃ refusal, reader.outcome invocation = .error refusal ∧
      ∃ i reason, (declarations.declared i).read (invocation.text i) = .error reason := by
  have hnew : ∀ i ∈ invocation.assignments.map Prod.fst,
      i ∉ ([] : List (ι × String)).map Prod.fst := fun _ _ => List.not_mem_nil
  rw [reader_outcome]
  rcases Line.supplyAll_cases invocation.nodup_assignments hnew with
    hsettled | ⟨refusal, herror, i, text, reason, hmem, hreason⟩
  · rw [hsettled, List.append_nil]
    exact declarations.values_cases invocation.text
  · rw [herror]
    refine .inr ⟨refusal, rfl, i, reason, ?_⟩
    rw [invocation.text_of_line hmem]
    exact hreason

theorem reader_documented : reader.Documented := by
  intro ι _ α declarations invocation
  rcases reader_cases invocation with
    ⟨values, hvalues, heach⟩ | ⟨refusal, herror, i, reason, hreason⟩
  · rw [hvalues]
    refine ⟨?_, ?_, ?_, nofun⟩
    · rintro _ ⟨⟩ i text hline
      rw [← invocation.text_of_line hline]
      exact heach i
    · rintro _ ⟨⟩ i text hline hvariable
      rw [← invocation.text_of_variable hline hvariable]
      exact heach i
    · rintro _ ⟨⟩ i hline hvariable
      rw [← invocation.text_of_default hline hvariable]
      exact heach i
  · rw [herror]
    exact ⟨nofun, nofun, nofun,
      fun _ _ => ⟨i, _, reason, hreason, invocation.text_cases i⟩⟩

end RespStore.CommandLine
