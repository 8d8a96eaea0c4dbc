import RespStore.CommandLine.Basic
import RespStore.Text.Terminal

/-!
# Reading a command line

A library to run a program with. The value of a flag is settled when the next known flag begins or
the line ends; an argument that has no place on the line is refused before that.
-/

set_option autoImplicit false

namespace RespStore.CommandLine

open Text

/-- Why no values came out of a command line. The first two were asked for. -/
inductive Refusal where
  | help
  | version
  | unexpectedArgument (argument : String)
  | unexpectedValue (flag value : String)
  | missingValue (usage : String)
  | repeated (usage : String)
  | invalidValue (usage value reason : String)
  deriving DecidableEq, Repr

/-- Texts from the line and the environment are shown without control sequences. -/
def Refusal.message : Refusal → String
  | .help => ""
  | .version => "respkv 0.1.0"
  | .unexpectedArgument argument =>
    "error: unexpected argument '" ++ Terminal.plain argument ++ "' found"
  | .unexpectedValue flag value =>
    "error: unexpected value '" ++ Terminal.plain value ++ "' for '" ++ flag ++
      "' found; no more were expected"
  | .missingValue usage => "error: a value is required for '" ++ usage ++ "' but none was supplied"
  | .repeated usage => "error: the argument '" ++ usage ++ "' cannot be used multiple times"
  | .invalidValue usage value reason =>
    "error: invalid value '" ++ Terminal.plain value ++ "' for '" ++ usage ++ "': " ++ reason

/-- The message up to the first line break, which a text in it may hold. -/
def Refusal.headline (refusal : Refusal) : String :=
  Terminal.firstLine refusal.message

variable {ι : Type} {α : ι → Type}

namespace Declarations

def ofFlag? (declarations : Declarations ι α) (flag : String) : Option ι :=
  declarations.all.find? fun i => (declarations.declared i).flag = flag

def ofLetter? (declarations : Declarations ι α) (letter : Char) : Option ι :=
  declarations.all.find? fun i => (declarations.declared i).letter = some letter

variable (declarations : Declarations ι α)

def refusal? (i : ι) (text : String) : Option Refusal :=
  match (declarations.declared i).read text with
  | .ok _ => none
  | .error reason => some (.invalidValue (declarations.declared i).usage text reason)

def valueOf (i : ι) (text : String) (h : declarations.refusal? i text = none) : α i :=
  match hread : (declarations.declared i).read text with
  | .ok value => value
  | .error reason => absurd h (by simp [refusal?, hread])

def values (text : ι → String) : Except Refusal ((i : ι) → α i) :=
  match h : declarations.all.findSome? fun i => declarations.refusal? i (text i) with
  | some refusal => .error refusal
  | none => .ok fun i =>
      declarations.valueOf i (text i) (List.findSome?_eq_none_iff.1 h i (declarations.mem_all i))

end Declarations

/-- A command line as far as it is read: the values whose flags are settled, and the flag that is
not, with its value if that was on the line. -/
structure Line (ι : Type) where
  given : List (ι × String)
  waiting : Option (ι × Option String)

namespace Line

def start : Line ι := ⟨[], none⟩

variable [DecidableEq ι] (declarations : Declarations ι α)

def supply (line : Line ι) (i : ι) (value : String) : Except Refusal (Line ι) :=
  if i ∈ line.given.map Prod.fst then .error (.repeated (declarations.declared i).usage)
  else
    match declarations.refusal? i value with
    | some refusal => .error refusal
    | none => .ok ⟨(i, value) :: line.given, none⟩

def settle (line : Line ι) : Except Refusal (Line ι) :=
  match line.waiting with
  | none => .ok line
  | some (i, none) => .error (.missingValue (declarations.declared i).usage)
  | some (i, some value) => line.supply declarations i value

def flag (line : Line ι) (i : ι) (attached : Option String) : Except Refusal (Line ι) :=
  match line.settle declarations with
  | .error refusal => .error refusal
  | .ok line =>
    match attached with
    | some value => line.supply declarations i value
    | none => .ok { line with waiting := some (i, none) }

/-- A request for the help or version text, once the flag before it is settled. -/
def request (line : Line ι) (refusal : Refusal) : Except Refusal (Line ι) :=
  match line.settle declarations with
  | .error earlier => .error earlier
  | .ok _ => .error refusal

def long (line : Line ι) (name : String) (attached : Option String) : Except Refusal (Line ι) :=
  match declarations.ofFlag? name with
  | some i => line.flag declarations i attached
  | none =>
    if name = "help" ∨ name = "version" then
      match attached with
      | some value => .error (.unexpectedValue ("--" ++ name) value)
      | none => line.request declarations (if name = "help" then .help else .version)
    else .error (.unexpectedArgument ("--" ++ name))

/-- A short flag and the characters after it. One equals sign before a value is dropped. -/
def short (line : Line ι) (letter : Char) (rest : List Char) : Except Refusal (Line ι) :=
  match declarations.ofLetter? letter with
  | some i =>
    match rest with
    | [] => line.flag declarations i none
    | '=' :: value => line.flag declarations i (some (String.ofList value))
    | value => line.flag declarations i (some (String.ofList value))
  | none =>
    if letter = 'h' then line.request declarations .help
    else if letter = 'V' then line.request declarations .version
    else .error (.unexpectedArgument (String.ofList ['-', letter]))

/-- An argument that is no flag: the value that a flag waits for, or out of place. -/
def plain (line : Line ι) (argument : String) : Except Refusal (Line ι) :=
  match line.waiting with
  | some (i, none) => .ok { line with waiting := some (i, some argument) }
  | _ => .error (.unexpectedArgument argument)

def splitFlag (cs : List Char) : String × Option String :=
  match cs.dropWhile (· ≠ '=') with
  | [] => (String.ofList cs, none)
  | _ :: value => (String.ofList (cs.takeWhile (· ≠ '=')), some (String.ofList value))

theorem splitFlag_of_notMem {name : List Char} (h : '=' ∉ name) :
    splitFlag name = (String.ofList name, none) := by
  have hname : ∀ c ∈ name, decide (c ≠ '=') = true := fun c hc =>
    decide_eq_true fun e => h (e ▸ hc)
  have hdrop : (name ++ []).dropWhile (· ≠ '=') = [] := List.dropWhile_append_of_pos hname
  rw [List.append_nil] at hdrop
  rw [splitFlag, hdrop]

theorem splitFlag_append {name : List Char} (h : '=' ∉ name) (value : List Char) :
    splitFlag (name ++ '=' :: value) = (String.ofList name, some (String.ofList value)) := by
  have hname : ∀ c ∈ name, decide (c ≠ '=') = true := fun c hc =>
    decide_eq_true fun e => h (e ▸ hc)
  simp only [splitFlag, List.dropWhile_append_of_pos hname, List.takeWhile_append_of_pos hname]
  simp

def argument (line : Line ι) (text : String) : Except Refusal (Line ι) :=
  match text.toList with
  | '-' :: '-' :: cs => line.long declarations (splitFlag cs).1 (splitFlag cs).2
  | '-' :: letter :: rest => line.short declarations letter rest
  | _ => line.plain text

/-- Reads the arguments. After two dashes alone none may follow. -/
def read (line : Line ι) : List String → Except Refusal (Line ι)
  | [] => line.settle declarations
  | text :: rest =>
    if text = "--" then
      match rest with
      | [] => line.settle declarations
      | extra :: _ => .error (.unexpectedArgument extra)
    else
      match line.argument declarations text with
      | .error refusal => .error refusal
      | .ok next => next.read rest

def text (line : Line ι) (environment : String → Option String) (i : ι) : String :=
  match line.given.lookup i with
  | some value => value
  | none =>
    match environment (declarations.declared i).variableName with
    | some value => value
    | none => (declarations.declared i).defaultText

end Line

def reader : Library Refusal where
  parse declarations arguments environment :=
    match Line.start.read declarations arguments with
    | .error refusal => .error refusal
    | .ok line => declarations.values (line.text declarations environment)

end RespStore.CommandLine
