set_option autoImplicit false

/-!
# Command lines

What a program declares about its arguments, and what a library makes of it. Where the value of an
argument comes from is the library's to say; a program only declares.
-/

namespace RespStore.CommandLine

/-- An argument with a value, as a program declares it. Its value is read from a text, and a text
that cannot be read is refused for a reason. -/
structure Declared (α : Type) where
  flag : String
  letter : Option Char
  placeholder : String
  variableName : String
  defaultText : String
  read : String → Except String α

/-- The flag and what stands for its value in messages. -/
def Declared.usage {α : Type} (declared : Declared α) : String :=
  "--" ++ declared.flag ++ " <" ++ declared.placeholder ++ ">"

/-- The arguments of a program. Their flags and letters are told apart from each other and from
those for the help and version texts. -/
structure Declarations (ι : Type) (α : ι → Type) where
  all : List ι
  declared : (i : ι) → Declared (α i)
  mem_all : ∀ i, i ∈ all
  flag_inj : ∀ i j, (declared i).flag = (declared j).flag → i = j
  flag_plain : ∀ i, (declared i).flag.toList.head?.any Char.isAlphanum ∧
    (declared i).flag.toList.all fun c => c.isAlphanum || c = '-'
  flag_free : ∀ i, (declared i).flag ≠ "help" ∧ (declared i).flag ≠ "version"
  letter_inj : ∀ i j c, (declared i).letter = some c → (declared j).letter = some c → i = j
  letter_plain : ∀ i c, (declared i).letter = some c → c.isAlpha
  letter_free : ∀ i, (declared i).letter ≠ some 'h' ∧ (declared i).letter ≠ some 'V'

/-- Code that reads the arguments after the name of a program, with the environment that the program
runs in. It gives a value for each declared argument or refuses the line. -/
structure Library (ρ : Type) where
  parse : {ι : Type} → [DecidableEq ι] → {α : ι → Type} → Declarations ι α → List String →
    (String → Option String) → Except ρ ((i : ι) → α i)

end RespStore.CommandLine
