/-!
# Text for a terminal

A text from outside may hold control sequences. What is shown of it has none: a sequence is left out
from its escape character to its last one, and if it never ends to the end of the text; so are
control characters other than white space. `Terminal.plain` treats one text at a time, so a sequence
that is left open hides nothing that follows the text. `plain_plain` says that nothing in what is
shown is left out in turn.
-/

set_option autoImplicit false

namespace RespStore.Text.Terminal

/-- Where in a control sequence the next character stands: after the escape character, in a short
sequence, in one with parameters, in an operating system command, in the head of a device control
string, or in a string that only a terminator ends. -/
inductive State where
  | ground
  | escape
  | intermediate
  | control
  | command
  | device
  | deviceParameter
  | deviceIntermediate
  | string
  deriving DecidableEq, Repr

def isBlankControl (c : Char) : Bool :=
  c = '\t' || c = '\n' || c = '\x0c' || c = '\r'

/-- Whether a character is ever shown. -/
def isShowable (c : Char) : Bool :=
  isBlankControl c || (0x20 ≤ c.toNat && c.toNat ≠ 0x7F)

/-- The byte that ends a string. It does so inside of a character too. -/
def terminator : UInt8 := 0x9C

def afterEscape (c : Char) : State :=
  if c.toNat ≤ 0x2F then .intermediate
  else if c = '[' then .control
  else if c = ']' then .command
  else if c = 'P' then .device
  else if c = 'X' ∨ c = '^' ∨ c = '_' then .string
  else .ground

/-- In the head of a device control string, of which nothing is shown. A letter ends the head, and
so does a parameter out of place. -/
def afterDevice (state : State) (c : Char) : State :=
  if c.toNat < 0x20 ∨ c.toNat = 0x7F then state
  else if 0x40 ≤ c.toNat then .string
  else if c.toNat ≤ 0x2F then .deviceIntermediate
  else if state = .device ∨ (state = .deviceParameter ∧ c.toNat ≤ 0x3B) then .deviceParameter
  else .string

/-- In a sequence that is no string: the state after a printable character. -/
def afterSequence (state : State) (c : Char) : State :=
  match state with
  | .escape => afterEscape c
  | .intermediate => if c.toNat ≤ 0x2F then .intermediate else .ground
  | .control => if c.toNat ≤ 0x3F then .control else .ground
  | state => state

def stepWide (state : State) (c : Char) : State × Bool :=
  match state with
  | .ground => (.ground, true)
  | .string =>
    (if (String.utf8EncodeChar c).contains terminator then .ground else .string, false)
  | state => (state, false)

def step (state : State) (c : Char) : State × Bool :=
  if c = '\x1b' then (.escape, false)
  else if c = '\x18' ∨ c = '\x1a' then (.ground, false)
  else if 0x80 ≤ c.toNat then stepWide state c
  else
    match state with
    | .ground => (.ground, isShowable c)
    | .command => (if c = '\x07' then .ground else .command, false)
    | .string => (.string, false)
    | .device => (afterDevice .device c, false)
    | .deviceParameter => (afterDevice .deviceParameter c, false)
    | .deviceIntermediate => (afterDevice .deviceIntermediate c, false)
    | state =>
      if isBlankControl c then (.ground, true)
      else if c.toNat < 0x20 ∨ c.toNat = 0x7F then (state, false)
      else (afterSequence state c, false)

/-- The characters that are shown, after those in `done`, latest first. -/
def plainAfter (done : List Char) (state : State) : List Char → List Char
  | [] => done.reverse
  | c :: rest =>
    match step state c with
    | (next, true) => plainAfter (c :: done) next rest
    | (next, false) => plainAfter done next rest

def plain (text : String) : String :=
  String.ofList (plainAfter [] .ground text.toList)

/-- Where no sequence is open, a character that is ever shown is shown. -/
theorem step_ground {c : Char} (h : isShowable c = true) : step .ground c = (.ground, true) := by
  have hc (d : Char) (hd : isShowable d = false) : c ≠ d := by
    rintro rfl
    rw [h] at hd
    cases hd
  have hcancel : ¬(c = '\x18' ∨ c = '\x1a') := by
    simp [hc '\x18' (by decide), hc '\x1a' (by decide)]
  rw [step, if_neg (hc '\x1b' (by decide)), if_neg hcancel]
  split
  · rfl
  · rw [h]

theorem isShowable_of_step {state next : State} {c : Char} (h : step state c = (next, true)) :
    isShowable c = true := by
  cases state <;> grind [step, stepWide, isShowable]

theorem plainAfter_of_isShowable {cs : List Char} (h : ∀ c ∈ cs, isShowable c = true)
    (done : List Char) : plainAfter done .ground cs = done.reverse ++ cs := by
  induction cs generalizing done with
  | nil => simp [plainAfter]
  | cons c rest ih =>
    rw [List.forall_mem_cons] at h
    simp [plainAfter, step_ground h.1, ih h.2]

theorem isShowable_of_mem_plainAfter {done cs : List Char} {state : State}
    (h : ∀ c ∈ done, isShowable c = true) :
    ∀ c ∈ plainAfter done state cs, isShowable c = true := by
  fun_induction plainAfter done state cs with
  | case1 => simpa using h
  | case2 done state c rest next hstep ih =>
    exact ih (List.forall_mem_cons.2 ⟨isShowable_of_step hstep, h⟩)
  | case3 done state c rest next hstep ih => exact ih h

theorem plain_plain (text : String) : plain (plain text) = plain text := by
  have h : ∀ c ∈ plainAfter [] .ground text.toList, isShowable c = true :=
    isShowable_of_mem_plainAfter (by simp)
  simp [plain, plainAfter_of_isShowable h]

/-- The characters before a line end, latest first, without the CR of a CR LF pair. -/
def dropReturn : List Char → List Char
  | '\r' :: rest => rest
  | cs => cs

def firstLineAfter (done : List Char) : List Char → List Char
  | [] => done.reverse
  | c :: rest => if c = '\n' then (dropReturn done).reverse else firstLineAfter (c :: done) rest

def firstLine (text : String) : String :=
  String.ofList (firstLineAfter [] text.toList)

end RespStore.Text.Terminal
