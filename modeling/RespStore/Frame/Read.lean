import RespStore.Frame.Token

/-!
# Reading frames

A frame is read token by token. Arrays that are not complete yet are kept as levels, the innermost
first, so that neither long nor deep arrays need more than this list. The depth of a frame is
checked before its first byte is asked for. `Frame.length_of_read` says that a frame takes at least
three bytes, so reading a whole stream ends.
-/

set_option autoImplicit false

namespace RespStore

/-- An array being read: how many items come after the current one, and the items before it,
latest first. -/
structure Level where
  later : Nat
  before : List Frame

/-- How far reading has come: a whole frame, or inside of arrays. -/
inductive Progress where
  | whole (frame : Frame)
  | within (levels : List Level)

namespace Progress

/-- Puts a frame where the innermost array expects one, and closes the arrays that it completes. -/
def settle (frame : Frame) : List Level → Progress
  | [] => .whole frame
  | ⟨0, before⟩ :: outer => settle (.array (frame :: before).reverse) outer
  | ⟨later + 1, before⟩ :: outer => .within (⟨later, frame :: before⟩ :: outer)

/-- Takes a token inside of `levels`. An array without items is complete at once. -/
def advance (token : Token) (levels : List Level) : Progress :=
  match token with
  | .leaf frame => settle frame levels
  | .array 0 => settle (.array []) levels
  | .array (later + 1) => .within (⟨later, []⟩ :: levels)

end Progress

namespace Frame

/-- Reads on inside of `levels`, the outermost of which is at `depth`. -/
def readWithin (limits : Limits) (depth : Nat) (levels : List Level) (s : Bytes) :
    Except ReadError (Frame × Bytes) :=
  if limits.maxDepth.toNat < depth + levels.length then
    .error (.malformed (.tooDeep limits.maxDepth))
  else
    match _h : Token.read limits s with
    | .error fault => .error fault
    | .ok (token, rest) =>
      match Progress.advance token levels with
      | .whole frame => .ok (frame, rest)
      | .within levels => readWithin limits depth levels rest
termination_by s.length
decreasing_by have := Token.length_of_read _h; omega

def read (limits : Limits) (depth : Nat) (s : Bytes) : Except ReadError (Frame × Bytes) :=
  readWithin limits depth [] s

def readAt (limits : Limits) (depth : Nat) (data : Bytes) (position : Nat) :
    Except ReadError (Frame × Nat) :=
  match read limits depth (data.drop position) with
  | .error fault => .error fault
  | .ok (frame, rest) => .ok (frame, data.length - rest.length)

theorem length_of_readWithin {limits : Limits} {depth : Nat} {levels : List Level}
    {s rest : Bytes} {frame : Frame} (h : readWithin limits depth levels s = .ok (frame, rest)) :
    rest.length + 3 ≤ s.length := by
  fun_induction readWithin limits depth levels s with
  | case1 => simp at h
  | case2 => simp at h
  | case3 levels s hdepth token after htoken frame' hwhole =>
    cases h
    exact Token.length_of_read htoken
  | case4 levels s hdepth token after htoken levels' hwithin ih =>
    have := Token.length_of_read htoken
    have := ih h
    omega

theorem length_of_read {limits : Limits} {depth : Nat} {s rest : Bytes} {frame : Frame}
    (h : read limits depth s = .ok (frame, rest)) : rest.length + 3 ≤ s.length :=
  length_of_readWithin h

/-- Reads frames to the end or to one that is cut short, and gives the bytes left over. `done`
holds the frames before, latest first. -/
def readAllAfter (limits : Limits) (done : List Frame) (s : Bytes) :
    Except Malformed (List Frame × Bytes) :=
  match _h : read limits 0 s with
  | .ok (frame, rest) => readAllAfter limits (frame :: done) rest
  | .error .incomplete => .ok (done.reverse, s)
  | .error (.malformed cause) => .error cause
termination_by s.length
decreasing_by have := length_of_read _h; omega

/-- The frames that `s` holds, and what is left of it. One malformed frame fails them all. -/
def readAll (limits : Limits) (s : Bytes) : Except Malformed (List Frame × Bytes) :=
  readAllAfter limits [] s

end Frame

end RespStore
