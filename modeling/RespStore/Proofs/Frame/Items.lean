import RespStore.Frame.Read

set_option autoImplicit false

namespace RespStore

namespace Progress

theorem settle_append (frame : Frame) (inner outer : List Level) :
    settle frame (inner ++ outer) =
      match settle frame inner with
      | .whole frame => settle frame outer
      | .within levels => .within (levels ++ outer) := by
  fun_induction settle frame inner with
  | case1 => rfl
  | case2 frame before inner ih => exact ih
  | case3 => rfl

theorem advance_append (token : Token) (inner outer : List Level) :
    advance token (inner ++ outer) =
      match advance token inner with
      | .whole frame => settle frame outer
      | .within levels => .within (levels ++ outer) := by
  cases token with
  | leaf frame => exact settle_append frame inner outer
  | array count =>
    cases count with
    | zero => exact settle_append (.array []) inner outer
    | succ later => rfl

end Progress

namespace Frame

theorem readWithin_eq (limits : Limits) (depth : Nat) (levels : List Level) (s : Bytes) :
    readWithin limits depth levels s =
      if limits.maxDepth.toNat < depth + levels.length then
        .error (.malformed (.tooDeep limits.maxDepth))
      else
        match Token.read limits s with
        | .error fault => .error fault
        | .ok (token, rest) =>
          match Progress.advance token levels with
          | .whole frame => .ok (frame, rest)
          | .within levels => readWithin limits depth levels rest := by
  rw [readWithin]
  split
  · rfl
  · split <;> rename_i htoken <;> rewrite [htoken] <;> rfl

def resume (limits : Limits) (depth : Nat) (levels : List Level) (frame : Frame) (rest : Bytes) :
    Except ReadError (Frame × Bytes) :=
  match Progress.settle frame levels with
  | .whole frame => .ok (frame, rest)
  | .within levels => readWithin limits depth levels rest

def readItems (limits : Limits) (depth : Nat) : Nat → Bytes → Except ReadError (List Frame × Bytes)
  | 0, s => .ok ([], s)
  | count + 1, s =>
    match read limits depth s with
    | .error fault => .error fault
    | .ok (frame, rest) =>
      match readItems limits depth count rest with
      | .error fault => .error fault
      | .ok (frames, rest) => .ok (frame :: frames, rest)

/-- The inner levels are read as if they stood alone, with the outer ones as their depth. -/
theorem readWithin_append (limits : Limits) (depth : Nat) (inner outer : List Level) (s : Bytes) :
    readWithin limits depth (inner ++ outer) s =
      match readWithin limits (depth + outer.length) inner s with
      | .error fault => .error fault
      | .ok (frame, rest) => resume limits depth outer frame rest := by
  have hlength (inner : List Level) :
      depth + (inner ++ outer).length = depth + outer.length + inner.length := by
    simp only [List.length_append]
    omega
  fun_induction readWithin limits (depth + outer.length) inner s with
  | case1 inner s hdeep =>
    rw [readWithin, hlength, if_pos hdeep]
  | case2 inner s hdeep fault htoken =>
    rw [readWithin_eq, hlength, if_neg hdeep, htoken]
  | case3 inner s hdeep token rest htoken frame hwhole =>
    rw [readWithin_eq, hlength, if_neg hdeep, htoken]
    simp only [Progress.advance_append, hwhole]
    rfl
  | case4 inner s hdeep token rest htoken levels hwithin ih =>
    rw [readWithin_eq, hlength, if_neg hdeep, htoken]
    simp only [Progress.advance_append, hwithin]
    exact ih

theorem readWithin_cons (limits : Limits) (depth : Nat) (levels : List Level) (s : Bytes) :
    readWithin limits depth levels s =
      match read limits (depth + levels.length) s with
      | .error fault => .error fault
      | .ok (frame, rest) => resume limits depth levels frame rest :=
  readWithin_append limits depth [] levels s

theorem readWithin_level (limits : Limits) (depth later : Nat) (before : List Frame) (s : Bytes) :
    readWithin limits depth [⟨later, before⟩] s =
      match readItems limits (depth + 1) (later + 1) s with
      | .error fault => .error fault
      | .ok (items, rest) => .ok (.array (before.reverse ++ items), rest) := by
  -- `later` items are missing after the next one, so the level is closed when it is zero.
  induction later generalizing before s with
  | zero =>
    rw [readWithin_cons, readItems]
    cases read limits (depth + 1) s with
    | error fault => rfl
    | ok result => simp [resume, readItems, Progress.settle]
  | succ later ih =>
    rw [readWithin_cons, readItems]
    have hresume (frame : Frame) (rest : Bytes) :
        resume limits depth [⟨later + 1, before⟩] frame rest =
          readWithin limits depth [⟨later, frame :: before⟩] rest := rfl
    simp only [List.length_singleton]
    cases read limits (depth + 1) s with
    | error fault => rfl
    | ok result =>
      obtain ⟨frame, rest⟩ := result
      simp only [hresume, ih]
      cases readItems limits (depth + 1) (later + 1) rest with
      | error fault => rfl
      | ok result => simp

theorem read_eq (limits : Limits) (depth : Nat) (s : Bytes) :
    read limits depth s =
      if limits.maxDepth.toNat < depth then .error (.malformed (.tooDeep limits.maxDepth))
      else
        match Token.read limits s with
        | .error fault => .error fault
        | .ok (.leaf frame, rest) => .ok (frame, rest)
        | .ok (.array count, rest) =>
          match readItems limits (depth + 1) count rest with
          | .error fault => .error fault
          | .ok (items, rest) => .ok (.array items, rest) := by
  rw [read, readWithin_eq, List.length_nil, Nat.add_zero]
  split
  · rfl
  · cases Token.read limits s with
    | error fault => rfl
    | ok result =>
      obtain ⟨token, rest⟩ := result
      cases token with
      | leaf frame => rfl
      | array count =>
        cases count with
        | zero => rfl
        | succ later => exact readWithin_level limits depth later [] rest

theorem read_nil (limits : Limits) : read limits 0 [] = .error .incomplete := by
  rw [read_eq, if_neg (Nat.not_lt_zero _)]
  rfl

end Frame

end RespStore
