import RespStore.Proofs.Frame.Grammar

/-!
# Reading with machine words

Reading as a machine does it: a position in the data and a depth, both 64-bit words, sums that may
leave the range of words, and slices that may leave the data. None of these steps has a check of its
own that makes it safe; `read_eq_readAt` says that the checks made before it do.
-/

set_option autoImplicit false

namespace RespStore

open Text

inductive Trap where
  | overflow
  | outOfRange
  deriving DecidableEq, Repr

inductive Halt where
  | fault (fault : ReadError)
  | trap (trap : Trap)
  deriving DecidableEq, Repr

namespace Words

/-! ## Steps that may trap -/

def add (a b : UInt64) : Except Halt UInt64 :=
  if a.toNat + b.toNat < UInt64.size then .ok (a + b) else .error (.trap .overflow)

def slice (data : Bytes) (start stop : UInt64) : Except Halt Bytes :=
  if start ≤ stop ∧ stop.toNat ≤ data.length then .ok (data.extract start.toNat stop.toNat)
  else .error (.trap .outOfRange)

/-- How many bytes there are from a position on; none behind the end. -/
def remaining (data : Bytes) (position : UInt64) : UInt64 :=
  UInt64.ofNat (data.length - position.toNat)

def advance (data : Bytes) (position count : UInt64) : Except Halt UInt64 :=
  if remaining data position < count then .error (.trap .outOfRange) else add position count

/-! ## Reading -/

def readByte (data : Bytes) (position : UInt64) : Except Halt (UInt8 × UInt64) :=
  if remaining data position = 0 then .error (.fault .incomplete)
  else
    match data[position.toNat]? with
    | none => .error (.trap .outOfRange)
    | some b => do
      let next ← advance data position 1
      .ok (b, next)

def lineEnd? : Bytes → Option Nat
  | a :: b :: rest =>
    if a = Bytes.cr ∧ b = Bytes.lf then some 0 else (lineEnd? (b :: rest)).map (· + 1)
  | _ => none

def readLine (data : Bytes) (position : UInt64) : Except Halt (Bytes × UInt64) := do
  let ahead ← slice data position (UInt64.ofNat data.length)
  match lineEnd? ahead with
  | none => .error (.fault .incomplete)
  | some index => do
    let stop ← add position (UInt64.ofNat index)
    let next ← add stop 2
    let line ← slice data position stop
    .ok (line, next)

def readPayload (data : Bytes) (length position : UInt64) : Except Halt (Token × UInt64) := do
  let needed ← add length 2
  if remaining data position < needed then .error (.fault .incomplete)
  else do
    let middle ← add position length
    let payload ← slice data position middle
    let stop ← add middle 2
    let ending ← slice data middle stop
    if ending = Bytes.crlf then do
      let next ← advance data position needed
      .ok (.leaf (.bulk payload), next)
    else .error (.fault (.malformed .unterminatedBulk))

def readBulk (limits : Limits) (data line : Bytes) (position : UInt64) :
    Except Halt (Token × UInt64) :=
  match Decimal.readInt64? line with
  | none => .error (.fault (.malformed (.invalidBulkLength (Utf8.decode line))))
  | some length =>
    if length = -1 then .ok (.leaf .null, position)
    else if length < -1 then .error (.fault (.malformed (.negativeBulkLength length)))
    else if limits.maxBulk < length.toUInt64 then
      .error (.fault (.malformed (.bulkTooLong length limits.maxBulk)))
    else readPayload data length.toUInt64 position

def readArrayHead (limits : Limits) (line : Bytes) (position : UInt64) :
    Except Halt (Token × UInt64) :=
  match Decimal.readInt64? line with
  | none => .error (.fault (.malformed (.invalidArrayLength (Utf8.decode line))))
  | some length =>
    if length < 0 then .error (.fault (.malformed (.negativeArrayLength length)))
    else if limits.maxArray < length.toUInt64 then
      .error (.fault (.malformed (.arrayTooLong length limits.maxArray)))
    else .ok (.array length.toUInt64.toNat, position)

def readInteger (line : Bytes) (position : UInt64) : Except Halt (Token × UInt64) :=
  match Decimal.readInt64? line with
  | none => .error (.fault (.malformed (.invalidInteger (Utf8.decode line))))
  | some value => .ok (.leaf (.integer value), position)

def readBody (limits : Limits) (data : Bytes) (lead : Lead) (line : Bytes) (position : UInt64) :
    Except Halt (Token × UInt64) :=
  match lead with
  | .simple => .ok (.leaf (.simple (Utf8.decode line)), position)
  | .error => .ok (.leaf (.error (Utf8.decode line)), position)
  | .integer => readInteger line position
  | .bulk => readBulk limits data line position
  | .array => readArrayHead limits line position

def readToken (limits : Limits) (data : Bytes) (position : UInt64) :
    Except Halt (Token × UInt64) := do
  let (b, position) ← readByte data position
  match Lead.ofByte? b with
  | none => .error (.fault (.malformed (.unknownLead b)))
  | some lead => do
    let (line, position) ← readLine data position
    readBody limits data lead line position

theorem toNat_of_add {a b sum : UInt64} (h : add a b = .ok sum) :
    sum.toNat = a.toNat + b.toNat := by
  rw [add] at h
  split at h
  · rename_i hlt
    cases h
    rw [UInt64.toNat_add]
    exact Nat.mod_eq_of_lt hlt
  · cases h

mutual

def read (limits : Limits) (data : Bytes) (depth position : UInt64) :
    Except Halt (Frame × UInt64) :=
  if limits.maxDepth < depth then .error (.fault (.malformed (.tooDeep limits.maxDepth)))
  else
    match readToken limits data position with
    | .error halt => .error halt
    | .ok (.leaf frame, next) => .ok (frame, next)
    | .ok (.array count, next) =>
      match readItems limits data depth count next with
      | .error halt => .error halt
      | .ok (items, next) => .ok (.array items, next)
termination_by (UInt64.size - depth.toNat, 1, 0)

def readItems (limits : Limits) (data : Bytes) (depth : UInt64) (count : Nat) (position : UInt64) :
    Except Halt (List Frame × UInt64) :=
  match count with
  | 0 => .ok ([], position)
  | count + 1 =>
    match _h : add depth 1 with
    | .error halt => .error halt
    | .ok inner =>
      match read limits data inner position with
      | .error halt => .error halt
      | .ok (frame, next) =>
        match readItems limits data depth count next with
        | .error halt => .error halt
        | .ok (frames, next) => .ok (frame :: frames, next)
termination_by (UInt64.size - depth.toNat, 0, count)
decreasing_by
  · have hinner := toNat_of_add _h
    have hlt : inner.toNat < UInt64.size := inner.toNat_lt
    have hone : (1 : UInt64).toNat = 1 := rfl
    exact Prod.Lex.left _ _ (by omega)
  · exact Prod.Lex.right _ (Prod.Lex.right _ (Nat.lt_succ_self count))

end

theorem readItems_succ (limits : Limits) (data : Bytes) (depth : UInt64) (count : Nat)
    (position : UInt64) :
    readItems limits data depth (count + 1) position =
      match add depth 1 with
      | .error halt => .error halt
      | .ok inner =>
        match read limits data inner position with
        | .error halt => .error halt
        | .ok (frame, next) =>
          match readItems limits data depth count next with
          | .error halt => .error halt
          | .ok (frames, next) => .ok (frame :: frames, next) := by
  rw [readItems]
  split <;> rename_i h <;> rw [h]

/-! ## Positions -/

/-- The position of an end of the data. -/
def place (data s : Bytes) : UInt64 := UInt64.ofNat (data.length - s.length)

variable {data : Bytes}

theorem maxInt64_add_two_lt : Decimal.maxInt64 + 2 < UInt64.size := by decide

theorem toNat_ofNat_of_le {n : Nat} (h : n ≤ Decimal.maxInt64) : (UInt64.ofNat n).toNat = n := by
  have hsize := maxInt64_add_two_lt
  exact UInt64.toNat_ofNat_of_lt' (by omega)

theorem toNat_place (hdata : data.length ≤ Decimal.maxInt64) (s : Bytes) :
    (place data s).toNat = data.length - s.length :=
  toNat_ofNat_of_le (Nat.le_trans (Nat.sub_le _ _) hdata)

theorem drop_place (hdata : data.length ≤ Decimal.maxInt64) {s : Bytes} (hs : s <:+ data) :
    data.drop (place data s).toNat = s := by
  rw [toNat_place hdata]
  exact (List.suffix_iff_eq_drop.1 hs).symm

theorem toNat_remaining_place (hdata : data.length ≤ Decimal.maxInt64) {s : Bytes}
    (hs : s <:+ data) : (remaining data (place data s)).toNat = s.length := by
  have hle := hs.length_le
  rw [remaining, toNat_place hdata, toNat_ofNat_of_le (by omega)]
  omega

theorem toNat_ofNat_length (hdata : data.length ≤ Decimal.maxInt64) {front rest : Bytes}
    (hs : front ++ rest <:+ data) : (UInt64.ofNat front.length).toNat = front.length := by
  have hle := hs.length_le
  rw [List.length_append] at hle
  exact toNat_ofNat_of_le (by omega)

theorem add_place (hdata : data.length ≤ Decimal.maxInt64) {front rest : Bytes}
    (hs : front ++ rest <:+ data) {count : UInt64} (hcount : count.toNat = front.length) :
    add (place data (front ++ rest)) count = .ok (place data rest) := by
  have hle := hs.length_le
  have hsize := maxInt64_add_two_lt
  have hfront := toNat_place hdata (front ++ rest)
  have hrest := toNat_place hdata rest
  rw [List.length_append] at hle hfront
  have hsum : (place data (front ++ rest)).toNat + count.toNat < UInt64.size := by omega
  rw [add, if_pos hsum, Except.ok.injEq, ← UInt64.toNat_inj, UInt64.toNat_add,
    Nat.mod_eq_of_lt hsum]
  omega

theorem slice_place (hdata : data.length ≤ Decimal.maxInt64) {front rest : Bytes}
    (hs : front ++ rest <:+ data) :
    slice data (place data (front ++ rest)) (place data rest) = .ok front := by
  have hle := hs.length_le
  have hfront := toNat_place hdata (front ++ rest)
  have hrest := toNat_place hdata rest
  rw [List.length_append] at hle hfront
  have hrange : place data (front ++ rest) ≤ place data rest ∧
      (place data rest).toNat ≤ data.length := by
    rw [UInt64.le_iff_toNat_le]
    omega
  have hlength : (place data rest).toNat - (place data (front ++ rest)).toNat = front.length := by
    omega
  rw [slice, if_pos hrange, List.extract_eq_take_drop, drop_place hdata hs, hlength,
    List.take_left]

theorem advance_place (hdata : data.length ≤ Decimal.maxInt64) {front rest : Bytes}
    (hs : front ++ rest <:+ data) {count : UInt64} (hcount : count.toNat = front.length) :
    advance data (place data (front ++ rest)) count = .ok (place data rest) := by
  have hremaining := toNat_remaining_place hdata hs
  rw [List.length_append] at hremaining
  rw [advance, if_neg, add_place hdata hs hcount]
  rw [UInt64.lt_iff_toNat_lt]
  omega

/-! ## What each step reads -/

def placed {α : Type} (data : Bytes) : Except ReadError (α × Bytes) → Except Halt (α × UInt64)
  | .error fault => .error (.fault fault)
  | .ok (value, rest) => .ok (value, place data rest)

theorem readByte_of_drop_eq_nil {position : UInt64} (h : data.drop position.toNat = []) :
    readByte data position = .error (.fault .incomplete) := by
  have hle := List.drop_eq_nil_iff.1 h
  have hremaining : remaining data position = 0 := by
    rw [remaining, Nat.sub_eq_zero_of_le hle]
    rfl
  rw [readByte, if_pos hremaining]

theorem readByte_place (hdata : data.length ≤ Decimal.maxInt64) {b : UInt8} {rest : Bytes}
    (hs : b :: rest <:+ data) :
    readByte data (place data (b :: rest)) = .ok (b, place data rest) := by
  have hremaining := toNat_remaining_place hdata hs
  have hne : remaining data (place data (b :: rest)) ≠ 0 := by
    intro h
    rw [h, List.length_cons] at hremaining
    cases hremaining
  have hget : data[(place data (b :: rest)).toNat]? = some b := by
    rw [← List.head?_drop, drop_place hdata hs]
    rfl
  have hadvance : advance data (place data (b :: rest)) 1 = .ok (place data rest) :=
    @advance_place data hdata [b] rest hs 1 rfl
  rw [readByte, if_neg hne, hget]
  simp only [hadvance]
  rfl

theorem map_length_splitLineAfter (before s : Bytes) :
    ((Bytes.splitLineAfter before s).map fun parts => parts.1.length) =
      (lineEnd? s).map (before.length + ·) := by
  fun_induction Bytes.splitLineAfter before s with
  | case1 before a b rest hend =>
    rw [lineEnd?, if_pos hend]
    simp
  | case2 before a b rest hend ih =>
    rw [lineEnd?, if_neg hend, ih, Option.map_map]
    congr 1
    funext index
    simp only [List.length_cons, Function.comp]
    omega
  | case3 s before hshort =>
    have hnone : lineEnd? s = none := by
      cases s with
      | nil => rfl
      | cons a tail =>
        cases tail with
        | nil => rfl
        | cons b rest => exact (hshort a b rest rfl).elim
    rw [hnone]
    rfl

theorem lineEnd?_eq (s : Bytes) :
    lineEnd? s = (Bytes.splitLine s).map fun parts => parts.1.length := by
  rw [Bytes.splitLine, map_length_splitLineAfter]
  simp

theorem readLine_place (hdata : data.length ≤ Decimal.maxInt64) {s : Bytes} (hs : s <:+ data) :
    readLine data (place data s) =
      match Bytes.splitLine s with
      | none => .error (.fault .incomplete)
      | some (line, rest) => .ok (line, place data rest) := by
  have hend : UInt64.ofNat data.length = place data [] := rfl
  have hahead : slice data (place data s) (place data []) = .ok s := by
    rw [← List.append_nil s] at hs
    have hslice := slice_place hdata hs
    rwa [List.append_nil] at hslice
  rw [readLine, hend, hahead]
  simp only [bind, Except.bind, lineEnd?_eq]
  cases hsplit : Bytes.splitLine s with
  | none => rfl
  | some parts =>
    obtain ⟨line, rest⟩ := parts
    obtain ⟨rfl, -⟩ := Bytes.splitLine_eq_some_iff.1 hsplit
    rw [List.append_assoc] at hs ⊢
    have hafter : Bytes.crlf ++ rest <:+ data := (List.suffix_append line _).trans hs
    have hlength := toNat_ofNat_length hdata hs
    have hcrlf : (2 : UInt64).toNat = Bytes.crlf.length := rfl
    simp only [Option.map_some, add_place hdata hs hlength, add_place hdata hafter hcrlf,
      slice_place hdata hs]

-- Where nothing is left, the bytes ahead of a line are already none of the data.
example : readLine [] 1 = .error (.trap .outOfRange) := rfl

theorem readPayload_place (hdata : data.length ≤ Decimal.maxInt64) {s : Bytes} (hs : s <:+ data)
    {length : UInt64} (hlength : length.toNat ≤ Decimal.maxInt64) :
    readPayload data length (place data s) = placed data (Token.readPayload length.toNat s) := by
  have hremaining := toNat_remaining_place hdata hs
  have htwo : (2 : UInt64).toNat = 2 := rfl
  have hsize := maxInt64_add_two_lt
  have hneeded : add length 2 = .ok (length + 2) := if_pos (by omega)
  have hsum := toNat_of_add hneeded
  rw [readPayload, hneeded]
  simp only [bind, Except.bind, UInt64.lt_iff_toNat_lt, hremaining, hsum, htwo]
  split
  · rename_i hshort
    rw [Token.readPayload_eq_incomplete_iff.2 hshort]
    rfl
  · rename_i hlong
    obtain ⟨payload, a, b, rest, hcount, rfl⟩ := Token.exists_of_length_le (Nat.not_lt.1 hlong)
    have hafter : [a, b] ++ rest <:+ data := (List.suffix_append payload _).trans hs
    have hadvance : advance data (place data (payload ++ ([a, b] ++ rest))) (length + 2) =
        .ok (place data rest) := by
      rw [← List.append_assoc] at hs ⊢
      exact advance_place hdata hs (by rw [hsum, ← hcount, htwo, List.length_append]; rfl)
    have hcrlf : [a, b] = Bytes.crlf ↔ a = Bytes.cr ∧ b = Bytes.lf := by simp [Bytes.crlf]
    rw [← hcount, Token.readPayload_split]
    simp only [add_place hdata hs hcount.symm, slice_place hdata hs, add_place hdata hafter htwo,
      slice_place hdata hafter, hcrlf, hadvance]
    split <;> rfl

theorem toNat_toUInt64 {n : Int64} (h : ¬ n < 0) : n.toUInt64.toNat = n.toNatClampNeg :=
  Int64.toNat_toUInt64_of_le (Int64.not_lt.1 h)

theorem lt_neg_one_iff {n : Int64} (h : n ≠ -1) : n < -1 ↔ n < 0 := by
  rw [Int64.lt_iff_toInt_lt, Int64.lt_iff_toInt_lt, Int64.toInt_zero, Token.toInt_neg_one]
  have hne : n.toInt ≠ -1 := fun heq => h (Int64.toInt_inj.1 heq)
  omega

theorem readBulk_place (hdata : data.length ≤ Decimal.maxInt64) {s : Bytes} (hs : s <:+ data)
    (limits : Limits) (line : Bytes) :
    readBulk limits data line (place data s) = placed data (Token.readBulk limits line s) := by
  rw [readBulk, Token.readBulk]
  cases Decimal.readInt64? line with
  | none => rfl
  | some length =>
    simp only
    by_cases hnull : length = -1
    · rw [if_pos hnull, if_pos hnull]
      rfl
    · simp only [if_neg hnull, lt_neg_one_iff hnull]
      by_cases hneg : length < 0
      · rw [if_pos hneg, if_pos hneg]
        rfl
      · have hcount := toNat_toUInt64 hneg
        have hbound : length.toUInt64.toNat ≤ Decimal.maxInt64 := by
          rw [hcount]
          exact Nat.le_of_lt_succ length.toNatClampNeg_lt
        simp only [if_neg hneg, UInt64.lt_iff_toNat_lt, hcount,
          readPayload_place hdata hs hbound]
        split <;> rfl

theorem readArrayHead_place (limits : Limits) (line s : Bytes) :
    readArrayHead limits line (place data s) = placed data (Token.readArrayHead limits line s) := by
  rw [readArrayHead, Token.readArrayHead]
  cases Decimal.readInt64? line with
  | none => rfl
  | some length =>
    simp only
    by_cases hneg : length < 0
    · rw [if_pos hneg, if_pos hneg]
      rfl
    · simp only [if_neg hneg, UInt64.lt_iff_toNat_lt, toNat_toUInt64 hneg]
      split <;> rfl

theorem readBody_place (hdata : data.length ≤ Decimal.maxInt64) {s : Bytes} (hs : s <:+ data)
    (limits : Limits) (lead : Lead) (line : Bytes) :
    readBody limits data lead line (place data s) =
      placed data (Token.readBody limits lead line s) := by
  cases lead with
  | simple | error => rfl
  | integer =>
    rw [readBody, readInteger, Token.readBody, Token.readInteger]
    cases Decimal.readInt64? line <;> rfl
  | bulk => exact readBulk_place hdata hs limits line
  | array => exact readArrayHead_place limits line s

theorem readToken_place (hdata : data.length ≤ Decimal.maxInt64) {s : Bytes} (hs : s <:+ data)
    (limits : Limits) :
    readToken limits data (place data s) = placed data (Token.read limits s) := by
  cases s with
  | nil =>
    rw [readToken, readByte_of_drop_eq_nil (drop_place hdata hs)]
    rfl
  | cons b rest =>
    have hrest : rest <:+ data := (List.suffix_cons b rest).trans hs
    rw [readToken, readByte_place hdata hs]
    simp only [bind, Except.bind, Token.read, readLine_place hdata hrest]
    cases Lead.ofByte? b with
    | none => rfl
    | some lead =>
      cases hsplit : Bytes.splitLine rest with
      | none => rfl
      | some parts =>
        obtain ⟨line, after⟩ := parts
        obtain ⟨rfl, -⟩ := Bytes.splitLine_eq_some_iff.1 hsplit
        exact readBody_place hdata ((List.suffix_append _ after).trans hrest) limits lead line

theorem suffix_of_read {limits : Limits} {depth : Nat} {s rest : Bytes} {frame : Frame}
    (h : Frame.read limits depth s = .ok (frame, rest)) : rest <:+ s := by
  obtain ⟨front, rfl, -⟩ := Frame.derives_of_read h
  exact List.suffix_append front rest

theorem readItems_place {limits : Limits} {depth inner : UInt64} (hinner : add depth 1 = .ok inner)
    {bound : Nat}
    (hread : ∀ s, s <:+ data → s.length ≤ bound →
      read limits data inner (place data s) = placed data (Frame.read limits inner.toNat s))
    (count : Nat) {s : Bytes} (hs : s <:+ data) (hbound : s.length ≤ bound) :
    readItems limits data depth count (place data s) =
      placed data (Frame.readItems limits inner.toNat count s) := by
  induction count generalizing s with
  | zero =>
    rw [readItems, Frame.readItems]
    rfl
  | succ count ih =>
    rw [readItems_succ, hinner, Frame.readItems]
    simp only [hread s hs hbound]
    cases hframe : Frame.read limits inner.toNat s with
    | error fault => rfl
    | ok result =>
      obtain ⟨frame, rest⟩ := result
      have hrest := suffix_of_read hframe
      have hitems := ih (hrest.trans hs) (Nat.le_trans hrest.length_le hbound)
      simp only [placed, hitems]
      cases Frame.readItems limits inner.toNat count rest <;> rfl

theorem read_place (hdata : data.length ≤ Decimal.maxInt64) (limits : Limits) {depth : UInt64}
    {s : Bytes} (hs : s <:+ data) (hdepth : depth.toNat + s.length < UInt64.size) :
    read limits data depth (place data s) = placed data (Frame.read limits depth.toNat s) := by
  -- Every level takes bytes, so the depth stays a word as long as it and they do together.
  induction hn : s.length using Nat.strongRecOn generalizing s depth with
  | ind n ih =>
    subst hn
    rw [read, Frame.read_eq, readToken_place hdata hs]
    simp only [UInt64.lt_iff_toNat_lt]
    split
    · rfl
    · cases htoken : Token.read limits s with
      | error fault => rfl
      | ok result =>
        obtain ⟨token, rest⟩ := result
        cases token with
        | leaf frame => rfl
        | array count =>
          have hlength := Token.length_of_read htoken
          obtain ⟨line, n, rfl, -⟩ := Token.exists_of_read_array htoken
          have hrest := (List.suffix_append _ rest).trans hs
          have hone : depth.toNat + (1 : UInt64).toNat < UInt64.size := by
            have hword : (1 : UInt64).toNat = 1 := rfl
            omega
          have hinner : add depth 1 = .ok (depth + 1) := if_pos hone
          have hnext : (depth + 1).toNat = depth.toNat + 1 := toNat_of_add hinner
          have hitems := readItems_place hinner
            (fun t ht hle => ih t.length (by omega) ht (by omega) rfl) count hrest (Nat.le_refl _)
          simp only [placed, hitems, hnext]
          cases Frame.readItems limits (depth.toNat + 1) count rest <;> rfl

def inWords : Except ReadError (Frame × Nat) → Except Halt (Frame × UInt64)
  | .error fault => .error (.fault fault)
  | .ok (frame, stop) => .ok (frame, UInt64.ofNat stop)

theorem read_eq_inWords (hdata : data.length ≤ Decimal.maxInt64) (limits : Limits)
    (start : UInt64) :
    read limits data 0 start = inWords (Frame.readAt limits 0 data start.toNat) := by
  by_cases hstart : start.toNat ≤ data.length
  · have hs := List.drop_suffix start.toNat data
    have hplace : place data (data.drop start.toNat) = start := by
      rw [← UInt64.toNat_inj, toNat_place hdata, List.length_drop]
      omega
    have hzero : (0 : UInt64).toNat = 0 := rfl
    have hdepth : (0 : UInt64).toNat + (data.drop start.toNat).length < UInt64.size := by
      have hle := hs.length_le
      have hsize := maxInt64_add_two_lt
      omega
    have hread := read_place hdata limits hs hdepth
    rw [hplace, hzero] at hread
    rw [hread, Frame.readAt]
    cases Frame.read limits 0 (data.drop start.toNat) <;> rfl
  · have hdrop : data.drop start.toNat = [] := List.drop_eq_nil_iff.2 (by omega)
    have hdeep : ¬ limits.maxDepth < 0 := UInt64.not_lt_zero
    rw [read, if_neg hdeep, readToken, readByte_of_drop_eq_nil hdrop, Frame.readAt, hdrop,
      Frame.read_nil]
    rfl

/-- Wherever a reading starts in data as long as a machine can hold, also behind the end, and
whatever the limits, no sum leaves the range of words and no slice the data, in any of the nested
readings. So it finds what reading finds, and a frame that is read ends within the data. -/
theorem read_eq_readAt (limits : Limits) (data : Bytes) (start : UInt64)
    (hdata : data.length ≤ Decimal.maxInt64) :
    read limits data 0 start = inWords (Frame.readAt limits 0 data start.toNat) ∧
      (∀ trap, read limits data 0 start ≠ .error (.trap trap)) ∧
      ∀ frame stop, read limits data 0 start = .ok (frame, stop) →
        start < stop ∧ stop.toNat ≤ data.length := by
  have hread := read_eq_inWords hdata limits start
  refine ⟨hread, ?_, ?_⟩
  · intro trap htrap
    rw [hread] at htrap
    cases hat : Frame.readAt limits 0 data start.toNat with
    | error fault =>
      rw [hat] at htrap
      cases htrap
    | ok result =>
      rw [hat] at htrap
      cases htrap
  · intro frame stop hok
    rw [hread] at hok
    cases hat : Frame.readAt limits 0 data start.toNat with
    | error fault =>
      rw [hat] at hok
      cases hok
    | ok result =>
      obtain ⟨found, last⟩ := result
      obtain ⟨hlt, hle, -⟩ := Frame.readAt_eq_ok_iff.1 hat
      have hlast := toNat_ofNat_of_le (Nat.le_trans hle hdata)
      rw [hat, inWords] at hok
      cases hok
      rw [UInt64.lt_iff_toNat_lt, hlast]
      exact ⟨hlt, hle⟩

def behindOne : Bytes := [63, 42, 49, 13, 10, 36, 50, 13, 10, 13, 10, 13, 10]

def longest : Bytes :=
  [42, 49, 13, 10, 36, 57, 50, 50, 51, 51, 55, 50, 48, 51, 54, 56, 53, 52, 55, 55, 53, 56, 48, 55,
    13, 10, 97]

theorem read_eq_readAt_unlimited :
    read ⟨-1, -1, -1⟩ behindOne 0 1 = .ok (.array [.bulk Bytes.crlf], 13) ∧
      read ⟨-1, -1, -1⟩ behindOne 0 (-1) = .error (.fault .incomplete) ∧
      read ⟨-1, -1, -1⟩ longest 0 0 = .error (.fault .incomplete) := by
  have hbehind : behindOne.length ≤ Decimal.maxInt64 := by decide
  have hlongest : longest.length ≤ Decimal.maxInt64 := by decide
  obtain ⟨hframe, -⟩ := read_eq_readAt ⟨-1, -1, -1⟩ behindOne 1 hbehind
  obtain ⟨hend, -⟩ := read_eq_readAt ⟨-1, -1, -1⟩ behindOne (-1) hbehind
  obtain ⟨hhead, -⟩ := read_eq_readAt ⟨-1, -1, -1⟩ longest 0 hlongest
  rw [hframe, hend, hhead]
  refine ⟨?_, ?_, ?_⟩
  · with_unfolding_all rfl
  · have hdrop : behindOne.drop (-1 : UInt64).toNat = [] := List.drop_eq_nil_iff.2 (by decide)
    rw [Frame.readAt, hdrop, Frame.read_nil]
    rfl
  · with_unfolding_all rfl

end Words

end RespStore
