import RespStore.Decoder
import RespStore.Proofs.Frame.Grammar
import RespStore.Proofs.Frame.Stream
import RespStore.Proofs.Text.Utf8

set_option autoImplicit false

namespace RespStore

open Text

namespace Frame

variable {limits : Limits} {depth : Nat}

def ownBytes : Frame → Nat
  | .simple text => (Utf8.encode text).length
  | .error text => (Utf8.encode text).length
  | .bulk payload => payload.length
  | .integer _ => 0
  | .array _ => 0
  | .null => 0

def ownBytesOfAll (nodes : List Node) : Nat :=
  nodes.foldr (fun node sum => node.frame.ownBytes + sum) 0

theorem ownBytesOfAll_append (front back : List Node) :
    ownBytesOfAll (front ++ back) = ownBytesOfAll front + ownBytesOfAll back := by
  induction front with
  | nil => exact (Nat.zero_add _).symm
  | cons node rest ih =>
    change node.frame.ownBytes + ownBytesOfAll (rest ++ back) =
      node.frame.ownBytes + ownBytesOfAll rest + ownBytesOfAll back
    omega

structure Affords (length : Nat) (nodes : List Node) : Prop where
  count : 3 * nodes.length ≤ length
  payload : nodes.length + ownBytesOfAll nodes ≤ 3 * length

theorem affords_nil : Affords 0 [] := ⟨Nat.le_refl 0, Nat.le_refl 0⟩

theorem Affords.append {m n : Nat} {front back : List Node} (hfront : Affords m front)
    (hback : Affords n back) : Affords (m + n) (front ++ back) := by
  have hcount := hfront.count
  have hpayload := hfront.payload
  have hcount' := hback.count
  have hpayload' := hback.payload
  constructor
  · rw [List.length_append]
    omega
  · rw [List.length_append, ownBytesOfAll_append]
    omega

theorem affords_singleton {length : Nat} {node : Node} (hlength : 3 ≤ length)
    (hown : 1 + node.frame.ownBytes ≤ 3 * length) : Affords length [node] :=
  ⟨hlength, hown⟩

theorem length_headed (lead : Lead) (line : Bytes) :
    (headed lead line).length = line.length + 3 := by
  simp [headed, Bytes.crlf]

theorem affords_nodesOfAll {items : List (Bytes × Frame)} {d : Nat}
    (h : ∀ item ∈ items, Affords item.1.length (item.2.nodes d)) :
    Affords (items.flatMap Prod.fst).length (nodesOfAll d (items.map Prod.snd)) := by
  induction items with
  | nil => exact affords_nil
  | cons item rest ih =>
    rw [List.flatMap_cons, List.length_append, List.map_cons, nodesOfAll]
    exact (h item List.mem_cons_self).append
      (ih fun other hmem => h other (List.mem_cons_of_mem _ hmem))

/-- The bytes of a frame afford its nodes. A text may be longer than its line: each byte that is no
character is read as one of three bytes. -/
theorem Derives.affords {s : Bytes} {frame : Frame} (h : Derives limits depth s frame) (d : Nat) :
    Affords s.length (frame.nodes d) := by
  induction h generalizing d with
  | @simple depth line text hdepth hline htext | @error depth line text hdepth hline htext =>
    have hlength := Utf8.length_encode_decode_le line
    rw [← Utf8.lossy_iff.1 htext] at hlength
    rw [length_headed]
    refine affords_singleton (by omega) ?_
    simp only [ownBytes]
    omega
  | integer hdepth hline | null hdepth hline =>
    rw [length_headed]
    refine affords_singleton (by omega) ?_
    simp only [ownBytes]
    omega
  | bulk hdepth hline hlength hlimit =>
    rw [List.length_append, List.length_append, length_headed]
    refine affords_singleton (by omega) ?_
    simp only [ownBytes]
    omega
  | array hdepth hline hcount hlimit hitems ih =>
    rw [List.length_append, length_headed, nodes]
    have hitems := affords_nodesOfAll fun item hitem => ih item hitem (d + 1)
    refine Affords.append (affords_singleton (by omega) ?_) hitems
    simp only [ownBytes]
    omega

theorem affords_of_readAt {data : Bytes} {start stop : Nat} {frame : Frame}
    (h : readAt limits depth data start = .ok (frame, stop)) :
    Affords (stop - start) (frame.nodes 0) := by
  obtain ⟨hlt, hle, hderives⟩ := ((readAt_eq_ok_iff_derives limits depth data start).1 _ _).1 h
  have hlength : (data.extract start stop).length = stop - start := by
    rw [List.extract_eq_take_drop, List.length_take, List.length_drop]
    omega
  rw [← hlength]
  exact hderives.affords 0

/-- Reads frames one after another, as many as `count`, and counts the readings that it begins. -/
def tryItems (limits : Limits) (depth : Nat) :
    Nat → Bytes → Nat × Except ReadError (List Frame × Bytes)
  | 0, s => (0, .ok ([], s))
  | count + 1, s =>
    match read limits depth s with
    | .error fault => (1, .error fault)
    | .ok (frame, rest) =>
      ((tryItems limits depth count rest).1 + 1,
        match (tryItems limits depth count rest).2 with
        | .error fault => .error fault
        | .ok (frames, rest) => .ok (frame :: frames, rest))

theorem snd_tryItems (limits : Limits) (depth count : Nat) (s : Bytes) :
    (tryItems limits depth count s).2 = readItems limits depth count s := by
  induction count generalizing s with
  | zero => rfl
  | succ count ih =>
    rw [tryItems, readItems]
    cases read limits depth s with
    | error fault => rfl
    | ok result =>
      cases hitems : readItems limits depth count result.2 <;> simp [ih, hitems]

/-- All counted readings but the last have found a frame, and the last one too unless it ends the
loop with its fault. -/
theorem tryItems_cases (limits : Limits) (depth count : Nat) (s : Bytes) :
    (∃ items rest, tryItems limits depth count s = (count, .ok (items, rest)) ∧
      items.length = count) ∨
    ∃ k items middle fault, k < count ∧ tryItems limits depth count s = (k + 1, .error fault) ∧
      readItems limits depth k s = .ok (items, middle) ∧ items.length = k ∧
      read limits depth middle = .error fault := by
  induction count generalizing s with
  | zero => exact .inl ⟨[], s, rfl, rfl⟩
  | succ count ih =>
    rw [tryItems]
    cases hread : read limits depth s with
    | error fault => exact .inr ⟨0, [], s, fault, Nat.succ_pos count, rfl, rfl, rfl, hread⟩
    | ok result =>
      obtain ⟨frame, rest⟩ := result
      rcases ih rest with
        ⟨items, after, htry, hlength⟩ | ⟨k, items, middle, fault, hk, htry, hitems, hlength, hfault⟩
      · exact .inl ⟨frame :: items, after, by simp only [htry], congrArg Nat.succ hlength⟩
      · refine .inr ⟨k + 1, frame :: items, middle, fault, Nat.succ_lt_succ hk, ?_, ?_,
          congrArg Nat.succ hlength, hfault⟩
        · simp only [htry]
        · simp only [readItems, hread, hitems]

/-- Every reading but the last has taken three bytes. -/
theorem fst_tryItems_le (limits : Limits) (depth count : Nat) (s : Bytes) :
    (tryItems limits depth count s).1 ≤ s.length / 3 + 1 := by
  induction count generalizing s with
  | zero => exact Nat.zero_le _
  | succ count ih =>
    rw [tryItems]
    cases hread : read limits depth s with
    | error fault => exact Nat.le_add_left _ _
    | ok result =>
      obtain ⟨frame, rest⟩ := result
      have hlength := length_of_read hread
      have hrest := ih rest
      simp only
      omega

theorem read_of_array {s rest : Bytes} {count : Nat} (hdepth : depth ≤ limits.maxDepth.toNat)
    (h : Token.read limits s = .ok (.array count, rest)) :
    read limits depth s =
      (tryItems limits (depth + 1) count rest).2.map fun items => (.array items.1, items.2) := by
  rw [read_eq, if_neg (Nat.not_lt.2 hdepth), h, snd_tryItems]
  simp only
  cases readItems limits (depth + 1) count rest <;> rfl

/-- Frames read one after another from a position on, each with the position after it, up to the
position `last` where reading finds no frame but `fault`. -/
inductive Walk (limits : Limits) (data : Bytes) (fault : ReadError) (last : Nat) :
    Nat → List (Frame × Nat) → Prop where
  | stop (h : readAt limits 0 data last = .error fault) : Walk limits data fault last last []
  | next {position stop : Nat} {frame : Frame} {later : List (Frame × Nat)}
      (h : readAt limits 0 data position = .ok (frame, stop))
      (hlater : Walk limits data fault last stop later) :
      Walk limits data fault last position ((frame, stop) :: later)

theorem exists_walk (limits : Limits) (data : Bytes) (position : Nat) :
    ∃ fault last stops, Walk limits data fault last position stops := by
  induction hn : data.length - position using Nat.strongRecOn generalizing position with
  | ind n ih =>
    cases hread : readAt limits 0 data position with
    | error fault => exact ⟨fault, position, [], .stop hread⟩
    | ok result =>
      obtain ⟨frame, stop⟩ := result
      obtain ⟨hlt, hle, -⟩ := readAt_eq_ok_iff.1 hread
      obtain ⟨fault, last, stops, hlater⟩ := ih (data.length - stop) (by omega) stop rfl
      exact ⟨fault, last, (frame, stop) :: stops, .next hread hlater⟩

variable {data : Bytes} {fault : ReadError} {position last : Nat} {stops : List (Frame × Nat)}

theorem add_three_le_of_readAt {start stop : Nat} {frame : Frame}
    (h : readAt limits depth data start = .ok (frame, stop)) : start + 3 ≤ stop := by
  obtain ⟨hlt, hle, hread⟩ := readAt_eq_ok_iff.1 h
  have hlength := length_of_read hread
  rw [List.length_drop, List.length_drop] at hlength
  omega

/-- Every frame takes the loop at least three bytes further, and never behind the end. -/
theorem Walk.forward (h : Walk limits data fault last position stops) :
    (position :: stops.map Prod.snd).Pairwise (fun here next => here + 3 ≤ next) ∧
      position + 3 * stops.length ≤ last ∧ (position ≤ data.length → last ≤ data.length) := by
  induction h with
  | stop => exact ⟨List.pairwise_singleton _ _, Nat.le_refl _, id⟩
  | @next position stop frame later h hlater ih =>
    obtain ⟨hpairs, hlast, hinside⟩ := ih
    have hstep := add_three_le_of_readAt h
    refine ⟨List.pairwise_cons.2 ⟨fun next hnext => ?_, hpairs⟩, ?_, fun _ => ?_⟩
    · rcases List.mem_cons.1 hnext with rfl | hmem
      · exact hstep
      · have hnext := (List.pairwise_cons.1 hpairs).1 next hmem
        omega
    · rw [List.length_cons]
      omega
    · exact hinside (readAt_eq_ok_iff.1 h).2.1

theorem Walk.readAll_eq (h : Walk limits data fault last position stops) :
    readAll limits (data.drop position) =
      match fault with
      | .incomplete => .ok (stops.map Prod.fst, data.drop last)
      | .malformed cause => .error cause := by
  induction h with
  | stop h =>
    rw [Frame.readAll_eq, readAt_eq_error_iff.1 h]
    cases fault <;> rfl
  | next h hlater ih =>
    obtain ⟨-, -, hread⟩ := readAt_eq_ok_iff.1 h
    rw [Frame.readAll_eq, hread]
    simp only [ih]
    cases fault <;> rfl

/-- Reading pays for what it builds, with no regard to what is announced. A frame takes at least
three bytes for each of its nodes, and its nodes and payload together are at most three times the
bytes. The loop over the items of an array begins at most one reading more than a third of the bytes
behind the head, whatever count stands there: as many readings as are announced if all find a frame,
else those that find one and the one that does not. The loop over the frames of a stream goes at
least three bytes forward each time, stays within the bytes, and ends where no frame can be read. -/
theorem read_pays (limits : Limits) :
    (∀ depth data start frame stop, readAt limits depth data start = .ok (frame, stop) →
      start + 3 * (frame.nodes 0).length ≤ stop ∧
        (frame.nodes 0).length + ownBytesOfAll (frame.nodes 0) ≤ 3 * (stop - start)) ∧
    (∀ depth s count rest, depth ≤ limits.maxDepth.toNat →
      Token.read limits s = .ok (.array count, rest) →
      read limits depth s =
          (tryItems limits (depth + 1) count rest).2.map (fun items => (.array items.1, items.2)) ∧
        (tryItems limits (depth + 1) count rest).1 ≤ rest.length / 3 + 1 ∧
        (∀ items after, (tryItems limits (depth + 1) count rest).2 = .ok (items, after) →
          (tryItems limits (depth + 1) count rest).1 = count ∧ items.length = count) ∧
        ∀ fault, (tryItems limits (depth + 1) count rest).2 = .error fault →
          ∃ k items middle, k < count ∧ (tryItems limits (depth + 1) count rest).1 = k + 1 ∧
            readItems limits (depth + 1) k rest = .ok (items, middle) ∧ items.length = k ∧
            read limits (depth + 1) middle = .error fault) ∧
    ∀ held chunk, ∃ fault last stops,
      Walk limits (held ++ chunk) fault last 0 stops ∧
        (0 :: stops.map Prod.snd).Pairwise (fun here next => here + 3 ≤ next) ∧
        3 * stops.length ≤ last ∧ last ≤ (held ++ chunk).length ∧
        Decoder.feed ⟨limits, held⟩ chunk =
          match fault with
          | .incomplete => (.ok (stops.map Prod.fst), ⟨limits, (held ++ chunk).drop last⟩)
          | .malformed cause => (.error cause, ⟨limits, []⟩) := by
  refine ⟨?_, ?_, ?_⟩
  · intro depth data start frame stop h
    have haffords := affords_of_readAt h
    have hcount := haffords.count
    have hstep := add_three_le_of_readAt h
    exact ⟨by omega, haffords.payload⟩
  · intro depth s count rest hdepth h
    refine ⟨read_of_array hdepth h, fst_tryItems_le limits (depth + 1) count rest, ?_⟩
    rcases tryItems_cases limits (depth + 1) count rest with
      ⟨items, after, htry, hlength⟩ | ⟨k, items, middle, fault, hk, htry, hitems⟩
    · rw [htry]
      refine ⟨?_, nofun⟩
      rintro _ _ ⟨⟩
      exact ⟨rfl, hlength⟩
    · rw [htry]
      refine ⟨nofun, ?_⟩
      rintro _ ⟨⟩
      exact ⟨k, items, middle, hk, rfl, hitems⟩
  · intro held chunk
    obtain ⟨fault, last, stops, hwalk⟩ := exists_walk limits (held ++ chunk) 0
    obtain ⟨hpairs, hlast, hinside⟩ := hwalk.forward
    refine ⟨fault, last, stops, hwalk, hpairs, by omega, hinside (Nat.zero_le _), ?_⟩
    have hall := hwalk.readAll_eq
    rw [List.drop_zero] at hall
    rw [Decoder.feed, hall]
    cases fault <;> rfl

def strangeByte : Bytes :=
  [63, 42, 50, 13, 10, 43, 255, 13, 10, 36, 51, 13, 10, 97, 98, 99, 13, 10]

def announced : Bytes :=
  [42, 57, 50, 50, 51, 51, 55, 50, 48, 51, 54, 56, 53, 52, 55, 55, 53, 56, 48, 55, 13, 10] ++
    [58, 49, 13, 10, 58, 50, 13, 10]

theorem read_pays_announced :
    (∃ frame, readAt ⟨-1, -1, -1⟩ 0 strangeByte 1 = .ok (frame, 18) ∧
      1 + 3 * (frame.nodes 0).length ≤ 18 ∧
      (frame.nodes 0).length + ownBytesOfAll (frame.nodes 0) ≤ 3 * (18 - 1)) ∧
    Token.read ⟨-1, -1, -1⟩ announced =
      .ok (.array 9223372036854775807, [58, 49, 13, 10, 58, 50, 13, 10]) ∧
    (tryItems ⟨-1, -1, -1⟩ 1 9223372036854775807 [58, 49, 13, 10, 58, 50, 13, 10]).1 = 3 ∧
    read ⟨-1, -1, -1⟩ 0 announced = .error .incomplete := by
  obtain ⟨hframes, harrays, -⟩ := read_pays ⟨-1, -1, -1⟩
  have hread : readAt ⟨-1, -1, -1⟩ 0 strangeByte 1 =
      .ok (.array [.simple "\uFFFD", .bulk [97, 98, 99]], 18) := by with_unfolding_all rfl
  have htoken : Token.read ⟨-1, -1, -1⟩ announced =
      .ok (.array 9223372036854775807, [58, 49, 13, 10, 58, 50, 13, 10]) := by
    with_unfolding_all rfl
  have hloop : tryItems ⟨-1, -1, -1⟩ 1 9223372036854775807 [58, 49, 13, 10, 58, 50, 13, 10] =
      (3, .error .incomplete) := by
    with_unfolding_all rfl
  have hall := (harrays 0 announced _ _ (Nat.zero_le _) htoken).1
  rw [hloop] at hall ⊢
  exact ⟨⟨_, hread, hframes 0 strangeByte 1 _ 18 hread⟩, htoken, rfl, hall⟩

end Frame

end RespStore
