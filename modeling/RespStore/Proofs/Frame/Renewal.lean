import RespStore.Proofs.Frame.Lines
import RespStore.Proofs.Frame.Locality
import RespStore.Proofs.Frame.RoundTrip

set_option autoImplicit false

namespace RespStore.Frame

variable {limits : Limits} {depth : Nat}

theorem le_maxInt64_of_toInt_eq {n : Int64} {count : Nat} (h : n.toInt = count) :
    count ≤ Decimal.maxInt64 := by
  have hlt := Int64.toInt_lt n
  simp only [Decimal.maxInt64, Int64.size]
  omega

/-- What a node of a frame that was read keeps: its length could be announced, and no limit is
passed. -/
theorem Derives.nodes_sound {s : Bytes} {frame : Frame} (h : Derives limits depth s frame) :
    ∀ node ∈ frame.nodes depth,
      node.frame.count ≤ Decimal.maxInt64 ∧ limits.fault? node = none := by
  induction h with
  | simple hdepth | error hdepth | integer hdepth | null hdepth =>
    refine List.forall_mem_singleton.2 ⟨Nat.zero_le _, ?_⟩
    exact Limits.fault?_eq_none_iff.2 ⟨hdepth, nofun, nofun⟩
  | bulk hdepth hline hlength hlimit =>
    refine List.forall_mem_singleton.2 ⟨le_maxInt64_of_toInt_eq hlength, ?_⟩
    refine Limits.fault?_eq_none_iff.2 ⟨hdepth, ?_, nofun⟩
    intro payload hpayload
    cases hpayload
    exact hlimit
  | @array depth line items n hdepth hline hcount hlimit hitems ih =>
    intro node hnode
    rcases List.mem_cons.1 hnode with rfl | hnode
    · refine ⟨?_, Limits.fault?_eq_none_iff.2 ⟨hdepth, nofun, ?_⟩⟩
      · rw [count, List.length_map]
        exact le_maxInt64_of_toInt_eq hcount
      · intro frames hframes
        cases hframes
        rw [List.length_map]
        exact hlimit
    · obtain ⟨frame, hframe, hnode⟩ := mem_nodesOfAll.1 hnode
      obtain ⟨item, hitem, rfl⟩ := List.mem_map.1 hframe
      exact ih item hitem node hnode

theorem Derives.readAt_bytes {s : Bytes} {frame : Frame} (h : Derives limits 0 s frame)
    (hunbroken : frame.Unbroken) :
    readAt limits 0 frame.bytes 0 = .ok (frame, frame.bytes.length) := by
  have hcountable : frame.Countable := fun node hnode => (h.nodes_sound node hnode).1
  have hfault : (frame.nodes 0).findSome? limits.fault? = none :=
    List.findSome?_eq_none_iff.2 fun node hnode => (h.nodes_sound node hnode).2
  have hread := read_bytes limits hunbroken hcountable 0 []
  rw [List.append_nil, hfault] at hread
  rw [readAt, List.drop_zero, hread]
  rfl

/-- A frame that was read can be sent on, and is read again with all bytes taken, if no line of the
bytes it was read from holds a CR or LF. Otherwise it cannot be written. -/
theorem readAt_renewed (limits : Limits) (data : Bytes) (start stop : Nat) (frame : Frame)
    (h : readAt limits 0 data start = .ok (frame, stop)) :
    ((∀ line ∈ lines limits (data.extract start stop), line.Unbroken) →
      ∃ written, frame.encode = .ok written ∧
        readAt limits 0 written 0 = .ok (frame, written.length)) ∧
    ((∃ line ∈ lines limits (data.extract start stop), ¬ line.Unbroken) →
      ∃ fault, frame.encode = .error fault) := by
  obtain ⟨-, -, hderives⟩ := derives_of_readAt h
  rw [List.drop_take, ← List.extract_eq_take_drop] at hderives
  have hunbroken := hderives.unbroken_iff
  constructor
  · intro hlines
    have hframe := hunbroken.2 hlines
    exact ⟨frame.bytes, encode_of_unbroken hframe, hderives.readAt_bytes hframe⟩
  · rintro ⟨line, hmem, hbroken⟩
    exact exists_encode_of_broken fun hframe => hbroken (hunbroken.1 hframe line hmem)

-- A sign, leading zeros and a byte that is no UTF-8 are written in another form.
theorem readAt_renewed_zeros :
    readAt .standard 0 [42, 43, 50, 13, 10, 58, 45, 48, 55, 13, 10, 43, 255, 13, 10] 0 =
        .ok (.array [.integer (-7), .simple "\uFFFD"], 15) ∧
      ∃ written, (Frame.array [.integer (-7), .simple "\uFFFD"]).encode = .ok written ∧
        readAt .standard 0 written 0 =
          .ok (.array [.integer (-7), .simple "\uFFFD"], written.length) := by
  have hread : readAt .standard 0 [42, 43, 50, 13, 10, 58, 45, 48, 55, 13, 10, 43, 255, 13, 10] 0 =
      .ok (.array [.integer (-7), .simple "\uFFFD"], 15) := by with_unfolding_all rfl
  have hlines : lines .standard [42, 43, 50, 13, 10, 58, 45, 48, 55, 13, 10, 43, 255, 13, 10] =
      [[43, 50], [45, 48, 55], [255]] := by with_unfolding_all rfl
  have hunbroken : ∀ line ∈ lines .standard
      [42, 43, 50, 13, 10, 58, 45, 48, 55, 13, 10, 43, 255, 13, 10], line.Unbroken := by
    rw [hlines]
    decide
  exact ⟨hread, (readAt_renewed .standard _ 0 15 _ hread).1 hunbroken⟩

-- The CR stands alone, so it does not end the line.
theorem encode_of_lone_cr :
    readAt .standard 0 [43, 97, 13, 98, 13, 10] 0 = .ok (.simple "a\rb", 6) ∧
      (Frame.simple "a\rb").encode = .error ⟨.simpleString⟩ := by
  constructor <;> with_unfolding_all rfl

end RespStore.Frame
