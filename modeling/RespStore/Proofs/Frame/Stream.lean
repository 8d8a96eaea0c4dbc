import RespStore.Proofs.Frame.Extension

/-!
# Frames of a stream

Reading a stream to the end is reading a first part of it, and then what that leaves together with
the rest. `completed` are the frames whose last byte lies in the rest.
-/

set_option autoImplicit false

namespace RespStore.Frame

variable {limits : Limits}

/-- A stream is read frame by frame, and what is left after a frame is shorter. -/
theorem stream_induction (limits : Limits) {motive : Bytes → Prop}
    (step : ∀ s, (∀ frame rest, read limits 0 s = .ok (frame, rest) → motive rest) → motive s)
    (s : Bytes) : motive s := by
  induction hn : s.length using Nat.strongRecOn generalizing s with
  | ind n ih =>
    subst hn
    apply step
    intro frame rest h
    have hlength := length_of_read h
    exact ih rest.length (by omega) rest rfl

theorem readAllAfter_step (done : List Frame) (s : Bytes) :
    readAllAfter limits done s =
      match read limits 0 s with
      | .ok (frame, rest) => readAllAfter limits (frame :: done) rest
      | .error .incomplete => .ok (done.reverse, s)
      | .error (.malformed cause) => .error cause := by
  rw [readAllAfter]
  split <;> rename_i h <;> rw [h]

theorem readAllAfter_eq (done : List Frame) (s : Bytes) :
    readAllAfter limits done s =
      match readAll limits s with
      | .error cause => .error cause
      | .ok (frames, held) => .ok (done.reverse ++ frames, held) := by
  induction s using stream_induction limits generalizing done with
  | step s ih =>
    rw [readAll, readAllAfter_step, readAllAfter_step]
    cases h : read limits 0 s with
    | ok result =>
      obtain ⟨frame, rest⟩ := result
      simp only [ih frame rest h (frame :: done), ih frame rest h [frame]]
      cases readAll limits rest <;> simp
    | error fault => cases fault <;> simp

theorem readAll_eq (s : Bytes) :
    readAll limits s =
      match read limits 0 s with
      | .ok (frame, rest) =>
        match readAll limits rest with
        | .error cause => .error cause
        | .ok (frames, held) => .ok (frame :: frames, held)
      | .error .incomplete => .ok ([], s)
      | .error (.malformed cause) => .error cause := by
  rw [readAll, readAllAfter_step]
  cases read limits 0 s with
  | error fault => cases fault <;> rfl
  | ok result =>
    obtain ⟨frame, rest⟩ := result
    exact readAllAfter_eq [frame] rest

/-- What `s` leaves is read on together with what follows. -/
theorem readAll_append (s t : Bytes) :
    readAll limits (s ++ t) =
      match readAll limits s with
      | .error cause => .error cause
      | .ok (frames, held) =>
        match readAll limits (held ++ t) with
        | .error cause => .error cause
        | .ok (more, held) => .ok (frames ++ more, held) := by
  induction s using stream_induction limits with
  | step s ih =>
    rw [readAll_eq s]
    cases h : read limits 0 s with
    | ok result =>
      obtain ⟨frame, rest⟩ := result
      rw [readAll_eq (s ++ t), read_append_of_ok h]
      simp only [ih frame rest h]
      cases readAll limits rest with
      | error cause => rfl
      | ok result =>
        simp only
        cases readAll limits (result.2 ++ t) <;> rfl
    | error fault =>
      cases fault with
      | incomplete =>
        simp only
        cases readAll limits (s ++ t) <;> simp
      | malformed cause =>
        rw [readAll_eq (s ++ t), read_append_of_malformed h]

theorem readAll_append_of_error {s : Bytes} {cause : Malformed}
    (h : readAll limits s = .error cause) (t : Bytes) : readAll limits (s ++ t) = .error cause := by
  rw [readAll_append, h]

theorem exists_readAll_of_append {s t : Bytes} {result : List Frame × Bytes}
    (h : readAll limits (s ++ t) = .ok result) :
    ∃ frames held, readAll limits s = .ok (frames, held) := by
  cases hs : readAll limits s with
  | error cause =>
    rw [readAll_append_of_error hs] at h
    cases h
  | ok result => exact ⟨result.1, result.2, rfl⟩

theorem readAll_nil : readAll limits [] = .ok ([], []) := by
  rw [readAll_eq, read_nil]

/-- A stream is malformed if complete frames come first and then what is no frame. -/
theorem readAll_eq_error_iff {s : Bytes} {cause : Malformed} :
    readAll limits s = .error cause ↔
      ∃ front rest frames, s = front ++ rest ∧ readAll limits front = .ok (frames, []) ∧
        read limits 0 rest = .error (.malformed cause) := by
  constructor
  · induction s using stream_induction limits with
    | step s ih =>
      intro h
      rw [readAll_eq] at h
      cases hread : read limits 0 s with
      | error fault =>
        rw [hread] at h
        cases fault with
        | incomplete => cases h
        | malformed found =>
          cases h
          exact ⟨[], s, [], rfl, readAll_nil, hread⟩
      | ok result =>
        obtain ⟨frame, later⟩ := result
        rw [hread] at h
        simp only at h
        split at h
        · rename_i hlater
          cases h
          obtain ⟨front, rest, frames, rfl, hfront, hrest⟩ := ih frame later hread hlater
          obtain ⟨first, rfl, hderives⟩ := derives_of_read hread
          refine ⟨first ++ front, rest, frame :: frames, (List.append_assoc _ _ _).symm, ?_, hrest⟩
          rw [readAll_eq, read_of_derives hderives front]
          simp only [hfront]
        · cases h
  · rintro ⟨front, rest, frames, rfl, hfront, hrest⟩
    rw [readAll_append, hfront]
    simp only [List.nil_append]
    rw [readAll_eq, hrest]

def stopsFrom (limits : Limits) (data : Bytes) (position : Nat) : List (Frame × Nat) :=
  match _h : readAt limits 0 data position with
  | .ok (frame, stop) => (frame, stop) :: stopsFrom limits data stop
  | .error _ => []
termination_by data.length - position
decreasing_by have := readAt_eq_ok_iff.1 _h; omega

/-- The frames whose last byte is in `chunk`, after the bytes `before` of the same stream. -/
def completed (limits : Limits) (before chunk : Bytes) : List Frame :=
  ((stopsFrom limits (before ++ chunk) 0).filter fun stop => before.length < stop.2).map Prod.fst

theorem lt_of_mem_stopsFrom {data : Bytes} {position : Nat} {stop : Frame × Nat}
    (h : stop ∈ stopsFrom limits data position) : position < stop.2 := by
  fun_induction stopsFrom limits data position with
  | case1 position frame next hread ih =>
    obtain ⟨hlt, -, -⟩ := readAt_eq_ok_iff.1 hread
    rcases List.mem_cons.1 h with rfl | hmem
    · exact hlt
    · exact Nat.lt_trans hlt (ih hmem)
  | case2 => cases h

theorem stopsFrom_of_ok {data : Bytes} {position stop : Nat} {frame : Frame}
    (h : readAt limits 0 data position = .ok (frame, stop)) :
    stopsFrom limits data position = (frame, stop) :: stopsFrom limits data stop := by
  rw [stopsFrom]
  split
  · rename_i hread
    rw [h] at hread
    cases hread
    rfl
  · rename_i hread
    rw [h] at hread
    cases hread

theorem stopsFrom_of_error {data : Bytes} {position : Nat} {fault : ReadError}
    (h : readAt limits 0 data position = .error fault) : stopsFrom limits data position = [] := by
  rw [stopsFrom]
  split
  · rename_i hread
    rw [h] at hread
    cases hread
  · rfl

theorem readAt_append_of_ok {before : Bytes} {position stop : Nat} {frame : Frame}
    (h : readAt limits 0 before position = .ok (frame, stop)) (chunk : Bytes) :
    readAt limits 0 (before ++ chunk) position = .ok (frame, stop) := by
  obtain ⟨hlt, hle, hread⟩ := readAt_eq_ok_iff.1 h
  apply readAt_eq_ok_iff.2
  refine ⟨hlt, ?_, ?_⟩
  · rw [List.length_append]
    omega
  · rw [List.drop_append_of_le_length (by omega), List.drop_append_of_le_length hle]
    exact read_append_of_ok hread chunk

theorem map_fst_stopsFrom {data held : Bytes} {position : Nat} {frames : List Frame}
    (h : readAll limits (data.drop position) = .ok (frames, held)) :
    (stopsFrom limits data position).map Prod.fst = frames := by
  fun_induction stopsFrom limits data position generalizing frames with
  | case1 position frame stop hread ih =>
    obtain ⟨-, -, hread⟩ := readAt_eq_ok_iff.1 hread
    rw [readAll_eq, hread] at h
    simp only at h
    split at h
    · cases h
    · rename_i frames' held' hrest
      cases h
      rw [List.map_cons, ih hrest]
  | case2 position fault hread =>
    rw [readAll_eq, readAt_eq_error_iff.1 hread] at h
    cases fault with
    | incomplete =>
      cases h
      rfl
    | malformed cause => cases h

/-- After an unfinished frame every frame ends beyond the bytes that were there. -/
theorem lt_of_mem_stopsFrom_append {before chunk : Bytes} {position : Nat} {stop : Frame × Nat}
    (hposition : position ≤ before.length)
    (hread : read limits 0 (before.drop position) = .error .incomplete)
    (h : stop ∈ stopsFrom limits (before ++ chunk) position) : before.length < stop.2 := by
  cases hfirst : readAt limits 0 (before ++ chunk) position with
  | error fault =>
    rw [stopsFrom_of_error hfirst] at h
    cases h
  | ok result =>
    obtain ⟨frame, first⟩ := result
    obtain ⟨-, hle, hdrop⟩ := readAt_eq_ok_iff.1 hfirst
    rw [List.drop_append_of_le_length hposition] at hdrop
    have hlength := lt_length_of_read_append hread hdrop
    rw [List.length_append] at hle
    rw [List.length_drop, List.length_append] at hlength
    rw [stopsFrom_of_ok hfirst] at h
    rcases List.mem_cons.1 h with rfl | hmem
    · simp only
      omega
    · have hlater := lt_of_mem_stopsFrom hmem
      omega

theorem filter_stopsFrom_append {before chunk held held' : Bytes} {position : Nat}
    {frames more : List Frame} (hposition : position ≤ before.length)
    (hbefore : readAll limits (before.drop position) = .ok (frames, held))
    (hchunk : readAll limits (held ++ chunk) = .ok (more, held')) :
    ((stopsFrom limits (before ++ chunk) position).filter fun stop => before.length < stop.2).map
      Prod.fst = more := by
  fun_induction stopsFrom limits before position generalizing frames with
  | case1 position frame stop hread ih =>
    obtain ⟨-, hle, hdrop⟩ := readAt_eq_ok_iff.1 hread
    rw [readAll_eq, hdrop] at hbefore
    simp only at hbefore
    split at hbefore
    · cases hbefore
    · rename_i frames' held' hrest
      cases hbefore
      rw [stopsFrom_of_ok (readAt_append_of_ok hread chunk), List.filter_cons_of_neg (by simpa)]
      exact ih hle hrest
  | case2 position fault hread =>
    have hdrop := readAt_eq_error_iff.1 hread
    rw [readAll_eq, hdrop] at hbefore
    cases fault with
    | malformed cause => cases hbefore
    | incomplete =>
      cases hbefore
      rw [← List.drop_append_of_le_length hposition] at hchunk
      rw [List.filter_eq_self.2, map_fst_stopsFrom hchunk]
      intro stop hmem
      exact decide_eq_true (lt_of_mem_stopsFrom_append hposition hdrop hmem)

/-- The frames that a chunk completes are those read of what was left before it. -/
theorem completed_eq {before chunk held held' : Bytes} {frames more : List Frame}
    (hbefore : readAll limits before = .ok (frames, held))
    (hchunk : readAll limits (held ++ chunk) = .ok (more, held')) :
    completed limits before chunk = more :=
  filter_stopsFrom_append (Nat.zero_le _) hbefore hchunk

theorem readAll_held_append {before chunk held held' : Bytes} {frames frames' : List Frame}
    (hbefore : readAll limits before = .ok (frames, held))
    (hchunk : readAll limits (before ++ chunk) = .ok (frames', held')) :
    readAll limits (held ++ chunk) = .ok (completed limits before chunk, held') ∧
      frames' = frames ++ completed limits before chunk := by
  rw [readAll_append, hbefore] at hchunk
  simp only at hchunk
  split at hchunk
  · cases hchunk
  · rename_i more rest hmore
    cases hchunk
    rw [completed_eq hbefore hmore]
    exact ⟨hmore, rfl⟩

theorem completed_nil {before held : Bytes} {frames : List Frame}
    (hbefore : readAll limits before = .ok (frames, held)) : completed limits before [] = [] := by
  have hsame : readAll limits (before ++ []) = .ok (frames, held) := by
    rw [List.append_nil]
    exact hbefore
  have hframes := (readAll_held_append hbefore hsame).2
  exact List.self_eq_append_right.1 hframes

end RespStore.Frame
