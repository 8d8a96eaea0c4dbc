import RespStore.Proofs.Frame.Extension

set_option autoImplicit false

namespace RespStore.Frame

variable {limits : Limits} {depth : Nat} {data : Bytes} {start stop : Nat} {frame : Frame}

theorem read_eq_incomplete_of_derives_append {s t : Bytes} (h : Derives limits depth (s ++ t) frame)
    (ht : t ≠ []) : read limits depth s = .error .incomplete := by
  have hwhole := read_of_derives h []
  rw [List.append_nil] at hwhole
  cases hs : read limits depth s with
  | ok result =>
    obtain ⟨found, rest⟩ := result
    rw [read_append_of_ok hs, Except.ok.injEq, Prod.mk.injEq, List.append_eq_nil_iff] at hwhole
    exact absurd hwhole.2.2 ht
  | error fault =>
    cases fault with
    | incomplete => rfl
    | malformed cause =>
      rw [read_append_of_malformed hs] at hwhole
      cases hwhole

theorem drop_eq_append (hstart : start ≤ stop) (hstop : stop ≤ data.length) :
    data.drop start = (data.take stop).drop start ++ data.drop stop := by
  conv => lhs; rw [← List.take_append_drop stop data]
  exact List.drop_append_of_le_length (by rw [List.length_take]; omega)

theorem derives_of_readAt (h : readAt limits depth data start = .ok (frame, stop)) :
    start < stop ∧ stop ≤ data.length ∧
      Derives limits depth ((data.take stop).drop start) frame := by
  obtain ⟨hstart, hstop, hread⟩ := readAt_eq_ok_iff.1 h
  obtain ⟨front, hfront, hderives⟩ := derives_of_read hread
  rw [drop_eq_append (Nat.le_of_lt hstart) hstop] at hfront
  exact ⟨hstart, hstop, List.append_cancel_right hfront ▸ hderives⟩

theorem readAt_take_append (h : readAt limits depth data start = .ok (frame, stop)) (tail : Bytes) :
    readAt limits depth (data.take stop ++ tail) start = .ok (frame, stop) := by
  obtain ⟨hstart, hstop, hderives⟩ := derives_of_readAt h
  have hlength : (data.take stop).length = stop := List.length_take_of_le hstop
  apply readAt_eq_ok_iff.2
  refine ⟨hstart, ?_, ?_⟩
  · rw [List.length_append, hlength]
    exact Nat.le_add_right stop tail.length
  · rw [List.drop_append_of_le_length (by omega), List.drop_left' hlength]
    exact read_of_derives hderives tail

theorem readAt_take_of_lt (h : readAt limits depth data start = .ok (frame, stop)) {length : Nat}
    (hlength : length < stop) (hstart : start ≤ length) :
    readAt limits depth (data.take length) start = .error .incomplete := by
  obtain ⟨-, hstop, hderives⟩ := derives_of_readAt h
  have htake : (data.take stop).take length = data.take length := by
    rw [List.take_take, Nat.min_eq_left (Nat.le_of_lt hlength)]
  have hfront : (data.take stop).drop start =
      (data.take length).drop start ++ (data.take stop).drop length := by
    rw [drop_eq_append hstart (by rw [List.length_take]; omega), htake]
  have hmissing : (data.take stop).drop length ≠ [] := by
    rw [ne_eq, List.drop_eq_nil_iff, List.length_take]
    omega
  rw [hfront] at hderives
  exact readAt_eq_error_iff.2 (read_eq_incomplete_of_derives_append hderives hmissing)

theorem readAt_append_of_malformed {cause : Malformed}
    (h : readAt limits depth data start = .error (.malformed cause)) (tail : Bytes) :
    readAt limits depth (data ++ tail) start = .error (.malformed cause) := by
  rw [readAt_eq_error_iff] at h ⊢
  rw [List.drop_append]
  exact read_append_of_malformed h _

theorem readAt_append_left (limits : Limits) (depth : Nat) (before data : Bytes) (start : Nat) :
    readAt limits depth (before ++ data) (before.length + start) =
      (readAt limits depth data start).map fun result => (result.1, before.length + result.2) := by
  rw [readAt, readAt, List.drop_append, List.drop_of_length_le (by omega), List.nil_append,
    Nat.add_sub_cancel_left]
  cases h : read limits depth (data.drop start) with
  | error fault => rfl
  | ok result =>
    obtain ⟨found, rest⟩ := result
    have hlength := length_of_read h
    have hend : (before ++ data).length - rest.length =
        before.length + (data.length - rest.length) := by
      rw [List.length_drop] at hlength
      rw [List.length_append]
      omega
    simp only [hend]
    rfl

theorem lt_of_readAt_append {tail : Bytes}
    (h : readAt limits depth data start = .error .incomplete)
    (hmore : readAt limits depth (data ++ tail) start = .ok (frame, stop)) :
    data.length < stop := by
  obtain ⟨hstart, hstop, hread⟩ := readAt_eq_ok_iff.1 hmore
  by_cases hwithin : start ≤ data.length
  · rw [List.drop_append_of_le_length hwithin] at hread
    have hlength := lt_length_of_read_append (readAt_eq_error_iff.1 h) hread
    rw [List.length_append] at hstop
    rw [List.length_drop, List.length_append] at hlength
    omega
  · omega

/-- Reading from a position gives the same frame, or the same reason why there is none, whatever
stands behind the bytes that decide it and whatever stands before the position. Cut short, a frame
is unfinished, so it can be tried again from the same position as often as more bytes come. -/
theorem readAt_local (limits : Limits) (depth : Nat) (data : Bytes) (start : Nat) :
    (∀ frame stop, readAt limits depth data start = .ok (frame, stop) →
      (∀ tail, readAt limits depth (data.take stop ++ tail) start = .ok (frame, stop)) ∧
      ∀ length, start ≤ length → length < stop →
        readAt limits depth (data.take length) start = .error .incomplete) ∧
    (∀ cause, readAt limits depth data start = .error (.malformed cause) →
      ∀ tail, readAt limits depth (data ++ tail) start = .error (.malformed cause)) ∧
    (∀ before, readAt limits depth (before ++ data) (before.length + start) =
      (readAt limits depth data start).map fun result => (result.1, before.length + result.2)) ∧
    (readAt limits depth data start = .error .incomplete →
      ∀ tail frame stop, readAt limits depth (data ++ tail) start = .ok (frame, stop) →
        data.length < stop) := by
  refine ⟨?_, ?_, ?_, ?_⟩
  · intro frame stop h
    exact ⟨readAt_take_append h, fun length hstart hlength => readAt_take_of_lt h hlength hstart⟩
  · exact fun cause h => readAt_append_of_malformed h
  · exact fun before => readAt_append_left limits depth before data start
  · exact fun h tail frame stop hmore => lt_of_readAt_append h hmore

-- The first frame is an array with a line end as payload, cut before its last byte; the second one
-- has no line end after its payload, which no later line end makes up for.
theorem readAt_local_bulk :
    readAt ⟨2, 1, 1⟩ 0 [42, 49, 13, 10, 36, 50, 13, 10, 13, 10, 13, 10, 33] 0 =
      .ok (.array [.bulk Bytes.crlf], 12) ∧
    readAt ⟨2, 1, 1⟩ 0 [42, 49, 13, 10, 36, 50, 13, 10, 13, 10, 13] 0 = .error .incomplete ∧
    readAt ⟨2, 1, 1⟩ 0 [43, 36, 48, 13, 10, 65, 66, 13, 10] 1 =
      .error (.malformed .unterminatedBulk) := by
  have hframe : readAt ⟨2, 1, 1⟩ 0 [42, 49, 13, 10, 36, 50, 13, 10, 13, 10, 13, 10] 0 =
      .ok (.array [.bulk Bytes.crlf], 12) := by with_unfolding_all rfl
  have hcause : readAt ⟨2, 1, 1⟩ 0 [36, 48, 13, 10, 65, 66] 0 =
      .error (.malformed .unterminatedBulk) := by with_unfolding_all rfl
  obtain ⟨hok, -⟩ := readAt_local ⟨2, 1, 1⟩ 0 [42, 49, 13, 10, 36, 50, 13, 10, 13, 10, 13, 10] 0
  obtain ⟨-, hmalformed, -⟩ := readAt_local ⟨2, 1, 1⟩ 0 [36, 48, 13, 10, 65, 66] 0
  obtain ⟨-, -, hbefore, -⟩ := readAt_local ⟨2, 1, 1⟩ 0 [36, 48, 13, 10, 65, 66, 13, 10] 0
  refine ⟨(hok _ _ hframe).1 [33], (hok _ _ hframe).2 11 (by decide) (by decide), ?_⟩
  have hshift := hbefore [43]
  have hlater : readAt ⟨2, 1, 1⟩ 0 [36, 48, 13, 10, 65, 66, 13, 10] 0 = _ :=
    hmalformed _ hcause [13, 10]
  rw [hlater] at hshift
  exact hshift

end RespStore.Frame
