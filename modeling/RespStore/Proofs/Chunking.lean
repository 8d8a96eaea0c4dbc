import RespStore.Decoder
import RespStore.Proofs.Frame.Stream

set_option autoImplicit false

namespace RespStore.Decoder

open RespStore.Frame (readAll completed)

def run (decoder : Decoder) : List Bytes → List (Except Malformed (List Frame)) × Decoder
  | [] => ([], decoder)
  | chunk :: rest =>
    match decoder.feed chunk with
    | (answer, next) =>
      match next.run rest with
      | (answers, last) => (answer :: answers, last)

def deliveries (limits : Limits) (before : Bytes) : List Bytes → List (List Frame)
  | [] => []
  | chunk :: rest => completed limits before chunk :: deliveries limits (before ++ chunk) rest

variable {limits : Limits}

theorem length_deliveries (before : Bytes) (chunks : List Bytes) :
    (deliveries limits before chunks).length = chunks.length := by
  induction chunks generalizing before with
  | nil => rfl
  | cons chunk rest ih => simp only [deliveries, List.length_cons, ih]

theorem take_deliveries (before : Bytes) (chunks : List Bytes) (k : Nat) :
    (deliveries limits before chunks).take k = deliveries limits before (chunks.take k) := by
  induction chunks generalizing before k with
  | nil => simp [deliveries]
  | cons chunk rest ih =>
    cases k with
    | zero => rfl
    | succ k => simp only [deliveries, List.take_succ_cons, ih]

theorem getElem?_deliveries (before : Bytes) (chunks : List Bytes) (k : Nat) :
    (deliveries limits before chunks)[k]? =
      chunks[k]?.map (completed limits (before ++ (chunks.take k).flatten)) := by
  induction chunks generalizing before k with
  | nil => rfl
  | cons chunk rest ih =>
    cases k with
    | zero => simp [deliveries]
    | succ k =>
      simp only [deliveries, List.getElem?_cons_succ, ih, List.take_succ_cons, List.flatten_cons,
        List.append_assoc]

theorem run_cons (decoder : Decoder) (chunk : Bytes) (rest : List Bytes) :
    decoder.run (chunk :: rest) =
      ((decoder.feed chunk).1 :: ((decoder.feed chunk).2.run rest).1,
        ((decoder.feed chunk).2.run rest).2) :=
  rfl

theorem length_run (decoder : Decoder) (chunks : List Bytes) :
    (decoder.run chunks).1.length = chunks.length := by
  induction chunks generalizing decoder with
  | nil => rfl
  | cons chunk rest ih => rw [run_cons, List.length_cons, List.length_cons, ih]

theorem limits_feed (decoder : Decoder) (chunk : Bytes) :
    (decoder.feed chunk).2.limits = decoder.limits := by
  rw [feed]
  split <;> rfl

theorem limits_run (decoder : Decoder) (chunks : List Bytes) :
    (decoder.run chunks).2.limits = decoder.limits := by
  induction chunks generalizing decoder with
  | nil => rfl
  | cons chunk rest ih => exact (ih _).trans (limits_feed decoder chunk)

theorem run_append (decoder : Decoder) (front back : List Bytes) :
    decoder.run (front ++ back) =
      ((decoder.run front).1 ++ ((decoder.run front).2.run back).1,
        ((decoder.run front).2.run back).2) := by
  induction front generalizing decoder with
  | nil => rfl
  | cons chunk rest ih =>
    simp only [List.cons_append, run, ih]

theorem take_fst_run (decoder : Decoder) (chunks : List Bytes) (k : Nat) :
    (decoder.run chunks).1.take k = (decoder.run (chunks.take k)).1 := by
  induction chunks generalizing decoder k with
  | nil => rw [List.take_nil, run, List.take_nil]
  | cons chunk rest ih =>
    cases k with
    | zero => rfl
    | succ k => rw [run_cons, List.take_succ_cons, List.take_succ_cons, run_cons, ih]

theorem feed_fresh_of_ok {s held : Bytes} {frames : List Frame}
    (h : readAll limits s = .ok (frames, held)) :
    (fresh limits).feed s = (.ok frames, ⟨limits, held⟩) := by
  simp only [feed, fresh, List.nil_append, h]

theorem feed_fresh_of_error {s : Bytes} {cause : Malformed} (h : readAll limits s = .error cause) :
    (fresh limits).feed s = (.error cause, fresh limits) := by
  simp only [feed, fresh, List.nil_append, h]

theorem fst_feed_fresh_eq_ok_iff {s : Bytes} {frames : List Frame} :
    ((fresh limits).feed s).1 = .ok frames ↔ ∃ held, readAll limits s = .ok (frames, held) := by
  cases h : readAll limits s with
  | error cause => simp [feed_fresh_of_error h]
  | ok result => simp [feed_fresh_of_ok h, Prod.ext_iff]

theorem fst_feed_fresh_eq_error_iff {s : Bytes} {cause : Malformed} :
    ((fresh limits).feed s).1 = .error cause ↔ readAll limits s = .error cause := by
  cases h : readAll limits s with
  | error found => simp [feed_fresh_of_error h]
  | ok result => simp [feed_fresh_of_ok h]

theorem feed_of_ok {before chunk held held' : Bytes} {frames frames' : List Frame}
    (hbefore : readAll limits before = .ok (frames, held))
    (hchunk : readAll limits (before ++ chunk) = .ok (frames', held')) :
    feed ⟨limits, held⟩ chunk = (.ok (completed limits before chunk), ⟨limits, held'⟩) := by
  have hmore := (Frame.readAll_held_append hbefore hchunk).1
  simp only [feed, hmore]

theorem feed_of_error {before chunk held : Bytes} {frames : List Frame} {cause : Malformed}
    (hbefore : readAll limits before = .ok (frames, held))
    (hchunk : readAll limits (before ++ chunk) = .error cause) :
    feed ⟨limits, held⟩ chunk = (.error cause, fresh limits) := by
  rw [Frame.readAll_append, hbefore] at hchunk
  simp only at hchunk
  split at hchunk
  · rename_i hmore
    cases hchunk
    simp only [feed, hmore, fresh]
  · cases hchunk

theorem run_of_ok {before held held' : Bytes} {chunks : List Bytes} {frames frames' : List Frame}
    (hbefore : readAll limits before = .ok (frames, held))
    (hchunks : readAll limits (before ++ chunks.flatten) = .ok (frames', held')) :
    run ⟨limits, held⟩ chunks = ((deliveries limits before chunks).map .ok, ⟨limits, held'⟩) ∧
      frames' = frames ++ (deliveries limits before chunks).flatten := by
  induction chunks generalizing before frames held with
  | nil =>
    rw [List.flatten_nil, List.append_nil, hbefore] at hchunks
    cases hchunks
    exact ⟨rfl, (List.append_nil _).symm⟩
  | cons chunk rest ih =>
    rw [List.flatten_cons, ← List.append_assoc] at hchunks
    obtain ⟨middle, held₁, hchunk⟩ := Frame.exists_readAll_of_append hchunks
    have hfeed := feed_of_ok hbefore hchunk
    have hmiddle := (Frame.readAll_held_append hbefore hchunk).2
    obtain ⟨hrun, hframes⟩ := ih hchunk hchunks
    constructor
    · simp only [run, hfeed, hrun, deliveries, List.map_cons]
    · rw [hframes, hmiddle, List.append_assoc]
      rfl

theorem exists_first_malformed {before held : Bytes} {chunks : List Bytes} {frames : List Frame}
    {cause : Malformed} (hbefore : readAll limits before = .ok (frames, held))
    (hchunks : readAll limits (before ++ chunks.flatten) = .error cause) :
    ∃ front chunk back frames' held', chunks = front ++ chunk :: back ∧
      readAll limits (before ++ front.flatten) = .ok (frames', held') ∧
      readAll limits (before ++ front.flatten ++ chunk) = .error cause := by
  induction chunks generalizing before frames held with
  | nil =>
    rw [List.flatten_nil, List.append_nil, hbefore] at hchunks
    cases hchunks
  | cons chunk rest ih =>
    rw [List.flatten_cons, ← List.append_assoc] at hchunks
    cases hchunk : readAll limits (before ++ chunk) with
    -- The cause stays the same when the later chunks follow.
    | error found =>
      rw [Frame.readAll_append_of_error hchunk] at hchunks
      cases hchunks
      exact ⟨[], chunk, rest, frames, held, rfl, by simpa using hbefore, by simpa using hchunk⟩
    | ok result =>
      obtain ⟨front, first, back, frames', held', hrest, hfront, hfirst⟩ := ih hchunk hchunks
      refine ⟨chunk :: front, first, back, frames', held', by rw [hrest]; rfl, ?_, ?_⟩
      · simpa using hfront
      · simpa using hfirst

theorem flatten_take_append_drop (chunks : List Bytes) (k : Nat) :
    (chunks.take k).flatten ++ (chunks.drop k).flatten = chunks.flatten := by
  rw [← List.flatten_append, List.take_append_drop]

theorem run_take_of_ok {chunks : List Bytes} {frames : List Frame} {held : Bytes}
    (h : readAll limits chunks.flatten = .ok (frames, held)) (k : Nat) :
    (fresh limits).feed (chunks.take k).flatten =
      (.ok ((deliveries limits [] chunks).take k).flatten,
        ((fresh limits).run (chunks.take k)).2) := by
  rw [← flatten_take_append_drop chunks k] at h
  obtain ⟨frames', held', htake⟩ := Frame.exists_readAll_of_append h
  obtain ⟨hrun, hframes⟩ := run_of_ok Frame.readAll_nil htake
  rw [feed_fresh_of_ok htake, take_deliveries, fresh, hrun, hframes]
  rfl

/-- How a stream is cut into chunks does not matter. As long as it is not malformed the answers are
the frames that each chunk completes, together those of one feed of all bytes, and the same bytes
are held. If one feed of all bytes fails, the first chunk after which one feed fails is answered
with the same cause, and the chunks before it with the frames of one feed of theirs. -/
theorem run_eq_feed_flatten (limits : Limits) (chunks : List Bytes) :
    (∀ frames, ((fresh limits).feed chunks.flatten).1 = .ok frames →
      ∃ answers : List (List Frame),
        ((fresh limits).run chunks).1 = answers.map .ok ∧ answers.flatten = frames ∧
        ((fresh limits).run chunks).2 = ((fresh limits).feed chunks.flatten).2 ∧
        (∀ k, (fresh limits).feed (chunks.take k).flatten =
          (.ok (answers.take k).flatten, ((fresh limits).run (chunks.take k)).2)) ∧
        ∀ k, answers[k]? = chunks[k]?.map (completed limits (chunks.take k).flatten)) ∧
    (∀ cause, ((fresh limits).feed chunks.flatten).1 = .error cause →
      ∃ (k : Nat) (answers : List (List Frame)) (later : List (Except Malformed (List Frame))),
        answers.length = k ∧ k < chunks.length ∧
        ((fresh limits).run chunks).1 = answers.map .ok ++ .error cause :: later ∧
        ((fresh limits).feed (chunks.take (k + 1)).flatten).1 = .error cause ∧
        ∀ j ≤ k, ((fresh limits).feed (chunks.take j).flatten).1 =
          .ok (answers.take j).flatten) := by
  constructor
  · intro frames h
    obtain ⟨held, hall⟩ := fst_feed_fresh_eq_ok_iff.1 h
    obtain ⟨hrun, hframes⟩ := run_of_ok Frame.readAll_nil hall
    refine ⟨deliveries limits [] chunks, ?_, hframes.symm, ?_, run_take_of_ok hall, ?_⟩
    · rw [fresh, hrun]
    · rw [feed_fresh_of_ok hall, fresh, hrun]
    · exact getElem?_deliveries [] chunks
  · intro cause h
    have hall := fst_feed_fresh_eq_error_iff.1 h
    obtain ⟨front, chunk, back, frames, held, rfl, hfront, hchunk⟩ :=
      exists_first_malformed Frame.readAll_nil hall
    rw [List.nil_append] at hfront hchunk
    obtain ⟨hrun, -⟩ := run_of_ok Frame.readAll_nil hfront
    refine ⟨front.length, deliveries limits [] front, ((fresh limits).run back).1,
      length_deliveries [] front, by simp, ?_, ?_, ?_⟩
    · rw [run_append, fresh, hrun]
      simp only [run, feed_of_error hfront hchunk]
      rfl
    · have htake : (front ++ chunk :: back).take (front.length + 1) = front ++ [chunk] := by
        simp [List.take_append, List.take_of_length_le]
      rw [htake, List.flatten_append, List.flatten_singleton]
      exact fst_feed_fresh_eq_error_iff.2 hchunk
    · intro j hj
      have htake : (front ++ chunk :: back).take j = front.take j :=
        List.take_append_of_le_length hj
      rw [htake, run_take_of_ok hfront j]

-- Both streams are cut between a CR and its LF.
theorem run_cut_in_line_end :
    (∃ answers : List (List Frame),
      ((fresh .standard).run [[58, 49], [], [50, 13], [10]]).1 = answers.map .ok ∧
        answers.flatten = [.integer 12]) ∧
    ∃ (answers : List (List Frame)) (later : List (Except Malformed (List Frame))),
      ((fresh .standard).run [[58, 49, 13], [10, 58], [63, 13], [10]]).1 =
        answers.map .ok ++ .error (.invalidInteger "?") :: later := by
  constructor
  · have hfeed : ((fresh .standard).feed [[58, 49], [], [50, 13], [10]].flatten).1 =
        .ok [.integer 12] := by with_unfolding_all rfl
    obtain ⟨answers, hrun, hflatten, -⟩ := (run_eq_feed_flatten .standard _).1 _ hfeed
    exact ⟨answers, hrun, hflatten⟩
  · have hfeed : ((fresh .standard).feed [[58, 49, 13], [10, 58], [63, 13], [10]].flatten).1 =
        .error (.invalidInteger "?") := by with_unfolding_all rfl
    obtain ⟨k, answers, later, -, -, hrun, -⟩ := (run_eq_feed_flatten .standard _).2 _ hfeed
    exact ⟨answers, later, hrun⟩

end RespStore.Decoder
