import RespStore.Proofs.Chunking
import RespStore.Proofs.Frame.Locality

set_option autoImplicit false

namespace RespStore

variable {limits : Limits}

namespace Frame

theorem Derives.readAt_self {s : Bytes} {frame : Frame} (h : Derives limits 0 s frame) :
    readAt limits 0 s 0 = .ok (frame, s.length) := by
  have hread := read_of_derives h []
  rw [List.append_nil] at hread
  rw [readAt, List.drop_zero, hread]
  rfl

/-- What is read of a stream is cut into the bytes of each frame and the start of the next one. -/
theorem exists_pieces_of_readAll {s held : Bytes} {frames : List Frame}
    (h : readAll limits s = .ok (frames, held)) :
    ∃ pieces : List (Bytes × Frame), s = pieces.flatMap Prod.fst ++ held ∧
      frames = pieces.map Prod.snd ∧ (∀ piece ∈ pieces, Derives limits 0 piece.1 piece.2) ∧
      read limits 0 held = .error .incomplete := by
  induction s using stream_induction limits generalizing frames with
  | step s ih =>
    rw [readAll_eq] at h
    cases hread : read limits 0 s with
    | error fault =>
      rw [hread] at h
      cases fault with
      | malformed cause => cases h
      | incomplete =>
        cases h
        exact ⟨[], rfl, rfl, by simp, hread⟩
    | ok result =>
      obtain ⟨frame, rest⟩ := result
      rw [hread] at h
      simp only at h
      split at h
      · cases h
      · rename_i more held' hrest
        cases h
        obtain ⟨front, rfl, hfront⟩ := derives_of_read hread
        obtain ⟨pieces, rfl, rfl, hpieces, hheld⟩ := ih frame rest hread hrest
        refine ⟨(front, frame) :: pieces, by simp, rfl, ?_, hheld⟩
        exact List.forall_mem_cons.2 ⟨hfront, hpieces⟩

end Frame

namespace Decoder

open RespStore.Frame (readAll readAt)

/-- The chunks since the last one that failed, each with the frames that answer it; `recent` are
those before. -/
def sinceFailure (recent : List (Bytes × List Frame)) :
    List (Bytes × Except Malformed (List Frame)) → List (Bytes × List Frame)
  | [] => recent
  | (chunk, .ok frames) :: rest => sinceFailure (recent ++ [(chunk, frames)]) rest
  | (_, .error _) :: rest => sinceFailure [] rest

/-- A decoder that holds what a stream leaves reads on in the stream, or starts anew. -/
theorem feed_cases {before held : Bytes} {frames : List Frame}
    (h : readAll limits before = .ok (frames, held)) (chunk : Bytes) :
    (∃ more last, feed ⟨limits, held⟩ chunk = (.ok more, ⟨limits, last⟩) ∧
      readAll limits (before ++ chunk) = .ok (frames ++ more, last)) ∨
    ∃ cause, feed ⟨limits, held⟩ chunk = (.error cause, fresh limits) := by
  cases hchunk : readAll limits (before ++ chunk) with
  | error cause => exact .inr ⟨cause, feed_of_error h hchunk⟩
  | ok result =>
    obtain ⟨all, last⟩ := result
    obtain ⟨-, rfl⟩ := Frame.readAll_held_append h hchunk
    exact .inl ⟨_, last, feed_of_ok h hchunk, rfl⟩

/-- What a decoder holds is always what one reading of the chunks since the last failure leaves. -/
theorem readAll_sinceFailure {recent : List (Bytes × List Frame)} {held : Bytes}
    (h : readAll limits (recent.flatMap Prod.fst) = .ok (recent.flatMap Prod.snd, held))
    (chunks : List Bytes) :
    ∃ answers last, run ⟨limits, held⟩ chunks = (answers, ⟨limits, last⟩) ∧
      readAll limits ((sinceFailure recent (chunks.zip answers)).flatMap Prod.fst) =
        .ok ((sinceFailure recent (chunks.zip answers)).flatMap Prod.snd, last) := by
  induction chunks generalizing recent held with
  | nil => exact ⟨[], held, rfl, h⟩
  | cons chunk rest ih =>
    rw [run_cons]
    rcases feed_cases h chunk with ⟨more, next, hfeed, hread⟩ | ⟨cause, hfeed⟩
    · have hrecent : readAll limits ((recent ++ [(chunk, more)]).flatMap Prod.fst) =
          .ok ((recent ++ [(chunk, more)]).flatMap Prod.snd, next) := by
        simpa using hread
      obtain ⟨answers, last, hrun, hall⟩ := ih hrecent
      rw [hfeed]
      exact ⟨.ok more :: answers, last, by rw [hrun], hall⟩
    · obtain ⟨answers, last, hrun, hall⟩ := @ih [] [] Frame.readAll_nil
      rw [hfeed]
      exact ⟨.error cause :: answers, last, by rw [fresh, hrun], hall⟩

/-- After any chunks, failed ones among them, the bytes since the last failure are those of the
frames given out since, each of which is read from its own bytes alone, and then what is held,
which is the start of a frame. No bytes bring no frame and change nothing, and after a failure
everything goes on as at the beginning. -/
theorem run_loses_nothing (limits : Limits) (chunks : List Bytes) :
    ∃ answers decoder, (fresh limits).run chunks = (answers, decoder) ∧
      answers.length = chunks.length ∧
      (∃ pieces : List (Bytes × Frame),
        (sinceFailure [] (chunks.zip answers)).flatMap Prod.fst =
          pieces.flatMap Prod.fst ++ decoder.held ∧
        (sinceFailure [] (chunks.zip answers)).flatMap Prod.snd = pieces.map Prod.snd ∧
        ∀ piece ∈ pieces, readAt limits 0 piece.1 0 = .ok (piece.2, piece.1.length)) ∧
      readAt limits 0 decoder.held 0 = .error .incomplete ∧
      decoder.feed [] = (.ok [], decoder) ∧
      ∀ chunk cause later, (decoder.feed chunk).1 = .error cause →
        decoder.run (chunk :: later) =
          (.error cause :: ((fresh limits).run later).1, ((fresh limits).run later).2) := by
  obtain ⟨answers, held, hrun, hall⟩ :=
    @readAll_sinceFailure limits [] [] Frame.readAll_nil chunks
  obtain ⟨pieces, hbytes, hframes, hpieces, hheld⟩ := Frame.exists_pieces_of_readAll hall
  have hlength := length_run (fresh limits) chunks
  rw [fresh, hrun] at hlength
  refine ⟨answers, ⟨limits, held⟩, hrun, hlength, ⟨pieces, hbytes, hframes, ?_⟩, ?_, ?_, ?_⟩
  · exact fun piece hpiece => (hpieces piece hpiece).readAt_self
  · exact Frame.readAt_eq_error_iff.2 hheld
  · simp only [feed, List.append_nil, Frame.readAll_eq held, hheld]
  · intro chunk cause later hcause
    rcases feed_cases hall chunk with ⟨more, last, hfeed, -⟩ | ⟨found, hfeed⟩
    · rw [hfeed] at hcause
      cases hcause
    · rw [hfeed] at hcause
      cases hcause
      rw [run_cons, hfeed]

def failing : List Bytes :=
  [[36, 50, 13], [10, 97, 98, 13, 10, 63], [58, 49, 13, 10, 36], [50]]

theorem run_loses_nothing_failing :
    ∃ (decoder : Decoder) (pieces : List (Bytes × Frame)),
      (fresh .standard).run failing =
        ([.ok [], .error (.unknownLead 63), .ok [.integer 1], .ok []], decoder) ∧
      [58, 49, 13, 10, 36, 50] = pieces.flatMap Prod.fst ++ decoder.held ∧
      [.integer 1] = pieces.map Prod.snd ∧
      readAt .standard 0 decoder.held 0 = .error .incomplete ∧
      decoder.run [[63, 13, 10], [43, 13, 10]] =
        ([.error (.invalidBulkLength "2?"), .ok [.simple ""]], fresh .standard) := by
  obtain ⟨answers, decoder, hrun, -, ⟨pieces, hbytes, hframes, -⟩, hheld, -, hfailed⟩ :=
    run_loses_nothing .standard failing
  have hvalue : (fresh .standard).run failing =
      ([.ok [], .error (.unknownLead 63), .ok [.integer 1], .ok []], ⟨.standard, [36, 50]⟩) := by
    with_unfolding_all rfl
  cases hrun.symm.trans hvalue
  have hlater : (fresh .standard).run [[43, 13, 10]] = ([.ok [.simple ""]], fresh .standard) := by
    with_unfolding_all rfl
  have hfeed : (feed ⟨.standard, [36, 50]⟩ [63, 13, 10]).1 = .error (.invalidBulkLength "2?") := by
    with_unfolding_all rfl
  have hrest := hfailed [63, 13, 10] _ [[43, 13, 10]] hfeed
  rw [hlater] at hrest
  exact ⟨_, pieces, hrun, hbytes, hframes, hheld, hrest⟩

end Decoder

end RespStore
