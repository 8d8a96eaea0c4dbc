import RespStore.Proofs.Command.Counting
import RespStore.Proofs.Connection.Replies
import RespStore.Proofs.Service.Refinement

set_option autoImplicit false

namespace RespStore.Service

open Connection (Event Turn sent)
open Decimal (maxInt64)
open RespStore.Frame (readAll)

theorem mem_of_mem_atNumber {α : Type} {number : Nat} {items : List (Nat × α)} {item : α}
    (h : item ∈ atNumber number items) : (number, item) ∈ items := by
  induction items with
  | nil => cases h
  | cons entry rest ih =>
    obtain ⟨other, first⟩ := entry
    rw [atNumber] at h
    split at h
    · rename_i hnumber
      subst hnumber
      rcases List.mem_cons.1 h with rfl | h
      · exact List.mem_cons_self
      · exact List.mem_cons_of_mem _ (ih h)
    · exact List.mem_cons_of_mem _ (ih h)

theorem atNumber_zip_map {α β : Type} (f : α → β) (number : Nat) (numbers : List Nat)
    (items : List α) :
    atNumber number (numbers.zip (items.map f)) = (atNumber number (numbers.zip items)).map f := by
  induction numbers generalizing items with
  | nil => rfl
  | cons other numbers ih =>
    cases items with
    | nil => rfl
    | cons item items =>
      simp only [List.map_cons, List.zip_cons_cons, atNumber, ih]
      split <;> rfl

variable {limits : Nat → Limits}

/-- What is written to a connection is drained as the frames that are sent for its entries of the
log. -/
theorem drain_written {before events : List (Nat × Event)} {store last : Store}
    {turns : List Turn} (h : Follows limits before events store turns last) (client : Limits)
    (hbulk : ∀ payload,
      .bulk payload ∈ (executeAll store ((log limits before events).map Prod.snd)).1 →
        payload.length ≤ client.maxBulk.toNat ∧ payload.length ≤ maxInt64) (number : Nat) :
    FrameBuffer.drain ⟨client, written number events turns⟩ =
      (atNumber number (((log limits before events).map Prod.fst).zip
        ((executeAll store ((log limits before events).map Prod.snd)).1.map sent)), .ok (),
        FrameBuffer.empty client) := by
  rw [h.written, ← Connection.bytesOfAll_map_sent, atNumber_zip_map]
  apply FrameBuffer.drain_bytesOfAll
  intro frame hframe
  obtain ⟨reply, hmem, rfl⟩ := List.mem_map.1 hframe
  have hreply := (List.of_mem_zip (mem_of_mem_atNumber hmem)).2
  obtain ⟨found, asked, rfl⟩ := exists_execute_of_mem hreply
  apply Connection.fits_sent
  · exact execute_ne_array found asked
  · intro payload hpayload
    rw [hpayload] at hreply
    exact hbulk payload hreply

/-- Those of the frames received for a log that answer increments of a key, in order. -/
def answers (key : Bytes) (entries : List (Nat × Frame)) (received : List Frame) : List Frame :=
  ((entries.zip received).filter fun entry => entry.1.2.Increments key).map Prod.snd

theorem answers_map_sent (key : Bytes) (store : Store) (entries : List (Nat × Frame)) :
    answers key entries ((executeAll store (entries.map Prod.snd)).1.map sent) =
      (Frame.incrementReplies key store (entries.map Prod.snd)).map sent := by
  rw [answers, Frame.incrementReplies, List.zip_map_left, List.zip_map_right, List.filter_map,
    List.filter_map, List.map_map, List.map_map, List.map_map]
  rfl

theorem overflow_reply_eq : Frame.errorReply CountError.overflow.message =
    .error "ERR increment or decrement would overflow" :=
  congrArg Frame.error (by decide +kernel)

theorem sent_countReply (n : Int) : sent (Frame.countReply n) = Frame.countReply n := by
  apply Connection.sent_of_unbroken
  unfold Frame.countReply
  split
  · rfl
  · decide +kernel

/-- Increments of a key that no other command changes are answered with the numbers that follow the
one it holds, each once, in the order in which they are complete, and it then holds the last of
them. Past the largest number they are answered with an error and change nothing. The answers are
those that the clients drain. -/
theorem run_increments (limits : Nat → Limits) {store : Store} {key : Bytes} {v : Int64}
    (hkey : store.get? key = none ∧ v = 0 ∨
      ∃ text, store.get? key = some text ∧ Decimal.readInt64? text = some v)
    {events : List (Nat × Event)} (hproceeds : ∀ event ∈ events, event.2.Proceeds)
    (hformed : ∀ number cause, readAll (limits number) (stream number events) ≠ .error cause)
    {entries : List (Nat × Frame)} (hlog : log limits [] events = entries)
    (honly : ∀ entry ∈ entries, entry.2.OnlyIncrements key) {count : Nat}
    (hcount : (entries.countP fun entry => entry.2.Increments key) = count) (hpos : 0 < count) :
    ∃ turns last received, (start limits store).run events = (turns, last) ∧
      received.length = entries.length ∧
      (∀ (number : Nat) (client : Limits),
        (∀ payload, .bulk payload ∈ (executeAll store (entries.map Prod.snd)).1 →
          payload.length ≤ client.maxBulk.toNat ∧ payload.length ≤ maxInt64) →
        FrameBuffer.drain ⟨client, written number events turns⟩ =
          (atNumber number ((entries.map Prod.fst).zip received), .ok (),
            FrameBuffer.empty client)) ∧
      (v.toInt + count ≤ maxInt64 →
        answers key entries received = (List.range count).map
          (fun i : Nat => Frame.integer (Int64.ofInt (v.toInt + i + 1))) ∧
        last.store.get? key = some (Decimal.ofInt (v.toInt + count))) ∧
      (maxInt64 < v.toInt + count →
        answers key entries received = (List.range (maxInt64 - v.toInt).toNat).map
            (fun i : Nat => Frame.integer (Int64.ofInt (v.toInt + i + 1))) ++
          List.replicate (count - (maxInt64 - v.toInt).toNat)
            (.error "ERR increment or decrement would overflow") ∧
        last.store.get? key =
          if v.toInt = maxInt64 then store.get? key else some (Decimal.ofInt maxInt64)) := by
  obtain ⟨-, hfollows⟩ := run_of_tracks (tracks_start limits store) hproceeds hformed
  have hdrain := drain_written hfollows
  rw [hlog] at hdrain
  have hle := Store.toInt_le_maxInt64 v
  have hframes : ∀ frame ∈ entries.map Prod.snd, frame.OnlyIncrements key := by
    intro frame hmem
    obtain ⟨entry, hentry, rfl⟩ := List.mem_map.1 hmem
    exact honly entry hentry
  have hnumber : (entries.map Prod.snd).countP (fun frame => frame.Increments key) = count := by
    rw [List.countP_map]
    exact hcount
  obtain ⟨hreplies, htext⟩ :=
    Frame.executeAll_increments hframes (Store.number?_eq_some_iff.2 hkey) hnumber
  have hlast : ((start limits store).run events).2.store.get? key =
      Frame.countText (store.get? key) v.toInt count := by
    rw [hfollows.last, hlog]
    exact htext
  have hanswers : answers key entries ((executeAll store (entries.map Prod.snd)).1.map sent) =
      (List.range count).map fun i : Nat => Frame.countReply (v.toInt + i) := by
    rw [answers_map_sent, hreplies, List.map_map]
    exact List.map_congr_left fun i _ => sent_countReply _
  refine ⟨_, _, (executeAll store (entries.map Prod.snd)).1.map sent, rfl, ?_,
    fun number client hbulk => hdrain client hbulk number, ?_, ?_⟩
  · rw [List.length_map, length_executeAll, List.length_map]
  · intro hfits
    rw [hanswers, hlast]
    exact ⟨Frame.map_countReply_of_le hfits, Frame.countText_of_le hpos hfits _⟩
  · intro hpast
    rw [hanswers, hlast, ← overflow_reply_eq]
    exact ⟨Frame.map_countReply_of_lt hle hpast, Frame.countText_of_lt hle hpast _⟩

def almostFull : Store :=
  Store.empty.set [107] [57, 50, 50, 51, 51, 55, 50, 48, 51, 54, 56, 53, 52, 55, 55, 53, 56, 48, 54]

def overtakingLog : List (Nat × Frame) :=
  [(2, .array [.bulk [73, 78, 67, 82], .bulk [107]]),
    (1, .array [.bulk [73, 78, 67, 82], .bulk [107]])]

-- The increment that is complete first gets the number that is left, the other one an error.
theorem run_increments_overflow :
    ∃ turns last received, (start (fun _ => .standard) almostFull).run overtaking = (turns, last) ∧
      written 2 overtaking turns =
        [58, 57, 50, 50, 51, 51, 55, 50, 48, 51, 54, 56, 53, 52, 55, 55, 53, 56, 48, 55, 13, 10] ∧
      written 1 overtaking turns =
        [45, 69, 82, 82, 32, 105, 110, 99, 114, 101, 109, 101, 110, 116, 32, 111, 114, 32, 100,
          101, 99, 114, 101, 109, 101, 110, 116, 32, 119, 111, 117, 108, 100, 32, 111, 118, 101,
          114, 102, 108, 111, 119, 13, 10] ∧
      FrameBuffer.drain ⟨.standard, written 2 overtaking turns⟩ =
        ([.integer 9223372036854775807], .ok (), FrameBuffer.empty .standard) ∧
      FrameBuffer.drain ⟨.standard, written 1 overtaking turns⟩ =
        ([.error "ERR increment or decrement would overflow"], .ok (),
          FrameBuffer.empty .standard) ∧
      answers [107] overtakingLog received = [.integer 9223372036854775807,
        .error "ERR increment or decrement would overflow"] ∧
      last.store.get? [107] = some
        [57, 50, 50, 51, 51, 55, 50, 48, 51, 54, 56, 53, 52, 55, 55, 53, 56, 48, 55] := by
  have hkey : almostFull.get? [107] = none ∧ (9223372036854775806 : Int64) = 0 ∨
      ∃ text, almostFull.get? [107] = some text ∧
        Decimal.readInt64? text = some 9223372036854775806 := by
    exact .inr ⟨_, rfl, by decide +kernel⟩
  have hlog : log (fun _ => .standard) [] overtaking = overtakingLog := by with_unfolding_all rfl
  have hincrement : Command.ofFrame (.array [.bulk [73, 78, 67, 82], .bulk [107]]) =
      .ok (.incr [107]) := by with_unfolding_all rfl
  have honly : ∀ entry ∈ overtakingLog, entry.2.OnlyIncrements [107] := by
    intro entry hmem command hcommand _
    rw [overtakingLog, List.mem_cons, List.mem_singleton] at hmem
    rcases hmem with rfl | rfl <;> exact (Except.ok.inj (hincrement.symm.trans hcommand)).symm
  have hcount : (overtakingLog.countP fun entry => entry.2.Increments [107]) = 2 :=
    List.countP_eq_length.2 (by simp [overtakingLog, Frame.Increments, hincrement])
  obtain ⟨turns, last, received, hrun, hlength, hdrain, -, hpast⟩ :=
    run_increments (fun _ => .standard) hkey proceeds_overtaking readAll_stream_overtaking hlog
      honly hcount (by decide)
  obtain ⟨hreplied, htext⟩ := hpast (by decide)
  have hanswers : answers [107] overtakingLog received = [.integer 9223372036854775807,
      .error "ERR increment or decrement would overflow"] := hreplied
  have hfirst : written 2 overtaking ((start (fun _ => .standard) almostFull).run overtaking).1 =
      [58, 57, 50, 50, 51, 51, 55, 50, 48, 51, 54, 56, 53, 52, 55, 55, 53, 56, 48, 55, 13, 10] := by
    with_unfolding_all rfl
  have hsecond : written 1 overtaking ((start (fun _ => .standard) almostFull).run overtaking).1 =
      [45, 69, 82, 82, 32, 105, 110, 99, 114, 101, 109, 101, 110, 116, 32, 111, 114, 32, 100, 101,
        99, 114, 101, 109, 101, 110, 116, 32, 119, 111, 117, 108, 100, 32, 111, 118, 101, 114,
        102, 108, 111, 119, 13, 10] := by
    with_unfolding_all rfl
  rw [hrun] at hfirst hsecond
  -- Both frames are increments, so what was received is what answers them.
  have hreceived : received = [.integer 9223372036854775807,
      .error "ERR increment or decrement would overflow"] := by
    obtain ⟨first, second, rfl⟩ := List.length_eq_two.1 hlength
    rw [← hanswers]
    simp [answers, overtakingLog, Frame.Increments, hincrement]
  have hreplies : (executeAll almostFull (overtakingLog.map Prod.snd)).1 =
      [.integer 9223372036854775807, .error "ERR increment or decrement would overflow"] := by
    with_unfolding_all rfl
  have hbulk : ∀ payload, .bulk payload ∈ (executeAll almostFull
      (overtakingLog.map Prod.snd)).1 →
        payload.length ≤ Limits.standard.maxBulk.toNat ∧ payload.length ≤ maxInt64 := by
    simp [hreplies]
  refine ⟨turns, last, received, hrun, hfirst, hsecond, ?_, ?_, hanswers, ?_⟩
  · rw [hdrain 2 .standard hbulk, hreceived]
    rfl
  · rw [hdrain 1 .standard hbulk, hreceived]
    rfl
  · rw [htext]
    decide +kernel

end RespStore.Service
