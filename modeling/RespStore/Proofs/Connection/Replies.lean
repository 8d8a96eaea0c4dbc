import RespStore.Proofs.Command.Replies
import RespStore.Proofs.Connection
import RespStore.Proofs.FrameBuffer

set_option autoImplicit false

namespace RespStore

/-- What is held is the start of one frame and no more. -/
def Decoder.Waits (decoder : Decoder) : Prop :=
  Frame.readAll decoder.limits decoder.held = .ok ([], decoder.held)

namespace Decoder

theorem waits_fresh (limits : Limits) : (fresh limits).Waits := Frame.readAll_nil

theorem waits_of_readAll {limits : Limits} {s held : Bytes} {frames : List Frame}
    (h : Frame.readAll limits s = .ok (frames, held)) : Waits ⟨limits, held⟩ := by
  have hagain := h
  rw [← List.append_nil s] at hagain
  have hmore := (Frame.readAll_held_append h hagain).1
  rwa [Frame.completed_nil h, List.append_nil] at hmore

theorem waits_feed (decoder : Decoder) (chunk : Bytes) : (decoder.feed chunk).2.Waits := by
  unfold feed
  split
  · rename_i h
    exact waits_of_readAll h
  · exact waits_fresh decoder.limits

theorem Waits.ne_nil_of_feed {decoder next : Decoder} (hwaits : decoder.Waits) {chunk : Bytes}
    {frames : List Frame} (hfeed : decoder.feed chunk = (.ok frames, next))
    (hframes : frames ≠ []) : chunk ≠ [] := by
  rintro rfl
  rw [feed, List.append_nil, hwaits] at hfeed
  cases hfeed
  exact hframes rfl

end Decoder

namespace Connection

theorem unwritable_eq : unwritable = .error "ERR internal encode error" :=
  congrArg Frame.error (by decide +kernel)

/-- The first letters after ERR tell apart the error that stands in for a reply. -/
theorem errorReply_ne_unwritable {message : String}
    (h : message.toList.take 3 ≠ ['i', 'n', 't']) :
    Frame.errorReply message ≠ unwritable := by
  intro heq
  rw [unwritable, Frame.errorReply, Frame.errorReply, Frame.error.injEq,
    String.append_right_inj] at heq
  rw [heq] at h
  exact h (by decide +kernel)

theorem answer_ne_unwritable {reply : Frame} (h : Command.Answer reply) : reply ≠ unwritable := by
  cases h with
  | integer | bulk | null | ok | pong => nofun
  | fault fault =>
    apply errorReply_ne_unwritable
    cases fault <;> decide +kernel

theorem rejection_ne_unwritable (rejection : Rejection) : rejection.reply ≠ unwritable := by
  apply errorReply_ne_unwritable
  unfold Rejection.message
  cases rejection <;> simp

/-- No reply is the error that stands in for one that cannot be written. -/
theorem execute_ne_unwritable (store : Store) (frame : Frame) :
    (execute store frame).1 ≠ unwritable := by
  unfold execute
  split
  · exact answer_ne_unwritable (Command.answer_run store _)
  · exact rejection_ne_unwritable _

def sent (reply : Frame) : Frame :=
  if reply.brokenKind? = none then reply else unwritable

theorem sent_of_unbroken {reply : Frame} (h : reply.brokenKind? = none) : sent reply = reply :=
  if_pos h

theorem brokenKind?_unwritable : unwritable.brokenKind? = none := by
  decide +kernel

theorem brokenKind?_sent (reply : Frame) : (sent reply).brokenKind? = none := by
  unfold sent
  split
  · assumption
  · exact brokenKind?_unwritable

theorem bytes_sent (reply : Frame) : (sent reply).bytes = replyBytes reply := by
  unfold sent replyBytes Frame.encode
  cases reply.brokenKind? <;> rfl

theorem replyBytes_of_unbroken {reply : Frame} (h : reply.brokenKind? = none) :
    replyBytes reply = reply.bytes := by
  rw [← bytes_sent, sent_of_unbroken h]

theorem bytesOfAll_map_sent (replies : List Frame) :
    Frame.bytesOfAll (replies.map sent) = repliesBytes replies := by
  induction replies with
  | nil => rfl
  | cons reply rest ih =>
    rw [List.map_cons, Frame.bytesOfAll, ih, bytes_sent]
    rfl

def writeReply (out : Bytes) (reply : Frame) : Bytes :=
  match reply.encodeInto out with
  | (.ok (), out) => out
  | (.error _, out) => out ++ unwritable.bytes

theorem writeReply_eq (out : Bytes) (reply : Frame) :
    writeReply out reply = out ++ replyBytes reply := by
  unfold writeReply replyBytes Frame.encodeInto
  cases reply.encode <;> rfl

theorem foldl_writeReply (out : Bytes) (replies : List Frame) :
    replies.foldl writeReply out = out ++ repliesBytes replies := by
  induction replies generalizing out with
  | nil => exact (List.append_nil out).symm
  | cons reply rest ih =>
    rw [List.foldl_cons, ih, writeReply_eq, List.append_assoc]
    rfl

theorem fits_sent {limits : Limits} {reply : Frame} (harray : ∀ items, reply ≠ .array items)
    (hbulk : ∀ payload, reply = .bulk payload →
      payload.length ≤ limits.maxBulk.toNat ∧ payload.length ≤ Decimal.maxInt64) :
    (sent reply).Fits limits := by
  apply Frame.fits_of_ne_array _ (brokenKind?_sent reply)
  · intro payload h
    unfold sent at h
    split at h
    · exact hbulk payload h
    · cases h
  · intro items h
    unfold sent at h
    split at h
    · exact harray items h
    · cases h

theorem sent_execute_eq_unwritable_iff (store : Store) (frame : Frame) :
    sent (execute store frame).1 = unwritable ↔ frame.BreaksName := by
  have hbroken := brokenKind?_execute_eq_none_iff store frame
  unfold sent
  split
  · rename_i h
    exact iff_of_false (execute_ne_unwritable store frame) (hbroken.1 h)
  · rename_i h
    exact iff_of_true rfl (Classical.not_not.1 (mt hbroken.2 h))

/-- An active connection answers the frames that a chunk completes with one frame each and nothing
else, whatever bytes names, keys and values are. A client drains the reply to each frame; only the
reply to an unknown command whose name holds a line break is replaced by an error. Lengths above
`Decimal.maxInt64` cannot be announced, and no payload in memory has one. -/
theorem drain_step_received (limits : Limits) {decoder next : Decoder} (hwaits : decoder.Waits)
    (store : Store) {chunk : Bytes} {frames : List Frame}
    (hfeed : decoder.feed chunk = (.ok frames, next)) (hframes : frames ≠ [])
    (hbulk : ∀ payload, .bulk payload ∈ (executeAll store frames).1 →
      payload.length ≤ limits.maxBulk.toNat ∧ payload.length ≤ Decimal.maxInt64) :
    ∃ (out : Bytes) (replies : List Frame),
      step ⟨.active, decoder⟩ store (.received chunk) =
        ⟨.write out, ⟨.active, next⟩, (executeAll store frames).2, false⟩ ∧
      out = (executeAll store frames).1.foldl writeReply [] ∧
      FrameBuffer.drain ⟨limits, out⟩ = (replies, .ok (), FrameBuffer.empty limits) ∧
      replies.length = frames.length ∧
      ∀ (i : Nat) (frame reply : Frame), frames[i]? = some frame →
        (executeAll store frames).1[i]? = some reply →
        (replies[i]? = some (.error "ERR internal encode error") ↔ frame.BreaksName) ∧
        (¬ frame.BreaksName → replies[i]? = some reply) ∧
        (frame.BreaksName → ∃ name, Command.ofFrame frame = .error (.unknownCommand name)) := by
  refine ⟨repliesBytes (executeAll store frames).1, (executeAll store frames).1.map sent, ?_, ?_,
    ?_, ?_, ?_⟩
  · rw [step_received (hwaits.ne_nil_of_feed hfeed hframes), process_of_feed hfeed, requestOf,
      if_neg (mt (executeAll_eq_nil_iff store frames).1 hframes)]
  · rw [foldl_writeReply, List.nil_append]
  · rw [← bytesOfAll_map_sent]
    apply FrameBuffer.drain_bytesOfAll
    intro frame hframe
    obtain ⟨reply, hmem, rfl⟩ := List.mem_map.1 hframe
    obtain ⟨before, frame, hreply⟩ := exists_execute_of_mem hmem
    apply fits_sent
    · intro items
      rw [hreply]
      exact execute_ne_array before frame items
    · rintro payload rfl
      exact hbulk payload hmem
  · rw [List.length_map, length_executeAll]
  · intro i frame reply hframe hreply
    rw [List.getElem?_map, hreply, Option.map_some]
    rw [getElem?_executeAll, hframe, Option.map_some, Option.some.injEq] at hreply
    rw [← hreply, ← unwritable_eq, Option.some.injEq, Option.some.injEq]
    refine ⟨sent_execute_eq_unwritable_iff _ frame, ?_, ?_⟩
    · intro hname
      exact sent_of_unbroken ((brokenKind?_execute_eq_none_iff _ frame).2 hname)
    · intro hname
      obtain ⟨name, hreject, -⟩ := (Command.breaksName_iff frame).1 hname
      exact ⟨name, hreject⟩

-- The name of the first command, cut in two by the chunk, is a, CR, LF, b; the second is a PING.
theorem drain_step_broken_name :
    ∃ (out : Bytes) (replies : List Frame),
      (step ⟨.active, ⟨.standard, [42, 49, 13, 10, 36, 52, 13, 10, 97]⟩⟩ .empty
        (.received [13, 10, 98, 13, 10, 42, 49, 13, 10, 36, 52, 13, 10, 80, 73, 78, 71, 13,
          10])).request = .write out ∧
      FrameBuffer.drain ⟨.standard, out⟩ = (replies, .ok (), FrameBuffer.empty .standard) ∧
      replies.length = 2 ∧ replies[0]? = some (.error "ERR internal encode error") ∧
      replies[1]? = some (.simple "PONG") := by
  have hwaits : Decoder.Waits ⟨.standard, [42, 49, 13, 10, 36, 52, 13, 10, 97]⟩ := by
    with_unfolding_all rfl
  have hfeed : Decoder.feed ⟨.standard, [42, 49, 13, 10, 36, 52, 13, 10, 97]⟩
      [13, 10, 98, 13, 10, 42, 49, 13, 10, 36, 52, 13, 10, 80, 73, 78, 71, 13, 10] =
        (.ok [.array [.bulk [97, 13, 10, 98]], .array [.bulk [80, 73, 78, 71]]],
          ⟨.standard, []⟩) := by
    with_unfolding_all rfl
  have hreplies : (executeAll .empty
      [.array [.bulk [97, 13, 10, 98]], .array [.bulk [80, 73, 78, 71]]]).1 =
        [Frame.errorReply "unknown command 'a\r\nb'", .simple "PONG"] := by
    with_unfolding_all rfl
  have hbroken : (Frame.array [.bulk [97, 13, 10, 98]]).BreaksName :=
    ⟨.bulk [97, 13, 10, 98], [], _, rfl, rfl, by decide⟩
  have hplain : ¬ (Frame.array [.bulk [80, 73, 78, 71]]).BreaksName := by
    rintro ⟨head, rest, name, h, hname, hbreak⟩
    cases h
    cases hname
    revert hbreak
    decide
  have hbulk : ∀ payload, .bulk payload ∈ (executeAll .empty
      [.array [.bulk [97, 13, 10, 98]], .array [.bulk [80, 73, 78, 71]]]).1 →
        payload.length ≤ Limits.standard.maxBulk.toNat ∧ payload.length ≤ Decimal.maxInt64 := by
    simp [hreplies, Frame.errorReply]
  obtain ⟨out, replies, hstep, -, hdrain, hlength, hreply⟩ :=
    drain_step_received .standard hwaits .empty hfeed (by simp) hbulk
  refine ⟨out, replies, congrArg Turn.request hstep, hdrain, hlength, ?_, ?_⟩
  · exact (hreply 0 _ _ rfl (by rw [hreplies]; rfl)).1.2 hbroken
  · exact (hreply 1 _ _ rfl (by rw [hreplies]; rfl)).2.1 hplain

end Connection

end RespStore
