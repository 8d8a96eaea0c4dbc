import RespStore.Connection
import RespStore.Proofs.Chunking
import RespStore.Proofs.Command.Execute

set_option autoImplicit false

namespace RespStore

namespace Connection

def Event.chunk : Event → Bytes
  | .received chunk => chunk
  | .receiveFailed => []
  | .sent => []
  | .sendFailed => []

/-- Whether an event brings bytes or the end of a write, so neither a failure nor the end of the
stream. -/
def Event.Proceeds : Event → Prop
  | .received chunk => chunk ≠ []
  | .receiveFailed => False
  | .sent => True
  | .sendFailed => False

def Request.written : Request → Bytes
  | .read => []
  | .write bytes => bytes
  | .stop => []

theorem replyBytes_ne_nil (reply : Frame) : replyBytes reply ≠ [] := by
  unfold replyBytes
  split
  · rename_i bytes h
    unfold Frame.encode at h
    split at h
    · cases h
    · cases h
      exact reply.bytes_ne_nil
  · exact unwritable.bytes_ne_nil

theorem repliesBytes_append (front back : List Frame) :
    repliesBytes (front ++ back) = repliesBytes front ++ repliesBytes back :=
  List.flatMap_append

theorem repliesBytes_eq_nil_iff (replies : List Frame) :
    repliesBytes replies = [] ↔ replies = [] := by
  cases replies with
  | nil => simp [repliesBytes]
  | cons reply rest => simp [repliesBytes, replyBytes_ne_nil]

def requestOf (replies : List Frame) : Request :=
  if replies = [] then .read else .write (repliesBytes replies)

theorem written_requestOf (replies : List Frame) :
    (requestOf replies).written = repliesBytes replies := by
  unfold requestOf
  split
  · rename_i h
    rw [h]
    rfl
  · rfl

theorem requestOf_eq_read_iff (replies : List Frame) :
    requestOf replies = .read ↔ replies = [] := by
  unfold requestOf
  split <;> simp [*]

theorem step_received {decoder : Decoder} {chunk : Bytes} (hchunk : chunk ≠ []) (store : Store) :
    step ⟨.active, decoder⟩ store (.received chunk) = process ⟨.active, decoder⟩ store chunk := by
  simp only [step, ne_eq, not_true_eq_false, false_or, if_neg hchunk]

theorem process_of_feed {connection : Connection} {chunk : Bytes} {frames : List Frame}
    {next : Decoder} (hfeed : connection.decoder.feed chunk = (.ok frames, next)) (store : Store) :
    connection.process store chunk =
      ⟨requestOf (executeAll store frames).1, ⟨connection.phase, next⟩,
        (executeAll store frames).2, false⟩ := by
  simp only [process, hfeed, requestOf, repliesBytes_eq_nil_iff]

theorem process_of_feed_error {connection : Connection} {chunk : Bytes} {cause : Malformed}
    {next : Decoder} (hfeed : connection.decoder.feed chunk = (.error cause, next))
    (store : Store) :
    connection.process store chunk =
      ⟨.write (replyBytes (protocolError cause)), ⟨.closing, next⟩, store, false⟩ := by
  simp only [process, hfeed]

variable {limits : Limits}

open RespStore.Frame (readAll completed)

theorem process_of_ok {before chunk held held' : Bytes} {frames frames' : List Frame}
    (hbefore : readAll limits before = .ok (frames, held))
    (hchunk : readAll limits (before ++ chunk) = .ok (frames', held')) (store : Store) :
    process ⟨.active, ⟨limits, held⟩⟩ store chunk =
      ⟨requestOf (executeAll store (completed limits before chunk)).1,
        ⟨.active, ⟨limits, held'⟩⟩, (executeAll store (completed limits before chunk)).2,
        false⟩ :=
  process_of_feed (Decoder.feed_of_ok hbefore hchunk) store

theorem step_of_ok {before held held' : Bytes} {frames frames' : List Frame} {event : Event}
    (hevent : event.Proceeds) (hbefore : readAll limits before = .ok (frames, held))
    (hchunk : readAll limits (before ++ event.chunk) = .ok (frames', held')) (store : Store) :
    step ⟨.active, ⟨limits, held⟩⟩ store event =
      ⟨requestOf (executeAll store (completed limits before event.chunk)).1,
        ⟨.active, ⟨limits, held'⟩⟩, (executeAll store (completed limits before event.chunk)).2,
        false⟩ := by
  cases event with
  | received chunk =>
    rw [step_received hevent]
    exact process_of_ok hbefore hchunk store
  -- The end of a write brings no bytes, and what is held completes no frame.
  | sent =>
    rw [Event.chunk, List.append_nil, hbefore] at hchunk
    cases hchunk
    rw [Event.chunk, Frame.completed_nil hbefore]
    rfl
  | receiveFailed | sendFailed => exact hevent.elim

end Connection

end RespStore
