import RespStore.Proofs.Connection.Phases
import RespStore.Proofs.Connection.Replies

set_option autoImplicit false

namespace RespStore.Connection

open Text
open RespStore.Frame (readAll completed)

def faultLine (cause : Malformed) : Bytes :=
  Utf8.encode ("ERR Protocol error: " ++ cause.message)

theorem protocolError_eq (cause : Malformed) :
    protocolError cause = .error ("ERR Protocol error: " ++ cause.message) := by
  have hfront : "ERR " ++ "Protocol error: " = "ERR Protocol error: " := by decide +kernel
  rw [protocolError, Frame.errorReply, ← String.append_assoc, hfront]

theorem hasLineBreak_faultText (cause : Malformed) :
    hasLineBreak ("ERR Protocol error: " ++ cause.message) = false := by
  have hfront : hasLineBreak "ERR Protocol error: " = false := by decide +kernel
  rw [hasLineBreak_append, hfront, cause.hasLineBreak_message, Bool.or_false]

theorem not_mem_faultLine (cause : Malformed) :
    Bytes.cr ∉ faultLine cause ∧ Bytes.lf ∉ faultLine cause := by
  have hbreak := hasLineBreak_faultText cause
  rw [← not_or, faultLine, ← hasLineBreak_encode_iff, Bool.not_eq_true]
  exact hbreak

theorem brokenKind?_protocolError (cause : Malformed) :
    (protocolError cause).brokenKind? = none := by
  rw [protocolError_eq, Frame.brokenKind?, hasLineBreak_faultText]
  rfl

theorem replyBytes_protocolError (cause : Malformed) :
    replyBytes (protocolError cause) = Lead.error.byte :: faultLine cause ++ Bytes.crlf := by
  rw [replyBytes_of_unbroken (brokenKind?_protocolError cause), protocolError_eq]
  rfl

theorem fits_protocolError (limits : Limits) (cause : Malformed) :
    (protocolError cause).Fits limits :=
  Frame.fits_of_ne_array nofun (brokenKind?_protocolError cause) nofun

theorem drain_protocolError (limits : Limits) (cause : Malformed) :
    FrameBuffer.drain ⟨limits, replyBytes (protocolError cause)⟩ =
      ([protocolError cause], .ok (), FrameBuffer.empty limits) := by
  have hdrain := FrameBuffer.drain_bytes_append (fits_protocolError limits cause) []
  rwa [List.append_nil, FrameBuffer.drain_nil,
    ← replyBytes_of_unbroken (brokenKind?_protocolError cause)] at hdrain

theorem protocolError_ne_unwritable (cause : Malformed) : protocolError cause ≠ unwritable := by
  apply errorReply_ne_unwritable
  simp

def incoming (events : List (Store × Event)) : Bytes :=
  events.flatMap fun item => item.2.chunk

theorem active_of_run_active {connection : Connection} {events : List (Store × Event)}
    (h : (connection.run events).2.phase = .active) : connection.phase = .active := by
  cases events with
  | nil => exact h
  | cons item rest =>
    obtain ⟨store, event⟩ := item
    apply Decidable.not_not.1
    intro hphase
    have hidle := (orderly_step connection store event).idle hphase
    rw [run_cons, hidle] at h
    simp only at h
    rw [phase_run_of_closed rfl] at h
    cases h

variable {limits : Limits}

/-- A connection that stays active has met neither a failure nor the end nor malformed input. -/
theorem proceeds_of_step_active {stream held : Bytes} {frames : List Frame} {store : Store}
    {event : Event} (hstream : readAll limits stream = .ok (frames, held))
    (h : (step ⟨.active, ⟨limits, held⟩⟩ store event).connection.phase = .active) :
    event.Proceeds ∧
      ∃ frames' held', readAll limits (stream ++ event.chunk) = .ok (frames', held') := by
  have hreaction := reaction_step ⟨.active, ⟨limits, held⟩⟩ store event
  generalize step ⟨.active, ⟨limits, held⟩⟩ store event = turn at hreaction h
  cases hreaction with
  | closes | fails => cases h
  | resumes =>
    rw [Event.chunk, List.append_nil]
    exact ⟨trivial, frames, held, hstream⟩
  | answers hactive hchunk hfeed =>
    refine ⟨hchunk, ?_⟩
    unfold Decoder.feed at hfeed
    split at hfeed
    · rename_i more rest hmore
      rw [Frame.readAll_append, hstream]
      simp only [Event.chunk, hmore]
      exact ⟨_, _, rfl⟩
    · cases hfeed

/-- While a connection is active, each event runs and answers the frames that it completes. -/
theorem turn_of_run_active {stream held : Bytes} {frames : List Frame}
    {events : List (Store × Event)} (hstream : readAll limits stream = .ok (frames, held))
    (hactive : (run ⟨.active, ⟨limits, held⟩⟩ events).2.phase = .active) {k : Nat} {store : Store}
    {event : Event} {turn : Turn} (hevent : events[k]? = some (store, event))
    (hturn : (run ⟨.active, ⟨limits, held⟩⟩ events).1[k]? = some turn) :
    turn.connection.phase = .active ∧
      turn.request = requestOf (executeAll store
        (completed limits (stream ++ incoming (events.take k)) event.chunk)).1 ∧
      turn.store = (executeAll store
        (completed limits (stream ++ incoming (events.take k)) event.chunk)).2 := by
  induction events generalizing stream held frames k with
  | nil => cases hevent
  | cons item rest ih =>
    obtain ⟨found, first⟩ := item
    rw [run_cons] at hactive hturn
    obtain ⟨hproceeds, frames', held', hchunk⟩ :=
      proceeds_of_step_active hstream (active_of_run_active hactive)
    have hstep := step_of_ok hproceeds hstream hchunk found
    cases k with
    | zero =>
      cases hevent
      cases hturn
      rw [hstep, List.take_zero, incoming, List.flatMap_nil, List.append_nil]
      exact ⟨rfl, rfl, rfl⟩
    | succ k =>
      rw [hstep] at hactive hturn
      have hrest := ih hchunk hactive hevent hturn
      rwa [List.append_assoc] at hrest

end RespStore.Connection
