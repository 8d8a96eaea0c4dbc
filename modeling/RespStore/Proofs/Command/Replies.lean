import RespStore.Command.Execute
import RespStore.Proofs.Command.Grammar
import RespStore.Proofs.Text.Lines

set_option autoImplicit false

namespace RespStore

namespace Frame

/-- The name of a command holds a CR or LF. -/
def BreaksName (frame : Frame) : Prop :=
  ∃ head rest name, frame = .array (head :: rest) ∧ Command.argument head = .ok name ∧
    (Bytes.cr ∈ name ∨ Bytes.lf ∈ name)

theorem brokenKind?_errorReply_eq_none_iff (message : String) :
    (errorReply message).brokenKind? = none ↔ hasLineBreak message = false := by
  have hfront : hasLineBreak "ERR " = false := by decide
  rw [errorReply, brokenKind?, hasLineBreak_append, hfront, Bool.false_or]
  cases hasLineBreak message <;> simp

end Frame

theorem Verb.hasLineBreak_name (verb : Verb) : hasLineBreak verb.name = false := by
  cases verb <;> decide +kernel

theorem Rejection.hasLineBreak_message (rejection : Rejection) :
    hasLineBreak rejection.message =
      match rejection with
      | .wrongArity command => hasLineBreak command
      | .unknownCommand command => hasLineBreak command
      | _ => false := by
  unfold message
  cases rejection with
  | notAnArray | emptyCommand => decide +kernel
  | invalidToken kind => cases kind <;> decide +kernel
  | wrongArity command =>
    have hfront : hasLineBreak "wrong number of arguments for '" = false := by decide +kernel
    have hback : hasLineBreak "' command" = false := by decide +kernel
    simp only [hasLineBreak_append, hfront, hback, Bool.false_or, Bool.or_false]
  | unknownCommand command =>
    have hfront : hasLineBreak "unknown command '" = false := by decide +kernel
    have hback : hasLineBreak "'" = false := by decide +kernel
    simp only [hasLineBreak_append, hfront, hback, Bool.false_or, Bool.or_false]

namespace Command

inductive Answer : Frame → Prop where
  | integer (n : Int64) : Answer (.integer n)
  | bulk (payload : Bytes) : Answer (.bulk payload)
  | null : Answer .null
  | ok : Answer (.simple "OK")
  | pong : Answer (.simple "PONG")
  | fault (fault : CountError) : Answer (Frame.errorReply fault.message)

theorem answer_run (store : Store) (command : Command) : Answer (command.run store).1 := by
  cases command with
  | del keys => exact .integer _
  | echo message => exact .bulk message
  | get key =>
    rw [run]
    split
    · exact .bulk _
    · exact .null
  | incr key =>
    rw [run]
    split
    · exact .integer _
    · exact .fault _
  | ping payload =>
    cases payload with
    | none => exact .pong
    | some payload => exact .bulk payload
  | set key value => exact .ok

theorem Answer.brokenKind?_eq_none {reply : Frame} (h : Answer reply) :
    reply.brokenKind? = none := by
  cases h with
  | integer | bulk | null => rfl
  | ok | pong => decide +kernel
  | fault fault =>
    rw [Frame.brokenKind?_errorReply_eq_none_iff]
    cases fault <;> decide +kernel

theorem Answer.ne_array {reply : Frame} (h : Answer reply) (items : List Frame) :
    reply ≠ .array items := by
  cases h <;> nofun

/-- The only text from outside in a rejection is the name of an unknown command. -/
theorem ofFrame_eq_error {frame : Frame} {rejection : Rejection}
    (h : ofFrame frame = .error rejection) :
    rejection = .notAnArray ∨ rejection = .emptyCommand ∨ (∃ kind, rejection = .invalidToken kind) ∨
      (∃ verb : Verb, rejection = .wrongArity verb.name) ∨
      ∃ head rest name, frame = .array (head :: rest) ∧ spelledName head = .ok name ∧
        rejection = .unknownCommand name := by
  cases reads_of_ofFrame_eq h with
  | notAnArray => exact .inl rfl
  | emptyCommand => exact .inr (.inl rfl)
  | nameless | badArgument => exact .inr (.inr (.inl ⟨_, rfl⟩))
  | @wrongArity _ _ verb => exact .inr (.inr (.inr (.inl ⟨verb, rfl⟩)))
  | unknownCommand hname _ =>
    exact .inr (.inr (.inr (.inr ⟨_, _, _, rfl, spelledName_of_names hname, rfl⟩)))

/-- Neither decoding nor lower case adds or removes a line break. -/
theorem exists_argument_of_spelledName {head : Frame} {spelled : String}
    (h : spelledName head = .ok spelled) :
    ∃ name, argument head = .ok name ∧
      (hasLineBreak spelled = true ↔ Bytes.cr ∈ name ∨ Bytes.lf ∈ name) := by
  cases head with
  | simple text =>
    cases h
    exact ⟨_, rfl, by rw [hasLineBreak_lowercase, hasLineBreak_encode_iff]⟩
  | bulk payload =>
    cases h
    exact ⟨_, rfl, by rw [hasLineBreak_lowercase, hasLineBreak_decode_iff]⟩
  | error | integer | array | null => cases h

theorem exists_spelledName_of_argument {head : Frame} {name : Bytes}
    (h : argument head = .ok name) : ∃ spelled, spelledName head = .ok spelled := by
  cases head with
  | simple text => exact ⟨_, rfl⟩
  | bulk payload => exact ⟨_, rfl⟩
  | error | integer | array | null => cases h

theorem ofName?_eq_none_of_hasLineBreak {name : String} (h : hasLineBreak name = true) :
    Verb.ofName? name = none := by
  cases hverb : Verb.ofName? name with
  | none => rfl
  | some verb =>
    rw [← Verb.name_of_ofName? hverb, verb.hasLineBreak_name] at h
    cases h

theorem breaksName_iff (frame : Frame) :
    frame.BreaksName ↔
      ∃ name, ofFrame frame = .error (.unknownCommand name) ∧ hasLineBreak name = true := by
  constructor
  · rintro ⟨head, rest, name, rfl, hname, hbreak⟩
    obtain ⟨spelled, hspelled⟩ := exists_spelledName_of_argument hname
    obtain ⟨found, hfound, hiff⟩ := exists_argument_of_spelledName hspelled
    rw [hname] at hfound
    cases hfound
    refine ⟨spelled, ?_, hiff.2 hbreak⟩
    simp only [ofFrame, hspelled, ofName?_eq_none_of_hasLineBreak (hiff.2 hbreak)]
  · rintro ⟨name, hreject, hbreak⟩
    rcases ofFrame_eq_error hreject with
      h | h | ⟨kind, h⟩ | ⟨verb, h⟩ | ⟨head, rest, spelled, rfl, hspelled, h⟩
    · cases h
    · cases h
    · cases h
    · cases h
    · cases h
      obtain ⟨found, hfound, hiff⟩ := exists_argument_of_spelledName hspelled
      exact ⟨head, rest, found, rfl, hfound, hiff.1 hbreak⟩

/-- Of all rejections only that of a broken name holds a line break. -/
theorem hasLineBreak_message_iff {frame : Frame} {rejection : Rejection}
    (h : ofFrame frame = .error rejection) :
    hasLineBreak rejection.message = true ↔ frame.BreaksName := by
  rw [breaksName_iff, h, Rejection.hasLineBreak_message]
  rcases ofFrame_eq_error h with
    rfl | rfl | ⟨kind, rfl⟩ | ⟨verb, rfl⟩ | ⟨head, rest, name, -, -, rfl⟩
  · simp
  · simp
  · simp
  · simp [Verb.hasLineBreak_name]
  · simp

end Command

theorem brokenKind?_execute_eq_none_iff (store : Store) (frame : Frame) :
    (execute store frame).1.brokenKind? = none ↔ ¬ frame.BreaksName := by
  unfold execute
  split
  · rename_i command h
    rw [Command.breaksName_iff, h]
    simp [(Command.answer_run store command).brokenKind?_eq_none]
  · rename_i rejection h
    rw [Rejection.reply, Frame.brokenKind?_errorReply_eq_none_iff,
      ← Command.hasLineBreak_message_iff h, Bool.not_eq_true]

theorem execute_ne_array (store : Store) (frame : Frame) (items : List Frame) :
    (execute store frame).1 ≠ .array items := by
  unfold execute
  split
  · exact (Command.answer_run store _).ne_array items
  · nofun

end RespStore
