import RespStore.Proofs.Command.Effects
import RespStore.Proofs.Command.Grammar

set_option autoImplicit false

namespace RespStore

namespace Command

inductive Looks : Command → Prop where
  | echo (message : Bytes) : Looks (.echo message)
  | get (key : Bytes) : Looks (.get key)
  | ping (payload : Option Bytes) : Looks (.ping payload)

theorem Looks.changeless {command : Command} (h : command.Looks) (store : Store) :
    command.Changeless store := by
  cases h <;> trivial

theorem fst_run_eq_error_iff (store : Store) (command : Command) :
    (∃ message, (command.run store).1 = .error message) ↔
      ∃ key fault, command = .incr key ∧ (store.increment key).1 = .error fault := by
  constructor
  · rintro ⟨message, h⟩
    cases command with
    | del | echo | set => cases h
    | ping payload => cases payload <;> cases h
    | get key =>
      rw [run] at h
      split at h <;> cases h
    | incr key =>
      rw [run_incr] at h
      cases hfault : (store.increment key).1 with
      | ok n =>
        rw [hfault] at h
        cases h
      | error fault => exact ⟨key, fault, rfl, hfault⟩
  · rintro ⟨key, fault, rfl, hfault⟩
    rw [run_incr, hfault]
    exact ⟨_, rfl⟩

end Command

namespace Frame

/-- Why a frame is answered with an error: it is rejected, or it is an increment that fails. -/
def Fails (store : Store) (frame : Frame) : Prop :=
  (∃ rejection, Command.ofFrame frame = .error rejection) ∨
    ∃ key fault, Command.ofFrame frame = .ok (.incr key) ∧
      (store.increment key).1 = .error fault

theorem fst_execute_eq_error_iff (store : Store) (frame : Frame) :
    (∃ message, (execute store frame).1 = .error message) ↔ frame.Fails store := by
  unfold Fails
  cases h : Command.ofFrame frame with
  | error rejection =>
    rw [execute_of_ofFrame_error h]
    exact ⟨fun _ => .inl ⟨rejection, rfl⟩, fun _ => ⟨_, rfl⟩⟩
  | ok command =>
    rw [execute_of_ofFrame h, Command.fst_run_eq_error_iff]
    simp only [Except.ok.injEq, reduceCtorEq, exists_false, false_or]

theorem Fails.changeless {store : Store} {frame : Frame} (h : frame.Fails store) :
    frame.Changeless store := by
  intro command hcommand
  rcases h with ⟨rejection, hreject⟩ | ⟨key, fault, hincr, hfault⟩
  · rw [hreject] at hcommand
    cases hcommand
  · rw [hincr] at hcommand
    cases hcommand
    exact ⟨fault, hfault⟩

theorem fails_of_noText {items : List Frame} {item : Frame} (hitem : item ∈ items)
    (hnone : item.NoText) (store : Store) : (Frame.array items).Fails store := by
  cases h : Command.ofFrame (.array items) with
  | error rejection => exact .inl ⟨rejection, h⟩
  | ok command => exact absurd hnone (Command.not_noText_of_ofFrame h hitem)

theorem execute_eq_self_iff (store : Store) (frame : Frame) :
    (execute store frame).2 = store ↔ frame.Changeless store := by
  constructor
  · intro h
    rw [changeless_iff]
    intro key
    rw [h]
  · exact Changeless.execute_eq_self

/-- Frames change what they name or nothing. An error answers exactly the frames that fail, and a
frame with an item that is no text is one of them: they leave the store as it was, and so do
commands that only look. Any other command leaves all keys alone that it does not name. The store
stays as it was for no other reasons than those of `Changeless`. -/
theorem execute_changes_named (store : Store) (frame : Frame) :
    ((∃ message, (execute store frame).1 = .error message) ↔ frame.Fails store) ∧
      (∀ message, (execute store frame).1 = .error message → (execute store frame).2 = store) ∧
      (∀ items item, frame = .array items → item ∈ items → item.NoText →
        (∃ message, (execute store frame).1 = .error message) ∧
          (execute store frame).2 = store) ∧
      (∀ command, Command.ofFrame frame = .ok command →
        (command.Looks → (execute store frame).2 = store) ∧
          ∀ key, key ∉ command.targets →
            (execute store frame).2.get? key = store.get? key) ∧
      ((execute store frame).2 = store ↔ frame.Changeless store) := by
  have herror := fst_execute_eq_error_iff store frame
  refine ⟨herror, ?_, ?_, ?_, execute_eq_self_iff store frame⟩
  · intro message hmessage
    exact (herror.1 ⟨message, hmessage⟩).changeless.execute_eq_self
  · rintro items item rfl hitem hnone
    have hfails := fails_of_noText hitem hnone store
    exact ⟨herror.2 hfails, hfails.changeless.execute_eq_self⟩
  · intro command hcommand
    rw [execute_of_ofFrame hcommand]
    exact ⟨fun hlooks => (hlooks.changeless store).run_eq_self,
      fun key hkey => Command.get?_run_of_notMem hkey store⟩

/-- A deletion with an item that is no text after a good key, a read, a deletion of another key and
an increment that fails, all in a store with a text that is no number. -/
theorem execute_changes_named_around_key :
    ∃ store : Store, store.get? [107] = some [120] ∧
      (execute store (.array [.simple "DEL", .bulk [107], .null])).2 = store ∧
      (execute store (.array [.simple "GET", .bulk [107]])).2 = store ∧
      (execute store (.array [.simple "DEL", .bulk [108]])).2.get? [107] = some [120] ∧
      (execute store (.array [.simple "INCR", .bulk [107]])).2 = store := by
  refine ⟨Store.empty.set [107] [120], rfl, ?_, ?_, ?_, ?_⟩
  · obtain ⟨-, -, hbad, -⟩ := execute_changes_named (Store.empty.set [107] [120])
      (.array [.simple "DEL", .bulk [107], .null])
    exact (hbad _ .null rfl (by simp) nofun).2
  · obtain ⟨-, -, -, hgood, -⟩ := execute_changes_named (Store.empty.set [107] [120])
      (.array [.simple "GET", .bulk [107]])
    exact (hgood (.get [107]) (by with_unfolding_all rfl)).1 (.get [107])
  · obtain ⟨-, -, -, hgood, -⟩ := execute_changes_named (Store.empty.set [107] [120])
      (.array [.simple "DEL", .bulk [108]])
    exact (hgood (.del [[108]]) (by with_unfolding_all rfl)).2 [107] (by decide)
  · obtain ⟨-, herror, -⟩ := execute_changes_named (Store.empty.set [107] [120])
      (.array [.simple "INCR", .bulk [107]])
    exact herror "ERR value is not an integer or out of range" (by with_unfolding_all rfl)

end Frame

end RespStore
