import RespStore.Proofs.Command.Execute
import RespStore.Proofs.Store.Counter
import RespStore.Proofs.Store.Deletion

set_option autoImplicit false

namespace RespStore

namespace Command

/-- The keys under which a command may change something. -/
def targets : Command → List Bytes
  | .del keys => keys
  | .incr key => [key]
  | .set key _ => [key]
  | .echo _ => []
  | .get _ => []
  | .ping _ => []

theorem run_incr (store : Store) (key : Bytes) :
    (Command.incr key).run store =
      (match (store.increment key).1 with
        | .ok n => .integer n
        | .error fault => Frame.errorReply fault.message, (store.increment key).2) := by
  rw [run]
  split <;> rename_i h <;> rw [h]

theorem snd_run_get (store : Store) (key : Bytes) : ((Command.get key).run store).2 = store := by
  rw [run]
  split <;> rfl

theorem snd_run_ping (store : Store) (payload : Option Bytes) :
    ((Command.ping payload).run store).2 = store := by
  cases payload <;> rfl

theorem get?_run_of_notMem {key : Bytes} {command : Command} (h : key ∉ command.targets)
    (store : Store) : (command.run store).2.get? key = store.get? key := by
  cases command with
  | del keys =>
    rw [run, Store.get?_delete]
    exact if_neg h
  | incr other =>
    have hne : key ≠ other := fun heq => h (heq ▸ List.mem_singleton_self other)
    rw [run_incr]
    exact Store.get?_increment_of_ne hne store
  | set other value =>
    have hne : key ≠ other := fun heq => h (heq ▸ List.mem_singleton_self other)
    rw [run, Store.get?_set, if_neg hne]
  | get other => rw [snd_run_get]
  | ping payload => rw [snd_run_ping]
  | echo => rfl

def key? : Command → Option Bytes
  | .get key => some key
  | .incr key => some key
  | .set key _ => some key
  | .del _ => none
  | .echo _ => none
  | .ping _ => none

theorem run_congr {key : Bytes} {command : Command} (hkey : command.key? = some key)
    {s t : Store} (h : s.get? key = t.get? key) :
    (command.run s).1 = (command.run t).1 ∧
      (command.run s).2.get? key = (command.run t).2.get? key := by
  cases command with
  | del | echo | ping => cases hkey
  | get key =>
    cases hkey
    rw [run, run, h]
    cases t.get? key <;> exact ⟨rfl, h⟩
  | incr key =>
    cases hkey
    obtain ⟨hreply, hafter⟩ := Store.increment_congr h
    rw [run_incr, run_incr, hreply]
    exact ⟨rfl, hafter⟩
  | set key value =>
    cases hkey
    simp only [run, Store.get?_set, if_pos, and_self]

def Changeless (store : Store) : Command → Prop
  | .del keys => ∀ key ∈ keys, store.get? key = none
  | .incr key => ∃ fault, (store.increment key).1 = .error fault
  | .set key value => store.get? key = some value
  | .echo _ => True
  | .get _ => True
  | .ping _ => True

theorem Changeless.run_eq_self {store : Store} {command : Command} (h : command.Changeless store) :
    (command.run store).2 = store := by
  cases command with
  | del keys => exact Store.delete_eq_self h
  | incr key =>
    obtain ⟨fault, hfault⟩ := h
    rw [run_incr, Store.increment_of_error hfault]
  | set key value => exact Store.set_eq_self h
  | get key => exact snd_run_get store key
  | ping payload => exact snd_run_ping store payload
  | echo => rfl

theorem changeless_of_get?_run {store : Store} {command : Command}
    (h : ∀ key, (command.run store).2.get? key = store.get? key) : command.Changeless store := by
  cases command with
  | del keys =>
    intro key hkey
    rw [← h key, run, Store.get?_delete, if_pos hkey]
  | incr key =>
    cases hreply : (store.increment key).1 with
    | error fault => exact ⟨fault, hreply⟩
    | ok n =>
      have hsame := h key
      rw [run_incr] at hsame
      exact absurd hsame (Store.get?_increment_ne hreply)
  | set key value =>
    show store.get? key = some value
    rw [← h key, run, Store.get?_set, if_pos rfl]
  | get | echo | ping => trivial

end Command

theorem execute_of_ofFrame {frame : Frame} {command : Command}
    (h : Command.ofFrame frame = .ok command) (store : Store) :
    execute store frame = command.run store := by
  rw [execute, h]

theorem execute_of_ofFrame_error {frame : Frame} {rejection : Rejection}
    (h : Command.ofFrame frame = .error rejection) (store : Store) :
    execute store frame = (rejection.reply, store) := by
  rw [execute, h]

namespace Frame

/-- Why a frame changes nothing in a store: it is rejected, or its command changes nothing. -/
def Changeless (store : Store) (frame : Frame) : Prop :=
  ∀ command, Command.ofFrame frame = .ok command → command.Changeless store

theorem Changeless.execute_eq_self {store : Store} {frame : Frame} (h : frame.Changeless store) :
    (execute store frame).2 = store := by
  cases hframe : Command.ofFrame frame with
  | ok command =>
    rw [execute_of_ofFrame hframe]
    exact (h command hframe).run_eq_self
  | error rejection => rw [execute_of_ofFrame_error hframe]

theorem changeless_iff (store : Store) (frame : Frame) :
    frame.Changeless store ↔ ∀ key, (execute store frame).2.get? key = store.get? key := by
  constructor
  · intro h key
    rw [h.execute_eq_self]
  · intro h command hcommand
    rw [execute_of_ofFrame hcommand] at h
    exact Command.changeless_of_get?_run h

end Frame

end RespStore
