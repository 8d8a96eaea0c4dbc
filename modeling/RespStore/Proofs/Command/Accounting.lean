import RespStore.Proofs.Command.Effects
import RespStore.Proofs.Command.Grammar
import RespStore.Proofs.Frame.Nodes
import RespStore.Proofs.Store.Handles
import RespStore.Proofs.Store.Size

set_option autoImplicit false

namespace RespStore

open Decimal (maxInt64)

namespace Frame

/-- A frame that sets a key without a value, or counts one up and is answered with a number. -/
def adds (found : Store) (frame : Frame) : Bool :=
  match Command.ofFrame frame, (execute found frame).1 with
  | .ok (.set key _), _ => (found.get? key).isNone
  | .ok (.incr key), .integer _ => (found.get? key).isNone
  | _, _ => false

def deleted (found : Store) (frame : Frame) : Int :=
  match Command.ofFrame frame, (execute found frame).1 with
  | .ok (.del _), .integer n => n.toInt
  | _, _ => 0

theorem length_lt_count_of_del {frame : Frame} {keys : List Bytes}
    (h : Command.ofFrame frame = .ok (.del keys)) : keys.length < frame.count := by
  cases Command.reads_of_ofFrame_eq h with
  | command hname htexts hforms =>
    cases hforms
    rw [count, List.length_cons, htexts.length_eq]
    exact Nat.lt_succ_self _

theorem size_execute {frame : Frame} (hcount : frame.count ≤ maxInt64) (store : Store) :
    ((execute store frame).2.size : Int) + frame.deleted store =
      store.size + (if frame.adds store then 1 else 0 : Nat) := by
  unfold adds deleted
  cases h : Command.ofFrame frame with
  | error rejection =>
    rw [execute_of_ofFrame_error h]
    simp
  | ok command =>
    rw [execute_of_ofFrame h]
    cases command with
    | del keys =>
      have hkeys := length_lt_count_of_del h
      have hreply := Store.toInt_fst_delete store (show keys.length ≤ maxInt64 by omega)
      have hsize := Store.size_delete store keys
      simp only [Command.run, hreply]
      simp
      omega
    | echo message => simp [Command.run]
    | get key => simp [Command.snd_run_get]
    | ping payload => simp [Command.snd_run_ping]
    | set key value =>
      cases hkey : store.get? key with
      | none => simp [Command.run, hkey, Store.size_set_of_none hkey]
      | some before => simp [Command.run, hkey, Store.size_set_of_some hkey]
    | incr key =>
      rw [Command.run_incr]
      cases hreply : (store.increment key).1 with
      | error fault => simp [Store.increment_of_error hreply, errorReply]
      | ok n =>
        cases hkey : store.get? key with
        | none => simp [hkey, Store.size_increment_of_none hkey hreply]
        | some before => simp [hkey, Store.size_increment_of_some hkey]

def allAdded (store : Store) (frames : List Frame) : Nat :=
  (executions store frames).countP fun execution => execution.2.adds execution.1

def allDeleted (store : Store) (frames : List Frame) : Int :=
  (executions store frames).foldr (fun execution sum => execution.2.deleted execution.1 + sum) 0

theorem allAdded_cons (store : Store) (frame : Frame) (rest : List Frame) :
    allAdded store (frame :: rest) =
      allAdded (execute store frame).2 rest + if frame.adds store then 1 else 0 := by
  rw [allAdded, executions, List.countP_cons, ← allAdded]

theorem allDeleted_cons (store : Store) (frame : Frame) (rest : List Frame) :
    allDeleted store (frame :: rest) =
      frame.deleted store + allDeleted (execute store frame).2 rest :=
  rfl

theorem size_executeAll {frames : List Frame} (hcount : ∀ frame ∈ frames, frame.count ≤ maxInt64)
    (store : Store) :
    ((executeAll store frames).2.size : Int) =
      store.size + allAdded store frames - allDeleted store frames := by
  induction frames generalizing store with
  | nil => simp [executeAll, allAdded, allDeleted, executions]
  | cons frame rest ih =>
    have hstep := size_execute (hcount frame List.mem_cons_self) store
    have hrest := ih (fun other hmem => hcount other (List.mem_cons_of_mem _ hmem))
      (execute store frame).2
    rw [executeAll, allAdded_cons, allDeleted_cons]
    simp only
    omega

end Frame

namespace Handles

open RespStore.Frame (allAdded allDeleted size_executeAll)

/-- Whatever was done through handles, the size of a store is the number of keys with a value, an
empty store has none, and another handle for a store sees the same. From there on, while the calls
that reach the store are frames, through whichever handles and amid calls on other stores, the size
moves up by one for each frame that adds a key and down by what deletions answer. -/
theorem size_accounted (steps : List Step) (handle : Nat) (store : Store)
    (h : (single.run steps).store? handle = some store) :
    (∃ keys : Finset Bytes, (∀ key, key ∈ keys ↔ (store.get? key).isSome) ∧
      store.size = keys.card) ∧
      (store.isEmpty = true ↔ ∀ key, store.get? key = none) ∧
      (single.run (steps ++ [.share handle])).store? (single.run steps).count = some store ∧
      ∀ (history : List Step) (frames : List Frame),
        (single.run steps).calls handle history = frames.map .execute →
        (∀ frame ∈ frames, frame.count ≤ maxInt64) →
        (single.run (steps ++ history)).store? handle = some (executeAll store frames).2 ∧
          ((executeAll store frames).2.size : Int) =
            store.size + allAdded store frames - allDeleted store frames := by
  refine ⟨⟨store.keySet, store.mem_keySet, store.size_eq_card⟩, store.isEmpty_iff, ?_, ?_⟩
  · rw [run_append]
    exact store?_share_count h
  · intro history frames hcalls hcount
    refine ⟨?_, size_executeAll hcount store⟩
    rw [run_append, store?_run h, hcalls, foldl_run_execute]

def setTwice : List Frame :=
  [.array [.simple "SET", .bulk [97], .bulk [120]], .array [.simple "SET", .bulk [97], .bulk [55]],
    .array [.simple "INCR", .bulk [98]],
    .array [.simple "DEL", .bulk [97], .bulk [97], .bulk [99]]]

def byTurns : List Step :=
  [.call 0 (.execute (.array [.simple "SET", .bulk [97], .bulk [120]])), .addEmpty,
    .call 1 (.execute (.array [.simple "SET", .bulk [97], .bulk [55]])),
    .call 2 (.set [97] [49]), .call 1 (.execute (.array [.simple "INCR", .bulk [98]])),
    .call 0 (.execute (.array [.simple "DEL", .bulk [97], .bulk [97], .bulk [99]]))]

theorem size_accounted_byTurns :
    ∃ store after : Store,
      (single.run [.call 0 (.set [107] [118]), .share 0]).store? 1 = some store ∧
        (single.run ([.call 0 (.set [107] [118]), .share 0] ++ byTurns)).store? 1 = some after ∧
        store.size = 1 ∧ allAdded store setTwice = 2 ∧ allDeleted store setTwice = 1 ∧
        after.size = 2 := by
  have hstore : (single.run [.call 0 (.set [107] [118]), .share 0]).store? 1 =
      some (Store.empty.set [107] [118]) := rfl
  have hcalls : (single.run [.call 0 (.set [107] [118]), .share 0]).calls 1 byTurns =
      setTwice.map .execute := by with_unfolding_all rfl
  have hadded : allAdded (Store.empty.set [107] [118]) setTwice = 2 := by with_unfolding_all rfl
  have hdeleted : allDeleted (Store.empty.set [107] [118]) setTwice = 1 := by
    with_unfolding_all rfl
  have hcount : ∀ frame ∈ setTwice, frame.count ≤ maxInt64 := by decide
  obtain ⟨-, -, -, hhistory⟩ := size_accounted _ 1 _ hstore
  obtain ⟨hafter, hsize⟩ := hhistory byTurns setTwice hcalls hcount
  have hbefore : (Store.empty.set [107] [118]).size = 1 := rfl
  rw [hadded, hdeleted, hbefore] at hsize
  refine ⟨_, _, hstore, hafter, hbefore, hadded, hdeleted, ?_⟩
  omega

end Handles

end RespStore
