import Mathlib.Algebra.BigOperators.Ring.Finset
import RespStore.Proofs.Command.Effects
import RespStore.Proofs.Command.Grammar

set_option autoImplicit false

namespace RespStore

open Decimal (maxInt64)

namespace Command

def spells (key : Bytes) (frame : Frame) : Bool :=
  (argument frame).toOption = some key

theorem forall₂_filter_spells {items : List Frame} {texts : List Bytes}
    (h : List.Forall₂ Frame.IsText items texts) (key : Bytes) :
    List.Forall₂ Frame.IsText (items.filter (spells key))
      (texts.filter fun text => text = key) := by
  induction h with
  | nil => exact .nil
  | @cons item text _ _ htext _ ih =>
    have hspells : spells key item = decide (text = key) := by
      simp [spells, argument_eq_ok_iff.2 htext, Except.toOption]
    rw [List.filter_cons, List.filter_cons, hspells]
    split
    · exact .cons htext ih
    · exact ih

end Command

namespace Frame

def narrow (key : Bytes) : Frame → Frame
  | .array (head :: rest) => .array (head :: rest.filter (Command.spells key))
  | frame => frame

/-- What a frame has to do with a key: all of a command on this key, and of a deletion what deletes
this key. -/
def project? (key : Bytes) (frame : Frame) : Option Frame :=
  match Command.ofFrame frame with
  | .ok (.del keys) => if key ∈ keys then some (frame.narrow key) else none
  | .ok command => if command.key? = some key then some frame else none
  | .error _ => none

def projection (key : Bytes) (frames : List Frame) : List Frame :=
  frames.filterMap (project? key)

def place (key : Bytes) (frames : List Frame) (i : Nat) : Nat :=
  (projection key (frames.take i)).length

theorem ofFrame_narrow {frame : Frame} {keys : List Bytes} {key : Bytes}
    (h : Command.ofFrame frame = .ok (.del keys)) (hkey : key ∈ keys) :
    Command.ofFrame (frame.narrow key) = .ok (.del (keys.filter fun other => other = key)) := by
  cases Command.reads_of_ofFrame_eq h with
  | command hname htexts hforms =>
    cases hforms
    have hne : (keys.filter fun other => other = key) ≠ [] :=
      List.ne_nil_of_mem (List.mem_filter.2 ⟨hkey, decide_eq_true rfl⟩)
    rw [narrow, Command.ofFrame_of_verb hname]
    exact Command.ofVerb_of_forms (Command.forall₂_filter_spells htexts key) (.del hne)

theorem project?_of_key {frame : Frame} {command : Command} {key : Bytes}
    (h : Command.ofFrame frame = .ok command) (hkey : command.key? = some key) :
    frame.project? key = some frame := by
  unfold project?
  rw [h]
  cases command with
  | del | echo | ping => cases hkey
  | get | incr | set => exact if_pos hkey

theorem project?_of_del {frame : Frame} {keys : List Bytes} {key : Bytes}
    (h : Command.ofFrame frame = .ok (.del keys)) (hkey : key ∈ keys) :
    frame.project? key = some (frame.narrow key) := by
  unfold project?
  rw [h]
  exact if_pos hkey

inductive Projects (key : Bytes) (frame : Frame) : Option Frame → Prop where
  | whole {command : Command} (hframe : Command.ofFrame frame = .ok command)
      (hkey : command.key? = some key) : Projects key frame (some frame)
  | part {keys : List Bytes} (hframe : Command.ofFrame frame = .ok (.del keys)) (hkey : key ∈ keys)
      (hpart : Command.ofFrame (frame.narrow key) =
        .ok (.del (keys.filter fun other => other = key))) :
      Projects key frame (some (frame.narrow key))
  | none (hframe : ∀ command, Command.ofFrame frame = .ok command → key ∉ command.targets) :
      Projects key frame none

theorem projects_project? (key : Bytes) (frame : Frame) :
    Projects key frame (frame.project? key) := by
  unfold project?
  split
  · rename_i keys hframe
    split
    · rename_i hkey
      exact .part hframe hkey (ofFrame_narrow hframe hkey)
    · rename_i hkey
      refine .none fun command hcommand => ?_
      cases hframe.symm.trans hcommand
      exact hkey
  · rename_i command hdel hframe
    split
    · rename_i hkey
      exact .whole hframe hkey
    · rename_i hkey
      refine .none fun found hfound => ?_
      cases hframe.symm.trans hfound
      cases command with
      | del keys => exact absurd rfl (hdel keys)
      | echo | get | ping => exact List.not_mem_nil
      | incr other | set other =>
        intro hmem
        exact hkey (congrArg some (List.mem_singleton.1 hmem).symm)
  · rename_i rejection hframe
    refine .none fun command hcommand => ?_
    cases hframe.symm.trans hcommand

theorem get?_execute_of_project?_eq_none {key : Bytes} {frame : Frame}
    (h : frame.project? key = none) (store : Store) :
    (execute store frame).2.get? key = store.get? key := by
  have hprojects := projects_project? key frame
  rw [h] at hprojects
  cases hprojects with
  | none hframe =>
    cases hcommand : Command.ofFrame frame with
    | ok command =>
      rw [execute_of_ofFrame hcommand]
      exact Command.get?_run_of_notMem (hframe command hcommand) store
    | error rejection => rw [execute_of_ofFrame_error hcommand]

theorem get?_execute_of_project?_eq_some {key : Bytes} {frame part : Frame}
    (hpart : frame.project? key = some part) {s t : Store} (h : s.get? key = t.get? key) :
    (execute s frame).2.get? key = (execute t part).2.get? key := by
  have hprojects := projects_project? key frame
  rw [hpart] at hprojects
  cases hprojects with
  | whole hframe hkey =>
    rw [execute_of_ofFrame hframe, execute_of_ofFrame hframe]
    exact (Command.run_congr hkey h).2
  -- The key is deleted in both runs.
  | @part keys hframe hkey hnarrow =>
    have hleft : ((Command.del keys).run s).2.get? key = none := by
      rw [Command.run, Store.get?_delete, if_pos hkey]
    have hright : ((Command.del (keys.filter fun other => other = key)).run t).2.get? key =
        none := by
      rw [Command.run, Store.get?_delete, if_pos (by simp [hkey])]
    rw [execute_of_ofFrame hframe, execute_of_ofFrame hnarrow, hleft, hright]

/-- Stores that agree on a key agree on it after all frames in the one and the projection in the
other. -/
theorem get?_executeAll_projection {key : Bytes} (frames : List Frame) {s t : Store}
    (h : s.get? key = t.get? key) :
    (executeAll s frames).2.get? key = (executeAll t (projection key frames)).2.get? key := by
  induction frames generalizing s t with
  | nil => exact h
  | cons frame rest ih =>
    have hlast : (executeAll s (frame :: rest)).2 = (executeAll (execute s frame).2 rest).2 := rfl
    rw [hlast, projection, List.filterMap_cons]
    cases hpart : frame.project? key with
    | none =>
      apply ih
      rw [get?_execute_of_project?_eq_none hpart, h]
    | some part => exact ih (get?_execute_of_project?_eq_some hpart h)

theorem exists_projection_eq {key : Bytes} {frames : List Frame} {i : Nat} {frame part : Frame}
    (hframe : frames[i]? = some frame) (hpart : frame.project? key = some part) :
    ∃ later, projection key frames = projection key (frames.take i) ++ part :: later := by
  obtain ⟨hi, rfl⟩ := List.getElem?_eq_some_iff.1 hframe
  refine ⟨projection key (frames.drop (i + 1)), ?_⟩
  conv => lhs; rw [← List.take_append_drop i frames, List.drop_eq_getElem_cons hi]
  rw [projection, List.filterMap_append, List.filterMap_cons, hpart]
  rfl

/-- What is kept of a frame finds the store that the projection of the frames before it leaves. -/
theorem getElem?_executeAll_projection {key : Bytes} {frames : List Frame} {i : Nat}
    {frame part : Frame} (hframe : frames[i]? = some frame)
    (hpart : frame.project? key = some part) (store : Store) :
    (projection key frames)[place key frames i]? = some part ∧
      (executeAll store (projection key frames)).1[place key frames i]? =
        some (execute (executeAll store (projection key (frames.take i))).2 part).1 := by
  obtain ⟨later, hprojection⟩ := exists_projection_eq hframe hpart
  have hplace : (projection key frames)[place key frames i]? = some part := by
    rw [hprojection, place, List.getElem?_append_right (Nat.le_refl _), Nat.sub_self]
    rfl
  have htake : (projection key frames).take (place key frames i) =
      projection key (frames.take i) := by
    rw [hprojection, place, List.take_left]
  rw [getElem?_executeAll, hplace, htake]
  exact ⟨rfl, rfl⟩

def removed (store : Store) (key : Bytes) : Int64 :=
  if (store.get? key).isSome then 1 else 0

theorem execute_del {frame : Frame} {keys : List Bytes}
    (h : Command.ofFrame frame = .ok (.del keys)) (store : Store) :
    (execute store frame).1 = .integer (Int64.ofNat (store.delete keys).1) := by
  rw [execute_of_ofFrame h]
  rfl

theorem execute_del_filter {frame : Frame} {keys : List Bytes} {key : Bytes}
    (h : Command.ofFrame frame = .ok (.del (keys.filter fun other => other = key)))
    (hkey : key ∈ keys) (store : Store) :
    (execute store frame).1 = .integer (removed store key) := by
  have hset : (keys.filter fun other => other = key).toFinset = {key} := by
    ext other
    simp only [List.mem_toFinset, List.mem_filter, decide_eq_true_eq, Finset.mem_singleton]
    exact ⟨fun h => h.2, fun h => ⟨h ▸ hkey, h⟩⟩
  rw [execute_del h, Store.fst_delete, Store.present, hset, Finset.filter_singleton, removed]
  split <;> rfl

theorem sum_removed (store : Store) (keys : List Bytes) :
    ∑ key ∈ keys.toFinset, (removed store key).toInt = (store.delete keys).1 := by
  have hremoved (key : Bytes) :
      (removed store key).toInt = if (store.get? key).isSome then 1 else 0 := by
    unfold removed
    split <;> rfl
  simp only [hremoved, Finset.sum_boole]
  rw [Store.fst_delete, Store.present]

theorem removed_congr {s t : Store} {key : Bytes} (h : s.get? key = t.get? key) :
    removed s key = removed t key := by
  rw [removed, h, removed]

/-- Keys do not interfere. After all frames each key has the value that it has after its projection
alone, and every command on one key is answered as in the projection on this key. A deletion is
answered with the sum, over its distinct keys, of what its part in each projection is answered
with. The sum fits unless there are more keys than `Decimal.maxInt64`, and no list in memory has as
many. -/
theorem executeAll_projection (store : Store) (frames : List Frame) :
    (∀ key, (executeAll store frames).2.get? key =
      (executeAll store (projection key frames)).2.get? key) ∧
    (∀ key i frame command, frames[i]? = some frame → Command.ofFrame frame = .ok command →
      command.key? = some key →
      (projection key frames)[place key frames i]? = some frame ∧
      ∃ reply, (executeAll store frames).1[i]? = some reply ∧
        (executeAll store (projection key frames)).1[place key frames i]? = some reply) ∧
    ∀ i frame keys, frames[i]? = some frame → Command.ofFrame frame = .ok (.del keys) →
      ∃ (n : Int64) (parts : Bytes → Int64),
        (executeAll store frames).1[i]? = some (.integer n) ∧
        (∀ key ∈ keys, ∃ part, (projection key frames)[place key frames i]? = some part ∧
          Command.ofFrame part = .ok (.del (keys.filter fun other => other = key)) ∧
          (executeAll store (projection key frames)).1[place key frames i]? =
            some (.integer (parts key))) ∧
        n = Int64.ofInt (∑ key ∈ keys.toFinset, (parts key).toInt) ∧
        (keys.length ≤ maxInt64 → n.toInt = ∑ key ∈ keys.toFinset, (parts key).toInt) := by
  -- The stores that the frame at a position finds in the two runs agree on the key.
  have hagree (key : Bytes) (i : Nat) : (executeAll store (frames.take i)).2.get? key =
      (executeAll store (projection key (frames.take i))).2.get? key :=
    get?_executeAll_projection (frames.take i) rfl
  refine ⟨fun key => get?_executeAll_projection frames rfl, ?_, ?_⟩
  · intro key i frame command hframe hcommand hkey
    have hwhole := project?_of_key hcommand hkey
    obtain ⟨hplace, hreply⟩ := getElem?_executeAll_projection hframe hwhole store
    refine ⟨hplace, _, ?_, hreply⟩
    rw [getElem?_executeAll, hframe, Option.map_some, execute_of_ofFrame hcommand,
      execute_of_ofFrame hcommand, (Command.run_congr hkey (hagree key i)).1]
  · intro i frame keys hframe hkeys
    have hreply : (executeAll store frames).1[i]? =
        some (.integer (Int64.ofNat ((executeAll store (frames.take i)).2.delete keys).1)) := by
      rw [getElem?_executeAll, hframe, Option.map_some, execute_del hkeys]
    refine ⟨_, removed (executeAll store (frames.take i)).2, hreply, ?_, ?_, ?_⟩
    · intro key hkey
      have hnarrow := ofFrame_narrow hkeys hkey
      obtain ⟨hplace, hpart⟩ :=
        getElem?_executeAll_projection hframe (project?_of_del hkeys hkey) store
      refine ⟨_, hplace, hnarrow, ?_⟩
      rw [hpart, execute_del_filter hnarrow hkey, removed_congr (hagree key i)]
    · rw [sum_removed, Int64.ofInt_eq_ofNat]
    · intro hlength
      have hle := Store.fst_delete_le (executeAll store (frames.take i)).2 keys
      rw [sum_removed, ← Int64.ofInt_eq_ofNat]
      exact Decimal.toInt_ofInt_of_le (Nat.le_trans hle hlength)

def nested : List Frame :=
  [.array [.simple "SET", .bulk [255], .bulk [53]], .array [.simple "SET", .bulk [], .bulk [120]],
    .array [.simple "INCR", .bulk [255, 0]],
    .array [.simple "DEL", .bulk [], .bulk [255], .bulk []],
    .array [.simple "INCR", .bulk [255, 0]]]

theorem executeAll_projection_nested :
    (executeAll .empty nested).2.get? [255, 0] = some [50] ∧
      ∃ (n : Int64) (parts : Bytes → Int64),
        (executeAll .empty nested).1[3]? = some (.integer n) ∧ parts [] = 1 ∧ parts [255] = 1 ∧
          n.toInt = (parts []).toInt + (parts [255]).toInt := by
  obtain ⟨hvalue, -, hdel⟩ := executeAll_projection .empty nested
  have hkeys : Command.ofFrame (.array [.simple "DEL", .bulk [], .bulk [255], .bulk []]) =
      .ok (.del [[], [255], []]) := by with_unfolding_all rfl
  obtain ⟨n, parts, hreply, hparts, -, hsum⟩ := hdel 3 _ _ rfl hkeys
  have hone (key : Bytes) (hkey : key ∈ [[], [255], []])
      (h : (executeAll .empty (projection key nested)).1[place key nested 3]? =
        some (.integer 1)) : parts key = 1 := by
    obtain ⟨-, -, -, hpart⟩ := hparts key hkey
    rw [h] at hpart
    exact (Frame.integer.inj (Option.some.inj hpart)).symm
  refine ⟨?_, n, parts, hreply, hone [] (by simp) ?_, hone [255] (by simp) ?_, ?_⟩
  · rw [hvalue]
    with_unfolding_all rfl
  · with_unfolding_all rfl
  · with_unfolding_all rfl
  · have hset : ([[], [255], []] : List Bytes).toFinset = {[], [255]} := by decide
    rw [hsum (by decide), hset, Finset.sum_pair (by decide)]

end Frame

end RespStore
