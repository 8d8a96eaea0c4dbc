import RespStore.Proofs.Command.Effects

set_option autoImplicit false

namespace RespStore

open Decimal (maxInt64)

namespace Frame

def Increments (key : Bytes) (frame : Frame) : Prop :=
  Command.ofFrame frame = .ok (.incr key)

instance (key : Bytes) (frame : Frame) : Decidable (frame.Increments key) :=
  match h : Command.ofFrame frame with
  | .ok command => decidable_of_iff (command = .incr key) (by rw [Increments, h, Except.ok.injEq])
  | .error _ => .isFalse (by rw [Increments, h]; nofun)

/-- A frame that leaves a key alone, unless it is an increment of it. -/
def OnlyIncrements (key : Bytes) (frame : Frame) : Prop :=
  ∀ command, Command.ofFrame frame = .ok command → key ∈ command.targets → command = .incr key

theorem get?_execute {key : Bytes} {frame : Frame} (honly : frame.OnlyIncrements key)
    (hother : ¬ frame.Increments key) (store : Store) :
    (execute store frame).2.get? key = store.get? key := by
  cases h : Command.ofFrame frame with
  | ok command =>
    rw [execute_of_ofFrame h]
    apply Command.get?_run_of_notMem
    intro hmem
    rw [honly command h hmem] at h
    exact hother h
  | error rejection => rw [execute_of_ofFrame_error h]

def countReply (v : Int) : Frame :=
  if v < maxInt64 then .integer (Int64.ofInt (v + 1))
  else errorReply CountError.overflow.message

theorem countReply_of_lt {v : Int} (h : v < maxInt64) :
    countReply v = .integer (Int64.ofInt (v + 1)) :=
  if_pos h

theorem countReply_of_le {v : Int} (h : maxInt64 ≤ v) :
    countReply v = errorReply CountError.overflow.message :=
  if_neg (Int.not_lt.2 h)

theorem countReply_next {v : Int} (hle : v ≤ maxInt64) (i : Nat) :
    countReply (min (v + 1) maxInt64 + i) = countReply (v + (i + 1 : Nat)) := by
  by_cases hmax : v = maxInt64
  · rw [countReply_of_le (by omega), countReply_of_le (by omega)]
  · have hsum : min (v + 1) maxInt64 + i = v + (i + 1 : Nat) := by omega
    rw [hsum]

theorem map_countReply_of_le {v : Int} {count : Nat} (h : v + count ≤ maxInt64) :
    (List.range count).map (fun i : Nat => countReply (v + i)) =
      (List.range count).map fun i : Nat => .integer (Int64.ofInt (v + i + 1)) := by
  apply List.map_congr_left
  intro i hmem
  have hi := List.mem_range.1 hmem
  exact countReply_of_lt (by omega)

theorem map_countReply_of_lt {v : Int} {count : Nat} (hle : v ≤ maxInt64)
    (h : maxInt64 < v + count) :
    (List.range count).map (fun i : Nat => countReply (v + i)) =
      (List.range (maxInt64 - v).toNat).map (fun i : Nat => .integer (Int64.ofInt (v + i + 1))) ++
        List.replicate (count - (maxInt64 - v).toNat)
          (errorReply CountError.overflow.message) := by
  have hcount : count = (maxInt64 - v).toNat + (count - (maxInt64 - v).toNat) := by omega
  have hleft : v + (maxInt64 - v).toNat ≤ maxInt64 := by omega
  conv => lhs; rw [hcount]
  rw [List.range_add, List.map_append, map_countReply_of_le hleft, List.map_map]
  congr 1
  rw [List.map_eq_replicate_iff.2, List.length_range]
  intro i _
  exact countReply_of_le (by simp only [Int.natCast_add]; omega)

def countText (before : Option Bytes) (v : Int) (count : Nat) : Option Bytes :=
  if count = 0 ∨ v = maxInt64 then before else some (Decimal.ofInt (min (v + count) maxInt64))

theorem countText_of_le {v : Int} {count : Nat} (hpos : 0 < count) (h : v + count ≤ maxInt64)
    (before : Option Bytes) : countText before v count = some (Decimal.ofInt (v + count)) := by
  have hsum : min (v + count) maxInt64 = v + count := by omega
  rw [countText, if_neg (by omega), hsum]

theorem countText_of_lt {v : Int} {count : Nat} (hle : v ≤ maxInt64) (h : maxInt64 < v + count)
    (before : Option Bytes) :
    countText before v count =
      if v = maxInt64 then before else some (Decimal.ofInt maxInt64) := by
  have hsum : min (v + count) maxInt64 = maxInt64 := by omega
  have hzero : count ≠ 0 := by omega
  simp only [countText, hsum, hzero, false_or]

theorem countText_next {v : Int} (hle : v ≤ maxInt64) (before : Option Bytes) (count : Nat) :
    countText (if v = maxInt64 then before else some (Decimal.ofInt (min (v + 1) maxInt64)))
        (min (v + 1) maxInt64) count =
      countText before v (count + 1) := by
  unfold countText
  by_cases hmax : v = maxInt64
  · rw [if_pos (.inr (by omega)), if_pos hmax, if_pos (.inr hmax)]
  · have hgoes : ¬ (count + 1 = 0 ∨ v = maxInt64) := by omega
    rw [if_neg hmax, if_neg hgoes]
    by_cases hstops : count = 0 ∨ min (v + 1) maxInt64 = maxInt64
    · have hsum : min (v + 1) maxInt64 = min (v + (count + 1 : Nat)) maxInt64 := by omega
      rw [if_pos hstops, hsum]
    · have hsum : min (v + 1) maxInt64 + count = v + (count + 1 : Nat) := by omega
      rw [if_neg hstops, hsum]

/-- An increment answers with the next number and stores its text, if there is a next number. -/
theorem execute_of_increments {key : Bytes} {frame : Frame} (hframe : frame.Increments key)
    {store : Store} {n : Int64} (hnumber : store.number? key = some n) :
    (execute store frame).1 = countReply n.toInt ∧
      ∃ m, (execute store frame).2.number? key = some m ∧
        m.toInt = min (n.toInt + 1) maxInt64 ∧
        (execute store frame).2.get? key =
          if n.toInt = maxInt64 then store.get? key else some (Decimal.ofInt m.toInt) := by
  have hle := Store.toInt_le_maxInt64 n
  rw [execute_of_ofFrame hframe, Command.run, countReply]
  by_cases hmax : n.toInt = maxInt64
  · rw [Store.increment_of_eq hnumber hmax, if_neg (by omega)]
    exact ⟨rfl, n, hnumber, by omega, (if_pos hmax).symm⟩
  · obtain ⟨m, hm, hincrement⟩ := Store.increment_of_lt hnumber (by omega)
    rw [hincrement, if_pos (by omega), ← hm, Int64.ofInt_toInt]
    refine ⟨rfl, m, Store.number?_set_ofInt64 store key m, by omega, ?_⟩
    simp only [if_neg hmax, Store.get?_set, if_pos]
    rfl

def incrementReplies (key : Bytes) (store : Store) (frames : List Frame) : List Frame :=
  ((frames.zip (executeAll store frames).1).filter fun entry => entry.1.Increments key).map
    Prod.snd

theorem incrementReplies_cons (key : Bytes) (store : Store) (frame : Frame) (rest : List Frame) :
    incrementReplies key store (frame :: rest) =
      if frame.Increments key then
        (execute store frame).1 :: incrementReplies key (execute store frame).2 rest
      else incrementReplies key (execute store frame).2 rest := by
  simp only [incrementReplies, executeAll, List.zip_cons_cons, List.filter_cons,
    decide_eq_true_eq]
  split <;> rfl

/-- From the number `n` on, increments of a key are answered one after another, whatever happens to
other keys in between. -/
theorem executeAll_increments {key : Bytes} {frames : List Frame}
    (honly : ∀ frame ∈ frames, frame.OnlyIncrements key) {store : Store} {n : Int64}
    (hnumber : store.number? key = some n) {count : Nat}
    (hcount : (frames.countP fun frame => frame.Increments key) = count) :
    incrementReplies key store frames =
        (List.range count).map (fun i : Nat => countReply (n.toInt + i)) ∧
      (executeAll store frames).2.get? key = countText (store.get? key) n.toInt count := by
  induction frames generalizing store n count with
  | nil =>
    subst hcount
    exact ⟨rfl, rfl⟩
  | cons frame rest ih =>
    have hrest : ∀ frame ∈ rest, frame.OnlyIncrements key :=
      fun other hmem => honly other (List.mem_cons_of_mem _ hmem)
    have hlast : (executeAll store (frame :: rest)).2 =
        (executeAll (execute store frame).2 rest).2 := rfl
    rw [incrementReplies_cons, hlast]
    by_cases hframe : frame.Increments key
    -- The rest counts on from `m`, which is `n` again once there is no next number.
    · obtain ⟨hreply, m, hm, hnext, htext⟩ := execute_of_increments hframe hnumber
      rw [List.countP_cons_of_pos (by simpa using hframe)] at hcount
      obtain ⟨hreplies, hget⟩ := ih hrest hm rfl
      subst hcount
      have hle := Store.toInt_le_maxInt64 n
      rw [if_pos hframe, hreply, hreplies, hget, htext, hnext]
      constructor
      · rw [List.range_succ_eq_map, List.map_cons, List.map_map]
        simp only [countReply_next hle]
        exact congrArg (countReply · :: _) (Int.add_zero _).symm
      · exact countText_next hle _ _
    · have hget := get?_execute (honly frame List.mem_cons_self) hframe store
      have hsame : (execute store frame).2.number? key = some n := by
        rw [Store.number?, hget]
        exact hnumber
      rw [List.countP_cons_of_neg (by simpa using hframe)] at hcount
      rw [if_neg hframe, ← hget]
      exact ih hrest hsame hcount

end Frame

end RespStore
