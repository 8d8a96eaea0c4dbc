import Mathlib.Data.Finset.Card
import RespStore.Command.Execute
import RespStore.Proofs.Decimal

set_option autoImplicit false

namespace RespStore.Store

theorem delete_cons (store : Store) (key : Bytes) (rest : List Bytes) :
    store.delete (key :: rest) =
      (if (store.get? key).isSome then ((store.erase key).delete rest).1 + 1
        else ((store.erase key).delete rest).1, ((store.erase key).delete rest).2) :=
  rfl

theorem get?_delete (store : Store) (keys : List Bytes) (key : Bytes) :
    (store.delete keys).2.get? key = if key ∈ keys then none else store.get? key := by
  induction keys generalizing store with
  | nil => simp [delete]
  | cons first rest ih =>
    rw [delete_cons, ih, get?_erase]
    by_cases hfirst : key = first
    · simp [hfirst]
    · simp [hfirst]

theorem delete_eq_self {store : Store} {keys : List Bytes}
    (h : ∀ key ∈ keys, store.get? key = none) : (store.delete keys).2 = store := by
  induction keys with
  | nil => rfl
  | cons key rest ih =>
    have hrest := ih fun other hmem => h other (List.mem_cons_of_mem _ hmem)
    rw [delete_cons, erase_eq_self (h key List.mem_cons_self), hrest]

def present (store : Store) (keys : List Bytes) : Finset Bytes :=
  keys.toFinset.filter fun key => (store.get? key).isSome

theorem present_erase (store : Store) (key : Bytes) (rest : List Bytes) :
    (store.erase key).present rest = (store.present (key :: rest)).erase key := by
  ext other
  by_cases h : other = key
  · simp [present, h]
  · simp [present, h]

theorem fst_delete (store : Store) (keys : List Bytes) :
    (store.delete keys).1 = (store.present keys).card := by
  induction keys generalizing store with
  | nil => rfl
  | cons key rest ih =>
    rw [delete_cons, ih, present_erase]
    split
    · rename_i hkey
      exact Finset.card_erase_add_one (by simp [present, hkey])
    · rename_i hkey
      rw [Finset.erase_eq_of_notMem (by simp [present, hkey])]

theorem fst_delete_le (store : Store) (keys : List Bytes) :
    (store.delete keys).1 ≤ keys.length := by
  rw [fst_delete]
  exact Nat.le_trans (Finset.card_filter_le _ _) keys.toFinset_card_le

theorem entries_delete (store : Store) (keys : List Bytes) :
    (store.delete keys).2.entries = store.entries.filter fun entry => entry.1 ∉ keys := by
  induction keys generalizing store with
  | nil => simp [delete]
  | cons key rest ih =>
    have herase : (store.erase key).entries = store.entries.filter fun entry => entry.1 ≠ key := rfl
    rw [delete_cons, ih, herase, List.filter_filter]
    apply List.filter_congr
    intro entry _
    simp [Bool.and_comm]

/-- Neither the order of the keys nor how often one of them is named makes a difference. -/
theorem delete_congr (store : Store) {keys other : List Bytes}
    (h : ∀ key, key ∈ other ↔ key ∈ keys) : store.delete other = store.delete keys := by
  have hset : other.toFinset = keys.toFinset := by
    ext key
    rw [List.mem_toFinset, List.mem_toFinset, h]
  apply Prod.ext
  · rw [fst_delete, fst_delete, present, present, hset]
  · apply eq_of_entries
    simp only [entries_delete, h]

theorem delete_append (store : Store) (keys more : List Bytes) :
    store.delete (keys ++ more) =
      ((store.delete keys).1 + ((store.delete keys).2.delete more).1,
        ((store.delete keys).2.delete more).2) := by
  induction keys generalizing store with
  | nil => rw [List.nil_append, delete, Nat.zero_add]
  | cons key rest ih =>
    rw [List.cons_append, delete_cons, delete_cons, ih]
    split
    · rw [Nat.add_right_comm]
    · rfl

theorem delete_of_absent {store : Store} {keys : List Bytes}
    (h : ∀ key ∈ keys, store.get? key = none) : store.delete keys = (0, store) := by
  have hpresent : store.present keys = ∅ := by
    apply Finset.filter_eq_empty_iff.2
    intro key hkey
    rw [h key (List.mem_toFinset.1 hkey)]
    exact Bool.false_ne_true
  apply Prod.ext
  · rw [fst_delete, hpresent, Finset.card_empty]
  · exact delete_eq_self h

theorem delete_delete (store : Store) (keys : List Bytes) :
    (store.delete keys).2.delete keys = (0, (store.delete keys).2) := by
  apply delete_of_absent
  intro key hkey
  rw [get?_delete, if_pos hkey]

/-- The count of a deletion as a number of 64 bits; no list in memory has more keys than fit. -/
theorem toInt_fst_delete (store : Store) {keys : List Bytes}
    (h : keys.length ≤ Decimal.maxInt64) :
    (Int64.ofNat (store.delete keys).1).toInt = (store.delete keys).1 := by
  have hfits := Decimal.toInt_ofInt_of_le (Nat.le_trans (fst_delete_le store keys) h)
  rwa [Int64.ofInt_eq_ofNat] at hfits

/-- A deletion is one of a set of keys. It counts those of the set that are there, each once, and
leaves exactly the entries under other keys. Lists with the same keys do the same, a deletion of two
lists is one of the first and then one of the second, and a second deletion of the same keys finds
none. The command answers with this count. -/
theorem delete_removes_set (store : Store) (keys : List Bytes) :
    (store.delete keys).1 = (store.present keys).card ∧
      (store.delete keys).2.entries = store.entries.filter (fun entry => entry.1 ∉ keys) ∧
      (∀ other : List Bytes, (∀ key, key ∈ other ↔ key ∈ keys) →
        store.delete other = store.delete keys) ∧
      (∀ more : List Bytes, store.delete (keys ++ more) =
        ((store.delete keys).1 + ((store.delete keys).2.delete more).1,
          ((store.delete keys).2.delete more).2)) ∧
      (store.delete keys).2.delete keys = (0, (store.delete keys).2) ∧
      (keys.length ≤ Decimal.maxInt64 → ∃ n : Int64,
        (Command.del keys).run store = (.integer n, (store.delete keys).2) ∧
          n.toInt = (store.present keys).card) := by
  refine ⟨fst_delete store keys, entries_delete store keys, fun other => delete_congr store,
    delete_append store keys, delete_delete store keys, fun hlength => ⟨_, rfl, ?_⟩⟩
  rw [toInt_fst_delete store hlength, fst_delete]

def threeKeys : Store := ((Store.empty.set [97] [49]).set [98] [50]).set [99] [51]

-- Two keys that are there, one of them twice, and one that is not.
theorem delete_removes_set_repeated :
    (∀ key : Bytes, key ∈ [[97], [100], [98], [100]] ↔ key ∈ [[98], [100], [98], [97]]) ∧
      threeKeys.delete [[97], [100], [98], [100]] = threeKeys.delete [[98], [100], [98], [97]] ∧
      (threeKeys.delete [[98], [100], [98], [97]]).2.entries = [([99], [51])] ∧
      ∃ n : Int64, (Command.del [[98], [100], [98], [97]]).run threeKeys =
        (.integer n, (threeKeys.delete [[98], [100], [98], [97]]).2) ∧ n.toInt = 2 := by
  have hkeys (key : Bytes) :
      key ∈ [[97], [100], [98], [100]] ↔ key ∈ [[98], [100], [98], [97]] := by
    simp only [List.mem_cons, List.not_mem_nil, or_false]
    tauto
  have hcard : (threeKeys.present [[98], [100], [98], [97]]).card = 2 := by decide
  obtain ⟨-, hentries, hcongr, -, -, hreply⟩ :=
    delete_removes_set threeKeys [[98], [100], [98], [97]]
  obtain ⟨n, hrun, hn⟩ := hreply (by decide)
  refine ⟨hkeys, hcongr _ hkeys, ?_, n, hrun, ?_⟩
  · rw [hentries]
    decide
  · rw [hn, hcard]
    rfl

end RespStore.Store
