import RespStore.Proofs.Store.Counter
import RespStore.Proofs.Store.Deletion

set_option autoImplicit false

namespace RespStore.Store

def keySet (store : Store) : Finset Bytes :=
  (Entries.keys store.entries).toFinset

theorem isSome_find?_iff (key : Bytes) (entries : List Entry) :
    (Entries.find? key entries).isSome ↔ key ∈ Entries.keys entries := by
  induction entries with
  | nil => simp [Entries.find?, Entries.keys]
  | cons entry rest ih =>
    obtain ⟨k, v⟩ := entry
    rw [Entries.keys, List.map_cons, List.mem_cons, ← Entries.keys, ← ih, Entries.find?]
    by_cases h : k = key
    · simp [h]
    · simp [h, Ne.symm h]

theorem mem_keySet (store : Store) (key : Bytes) :
    key ∈ store.keySet ↔ (store.get? key).isSome := by
  rw [keySet, List.mem_toFinset, ← isSome_find?_iff, get?]

theorem size_eq_card (store : Store) : store.size = store.keySet.card := by
  rw [keySet, List.toFinset_card_of_nodup store.distinct, Entries.keys, List.length_map, size]

theorem isEmpty_iff (store : Store) :
    store.isEmpty = true ↔ ∀ key, store.get? key = none := by
  have hkeys : store.keySet = ∅ ↔ ∀ key, store.get? key = none := by
    simp only [Finset.eq_empty_iff_forall_notMem, mem_keySet, Option.not_isSome_iff_eq_none]
  rw [isEmpty, decide_eq_true_iff, size_eq_card, Finset.card_eq_zero, hkeys]

theorem keySet_set (store : Store) (key value : Bytes) :
    (store.set key value).keySet = insert key store.keySet := by
  ext other
  rw [Finset.mem_insert, mem_keySet, mem_keySet, get?_set]
  by_cases h : other = key
  · simp [h]
  · simp [h]

theorem size_set_of_none {store : Store} {key : Bytes} (h : store.get? key = none)
    (value : Bytes) : (store.set key value).size = store.size + 1 := by
  have hkey : key ∉ store.keySet := by simp [mem_keySet, h]
  rw [size_eq_card, keySet_set, Finset.card_insert_of_notMem hkey, ← size_eq_card]

theorem size_set_of_some {store : Store} {key before : Bytes} (h : store.get? key = some before)
    (value : Bytes) : (store.set key value).size = store.size := by
  have hkey : key ∈ store.keySet := by simp [mem_keySet, h]
  rw [size_eq_card, keySet_set, Finset.insert_eq_of_mem hkey, ← size_eq_card]

theorem size_delete (store : Store) (keys : List Bytes) :
    (store.delete keys).2.size + (store.delete keys).1 = store.size := by
  have hafter : (store.delete keys).2.keySet = store.keySet \ keys.toFinset := by
    ext key
    rw [Finset.mem_sdiff, mem_keySet, mem_keySet, List.mem_toFinset, get?_delete]
    by_cases h : key ∈ keys
    · simp [h]
    · simp [h]
  have hpresent : store.present keys = store.keySet ∩ keys.toFinset := by
    ext key
    rw [present, Finset.mem_filter, Finset.mem_inter, mem_keySet, and_comm]
  rw [fst_delete, size_eq_card, size_eq_card, hafter, hpresent]
  exact Finset.card_sdiff_add_card_inter store.keySet keys.toFinset

theorem size_increment_of_none {store : Store} {key : Bytes} {n : Int64}
    (hkey : store.get? key = none) (h : (store.increment key).1 = .ok n) :
    (store.increment key).2.size = store.size + 1 := by
  rcases increment_cases store key with ⟨-, hfails⟩ | ⟨m, -, -, hfails⟩ | ⟨m, next, -, -, hcounts⟩
  · rw [hfails] at h
    cases h
  · rw [hfails] at h
    cases h
  · rw [hcounts]
    exact size_set_of_none hkey _

theorem size_increment_of_some {store : Store} {key before : Bytes}
    (h : store.get? key = some before) : (store.increment key).2.size = store.size := by
  rcases increment_cases store key with ⟨-, hfails⟩ | ⟨m, -, -, hfails⟩ | ⟨m, next, -, -, hcounts⟩
  · rw [hfails]
  · rw [hfails]
  · rw [hcounts]
    exact size_set_of_some h _

end RespStore.Store
