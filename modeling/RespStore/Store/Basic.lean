import RespStore.Decimal

/-!
# Stores

A store holds a value under each of its keys; keys and values are any bytes, and two keys are the
same only byte for byte. The lemmas say what each operation does to what `get?` answers.
-/

set_option autoImplicit false

namespace RespStore

abbrev Entry := Bytes × Bytes

namespace Entries

def find? (key : Bytes) : List Entry → Option Bytes
  | [] => none
  | (k, value) :: rest => if k = key then some value else find? key rest

/-- Puts a value under a key: in the place of the one before, or at the end. -/
def put (key value : Bytes) : List Entry → List Entry
  | [] => [(key, value)]
  | (k, v) :: rest => if k = key then (k, value) :: rest else (k, v) :: put key value rest

def remove (key : Bytes) (entries : List Entry) : List Entry :=
  entries.filter fun entry => entry.1 ≠ key

def keys (entries : List Entry) : List Bytes :=
  entries.map Prod.fst

theorem keys_put (key value : Bytes) (entries : List Entry) :
    keys (put key value entries) =
      if key ∈ keys entries then keys entries else keys entries ++ [key] := by
  induction entries with
  | nil => simp [put, keys]
  | cons entry rest ih =>
    obtain ⟨k, v⟩ := entry
    by_cases h : k = key
    · simp [put, keys, h]
    · have h' : key ≠ k := fun e => h e.symm
      simp only [keys] at ih
      by_cases hm : key ∈ rest.map Prod.fst
      · simp_all [put, keys]
      · simp_all [put, keys]

theorem nodup_keys_put {key value : Bytes} {entries : List Entry} (h : (keys entries).Nodup) :
    (keys (put key value entries)).Nodup := by
  rw [keys_put]
  split
  · exact h
  · rename_i hkey
    refine List.nodup_append.2 ⟨h, by simp, ?_⟩
    intro a ha b hb
    rw [List.mem_singleton] at hb
    rintro rfl
    exact hkey (hb ▸ ha)

theorem nodup_keys_remove {key : Bytes} {entries : List Entry} (h : (keys entries).Nodup) :
    (keys (remove key entries)).Nodup :=
  (List.Sublist.map Prod.fst List.filter_sublist).nodup h

theorem find?_put (key value other : Bytes) (entries : List Entry) :
    find? other (put key value entries) =
      if other = key then some value else find? other entries := by
  induction entries with
  | nil => simp [put, find?, eq_comm]
  | cons entry rest ih =>
    obtain ⟨k, v⟩ := entry
    by_cases hk : k = key
    · subst hk
      by_cases ho : other = k
      · simp [put, find?, ho]
      · simp [put, find?, ho, Ne.symm ho]
    · by_cases ho : k = other
      · subst ho
        simp [put, find?, hk]
      · simp [put, find?, hk, ho, ih]

theorem find?_remove (key other : Bytes) (entries : List Entry) :
    find? other (remove key entries) = if other = key then none else find? other entries := by
  induction entries with
  | nil => simp [remove, find?]
  | cons entry rest ih =>
    obtain ⟨k, v⟩ := entry
    simp only [remove] at ih ⊢
    by_cases hk : k = key
    · by_cases ho : other = key
      · simp [hk, ho] at ih ⊢
        exact ih
      · have : k ≠ other := fun e => ho (e ▸ hk)
        simp [hk, ho, find?, Ne.symm ho] at ih ⊢
        exact ih
    · by_cases ho : k = other
      · subst ho
        simp [hk, find?]
      · simp [hk, find?, ho]
        simpa using ih

theorem put_eq_self {key value : Bytes} {entries : List Entry}
    (h : find? key entries = some value) : put key value entries = entries := by
  induction entries with
  | nil => cases h
  | cons entry rest ih =>
    obtain ⟨k, v⟩ := entry
    rw [find?] at h
    rw [put]
    by_cases hk : k = key
    · rw [if_pos hk] at h ⊢
      cases h
      rfl
    · rw [if_neg hk] at h ⊢
      rw [ih h]

theorem remove_eq_self {key : Bytes} {entries : List Entry} (h : find? key entries = none) :
    remove key entries = entries := by
  induction entries with
  | nil => rfl
  | cons entry rest ih =>
    obtain ⟨k, v⟩ := entry
    rw [find?] at h
    by_cases hk : k = key
    · rw [if_pos hk] at h
      cases h
    · rw [if_neg hk] at h
      rw [remove, List.filter_cons_of_pos (by simpa using hk)]
      exact congrArg _ (ih h)

end Entries

/-- Entries of which no two have the same key. -/
structure Store where
  entries : List Entry
  distinct : (Entries.keys entries).Nodup

namespace Store

def empty : Store := ⟨[], by simp [Entries.keys]⟩

def get? (store : Store) (key : Bytes) : Option Bytes :=
  Entries.find? key store.entries

def set (store : Store) (key value : Bytes) : Store :=
  ⟨Entries.put key value store.entries, Entries.nodup_keys_put store.distinct⟩

def erase (store : Store) (key : Bytes) : Store :=
  ⟨Entries.remove key store.entries, Entries.nodup_keys_remove store.distinct⟩

def size (store : Store) : Nat := store.entries.length

def isEmpty (store : Store) : Bool := store.size = 0

/-- Removes the keys one after another and counts those that were there when their turn came. -/
def delete (store : Store) : List Bytes → Nat × Store
  | [] => (0, store)
  | key :: rest =>
    match (store.erase key).delete rest with
    | (count, after) => (if (store.get? key).isSome then count + 1 else count, after)

@[simp] theorem get?_set (store : Store) (key value other : Bytes) :
    (store.set key value).get? other = if other = key then some value else store.get? other :=
  Entries.find?_put key value other store.entries

@[simp] theorem get?_erase (store : Store) (key other : Bytes) :
    (store.erase key).get? other = if other = key then none else store.get? other :=
  Entries.find?_remove key other store.entries

theorem eq_of_entries {s t : Store} (h : s.entries = t.entries) : s = t := by
  cases s
  cases t
  cases h
  rfl

theorem set_eq_self {store : Store} {key value : Bytes} (h : store.get? key = some value) :
    store.set key value = store :=
  eq_of_entries (Entries.put_eq_self h)

theorem erase_eq_self {store : Store} {key : Bytes} (h : store.get? key = none) :
    store.erase key = store :=
  eq_of_entries (Entries.remove_eq_self h)

end Store

end RespStore
