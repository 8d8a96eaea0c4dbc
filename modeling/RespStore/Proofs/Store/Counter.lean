import RespStore.Proofs.Decimal
import RespStore.Store.Counter

set_option autoImplicit false

namespace RespStore.Store

open Decimal (maxInt64)

theorem number?_eq_some_iff {store : Store} {key : Bytes} {n : Int64} :
    store.number? key = some n ↔
      store.get? key = none ∧ n = 0 ∨
        ∃ text, store.get? key = some text ∧ Decimal.readInt64? text = some n := by
  unfold number?
  cases store.get? key with
  | none => simp [eq_comm]
  | some text => simp

theorem number?_set_ofInt64 (store : Store) (key : Bytes) (n : Int64) :
    (store.set key (Decimal.ofInt64 n)).number? key = some n := by
  rw [number?, get?_set, if_pos rfl]
  exact Decimal.readInt64?_ofInt64 n

theorem toInt_le_maxInt64 (n : Int64) : n.toInt ≤ maxInt64 := by
  exact (Decimal.inRange_toInt n).2

theorem increment_of_eq {store : Store} {key : Bytes} {n : Int64}
    (hnumber : store.number? key = some n) (hmax : n.toInt = maxInt64) :
    store.increment key = (.error .overflow, store) := by
  have hn : n = Int64.maxValue := by
    rw [← Int64.toInt_inj, hmax]
    decide
  rw [increment, hnumber]
  exact if_pos hn

theorem increment_of_lt {store : Store} {key : Bytes} {n : Int64}
    (hnumber : store.number? key = some n) (hlt : n.toInt < maxInt64) :
    ∃ m, m.toInt = n.toInt + 1 ∧
      store.increment key = (.ok m, store.set key (Decimal.ofInt64 m)) := by
  have hn : n ≠ Int64.maxValue := by
    rintro rfl
    exact absurd hlt (by decide)
  have hlow := n.le_toInt
  refine ⟨n + 1, ?_, ?_⟩
  · have hsum : n + 1 = Int64.ofInt (n.toInt + 1) := by
      rw [Int64.ofInt_add, Int64.ofInt_toInt]
      rfl
    simp only [maxInt64, Int64.size] at hlt
    rw [hsum, Int64.toInt_ofInt_of_le (by omega) (by omega)]
  · rw [increment, hnumber]
    exact if_neg hn

theorem increment_cases (store : Store) (key : Bytes) :
    (store.number? key = none ∧ store.increment key = (.error .notAnInteger, store)) ∨
      (∃ n, store.number? key = some n ∧ n.toInt = maxInt64 ∧
        store.increment key = (.error .overflow, store)) ∨
      ∃ n m, store.number? key = some n ∧ m.toInt = n.toInt + 1 ∧
        store.increment key = (.ok m, store.set key (Decimal.ofInt64 m)) := by
  cases hnumber : store.number? key with
  | none => exact .inl ⟨rfl, by rw [increment, hnumber]⟩
  | some n =>
    have hle := toInt_le_maxInt64 n
    by_cases hmax : n.toInt = maxInt64
    · exact .inr (.inl ⟨n, rfl, hmax, increment_of_eq hnumber hmax⟩)
    · obtain ⟨m, hm, hincrement⟩ := increment_of_lt hnumber (by omega)
      exact .inr (.inr ⟨n, m, rfl, hm, hincrement⟩)

theorem get?_increment_of_ne {key other : Bytes} (h : key ≠ other) (store : Store) :
    (store.increment other).2.get? key = store.get? key := by
  rcases increment_cases store other with ⟨-, hfails⟩ | ⟨n, -, -, hfails⟩ | ⟨n, m, -, -, hcounts⟩
  · rw [hfails]
  · rw [hfails]
  · rw [hcounts, get?_set, if_neg h]

theorem increment_congr {s t : Store} {key : Bytes} (h : s.get? key = t.get? key) :
    (s.increment key).1 = (t.increment key).1 ∧
      (s.increment key).2.get? key = (t.increment key).2.get? key := by
  have hnumber : s.number? key = t.number? key := by rw [number?, h, number?]
  rw [increment, increment, hnumber]
  cases t.number? key with
  | none => exact ⟨rfl, h⟩
  | some n =>
    by_cases hmax : n = Int64.maxValue
    · simp only [if_pos hmax, h, and_self]
    · simp only [if_neg hmax, get?_set, if_pos, and_self]

theorem increment_of_error {store : Store} {key : Bytes} {fault : CountError}
    (h : (store.increment key).1 = .error fault) : store.increment key = (.error fault, store) := by
  rcases increment_cases store key with ⟨-, hfails⟩ | ⟨n, -, -, hfails⟩ | ⟨n, m, -, -, hcounts⟩
  · rw [hfails] at h ⊢
    cases h
    rfl
  · rw [hfails] at h ⊢
    cases h
    rfl
  · rw [hcounts] at h
    cases h

/-- The text under a key reads as one number, and after an increment as the next. -/
theorem get?_increment_ne {store : Store} {key : Bytes} {m : Int64}
    (h : (store.increment key).1 = .ok m) : (store.increment key).2.get? key ≠ store.get? key := by
  rcases increment_cases store key with
    ⟨-, hfails⟩ | ⟨n, -, -, hfails⟩ | ⟨n, next, hnumber, hnext, hcounts⟩
  · rw [hfails] at h
    cases h
  · rw [hfails] at h
    cases h
  · rw [hcounts]
    intro hsame
    have hagain := number?_set_ofInt64 store key next
    rw [number?, hsame, ← number?, hnumber] at hagain
    cases hagain
    omega

end RespStore.Store
