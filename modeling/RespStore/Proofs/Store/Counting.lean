import RespStore.Proofs.Store.Counter

set_option autoImplicit false

namespace RespStore.Store

open Decimal (maxInt64)

/-- The number that an increment starts from: the one that the text under the key writes, or zero
if there is no text. -/
def Counts (store : Store) (key : Bytes) (v : Int) : Prop :=
  store.get? key = none ∧ v = 0 ∨
    ∃ text, store.get? key = some text ∧ Decimal.Writes text v ∧ Decimal.InRange v

theorem counts_iff {store : Store} {key : Bytes} {v : Int} :
    store.Counts key v ↔ ∃ n : Int64, n.toInt = v ∧ store.number? key = some n := by
  constructor
  · rintro (⟨hnone, rfl⟩ | ⟨text, htext, hwrites, hrange⟩)
    · exact ⟨0, rfl, number?_eq_some_iff.2 (.inl ⟨hnone, rfl⟩)⟩
    · obtain ⟨n, rfl⟩ := hrange.exists_toInt
      refine ⟨n, rfl, number?_eq_some_iff.2 (.inr ⟨text, htext, ?_⟩)⟩
      exact Decimal.readInt64?_eq_some_iff.2 hwrites
  · rintro ⟨n, rfl, hnumber⟩
    rcases number?_eq_some_iff.1 hnumber with ⟨hnone, rfl⟩ | ⟨text, htext, hread⟩
    · exact .inl ⟨hnone, rfl⟩
    · exact .inr ⟨text, htext, Decimal.readInt64?_eq_some_iff.1 hread, Decimal.inRange_toInt n⟩

theorem counts_set_ofInt {v : Int} (h : Decimal.InRange v) (store : Store) (key : Bytes) :
    (store.set key (Decimal.ofInt v)).Counts key v := by
  refine .inr ⟨Decimal.ofInt v, ?_, (Decimal.canonical_ofInt v).writes, h⟩
  rw [get?_set, if_pos rfl]

theorem increment_of_counts {store : Store} {key : Bytes} {v : Int} (h : store.Counts key v)
    (hlt : v < maxInt64) :
    ∃ n : Int64, n.toInt = v + 1 ∧
      store.increment key = (.ok n, store.set key (Decimal.ofInt (v + 1))) := by
  obtain ⟨n, rfl, hnumber⟩ := counts_iff.1 h
  obtain ⟨next, hnext, hincrement⟩ := increment_of_lt hnumber hlt
  rw [Decimal.ofInt64, hnext] at hincrement
  exact ⟨next, hnext, hincrement⟩

theorem increment_of_counts_max {store : Store} {key : Bytes} (h : store.Counts key maxInt64) :
    store.increment key = (.error .overflow, store) := by
  obtain ⟨n, hmax, hnumber⟩ := counts_iff.1 h
  exact increment_of_eq hnumber hmax

theorem fst_increment_eq_overflow_iff {store : Store} {key : Bytes} :
    (store.increment key).1 = .error .overflow ↔ store.Counts key maxInt64 := by
  constructor
  · intro h
    rcases increment_cases store key with
      ⟨-, hfails⟩ | ⟨n, hnumber, hmax, -⟩ | ⟨n, m, -, -, hcounts⟩
    · rw [hfails] at h
      cases h
    · exact counts_iff.2 ⟨n, hmax, hnumber⟩
    · rw [hcounts] at h
      cases h
  · intro h
    rw [increment_of_counts_max h]

theorem fst_increment_eq_notAnInteger_iff_number? {store : Store} {key : Bytes} :
    (store.increment key).1 = .error .notAnInteger ↔ store.number? key = none := by
  rcases increment_cases store key with
    ⟨hnone, hfails⟩ | ⟨n, hnumber, -, hfails⟩ | ⟨n, m, hnumber, -, hcounts⟩
  · simp only [hfails, hnone]
  · simp only [hfails, hnumber, Except.error.injEq, reduceCtorEq]
  · simp only [hcounts, hnumber, reduceCtorEq]

theorem fst_increment_eq_notAnInteger_iff {store : Store} {key : Bytes} :
    (store.increment key).1 = .error .notAnInteger ↔
      ∃ text, store.get? key = some text ∧
        ¬ ∃ v, Decimal.Writes text v ∧ Decimal.InRange v := by
  rw [fst_increment_eq_notAnInteger_iff_number?, number?]
  cases store.get? key with
  | none => simp
  | some text =>
    rw [Decimal.readInt64?_eq_none_iff]
    simp

def increments (store : Store) (key : Bytes) : Nat → List (Except CountError Int64) × Store
  | 0 => ([], store)
  | count + 1 =>
    ((store.increment key).1 :: ((store.increment key).2.increments key count).1,
      ((store.increment key).2.increments key count).2)

theorem increments_add (store : Store) (key : Bytes) (count extra : Nat) :
    store.increments key (count + extra) =
      ((store.increments key count).1 ++ ((store.increments key count).2.increments key extra).1,
        ((store.increments key count).2.increments key extra).2) := by
  induction count generalizing store with
  | zero => rw [Nat.zero_add, increments, List.nil_append]
  | succ count ih => rw [Nat.succ_add, increments, ih, increments, List.cons_append]

theorem increments_of_counts_max {store : Store} {key : Bytes} (h : store.Counts key maxInt64)
    (count : Nat) :
    store.increments key count = (List.replicate count (.error .overflow), store) := by
  induction count with
  | zero => rfl
  | succ count ih => rw [increments, increment_of_counts_max h, ih, List.replicate_succ]

structure CountedUp (before : Store) (key : Bytes) (v : Int) (count : Nat)
    (outcomes : List (Except CountError Int64)) (after : Store) : Prop where
  outcomes_eq : outcomes.map (fun outcome => outcome.map Int64.toInt) =
    (List.range count).map fun i : Nat => .ok (v + i + 1)
  counts : after.Counts key (v + count)
  text : 0 < count → ∃ text, after.get? key = some text ∧ Decimal.Canonical text (v + count)
  others : ∀ other, other ≠ key → after.get? other = before.get? other

theorem CountedUp.step {before after : Store} {key : Bytes} {v : Int} {count : Nat}
    {outcomes : List (Except CountError Int64)} (h : CountedUp before key v count outcomes after)
    (hlt : v + count < maxInt64) :
    CountedUp before key v (count + 1) (outcomes ++ [(after.increment key).1])
      (after.increment key).2 := by
  obtain ⟨n, hn, hincrement⟩ := increment_of_counts h.counts hlt
  have hnext : v + count + 1 = v + (count + 1 : Nat) := by omega
  have hrange : Decimal.InRange (v + (count + 1 : Nat)) := by
    rw [← hnext, ← hn]
    exact Decimal.inRange_toInt n
  rw [hincrement, hnext]
  constructor
  · rw [List.map_append, h.outcomes_eq, List.range_succ, List.map_append, List.map_singleton,
      List.map_singleton, Except.map, hn]
  · exact counts_set_ofInt hrange after key
  · intro _
    refine ⟨_, ?_, Decimal.canonical_ofInt _⟩
    rw [get?_set, if_pos rfl]
  · intro other hother
    rw [get?_set, if_neg hother, h.others other hother]

theorem countedUp_increments {store : Store} {key : Bytes} {v : Int} (h : store.Counts key v)
    {count : Nat} (hle : v + count ≤ maxInt64) :
    CountedUp store key v count (store.increments key count).1 (store.increments key count).2 := by
  induction count with
  | zero =>
    refine ⟨rfl, ?_, fun hpos => absurd hpos (Nat.lt_irrefl 0), fun _ _ => rfl⟩
    rw [Int.natCast_zero, Int.add_zero]
    exact h
  | succ count ih =>
    rw [increments_add]
    exact (ih (by omega)).step (by omega)

/-- Increments are exact. One fails exactly if the text under the key writes no number in range or
the largest one, and then changes nothing. Otherwise it answers with the next number and puts the
canonical text of that number under the key and nothing else. Increments one after another count on
up to the largest number, and from there on all of them fail. -/
theorem increment_exact (store : Store) (key : Bytes) :
    ((store.increment key).1 = .error .notAnInteger ↔
      ∃ text, store.get? key = some text ∧
        ¬ ∃ v, Decimal.Writes text v ∧ Decimal.InRange v) ∧
    ((store.increment key).1 = .error .overflow ↔ store.Counts key maxInt64) ∧
    (∀ fault, (store.increment key).1 = .error fault → (store.increment key).2 = store) ∧
    ∀ v, store.Counts key v →
      (v < maxInt64 → ∃ (n : Int64) (text : Bytes), n.toInt = v + 1 ∧
        (store.increment key).1 = .ok n ∧ (store.increment key).2.get? key = some text ∧
        Decimal.Canonical text (v + 1) ∧
        ∀ other, other ≠ key → (store.increment key).2.get? other = store.get? other) ∧
      ∀ count : Nat, v + count ≤ maxInt64 →
        CountedUp store key v count (store.increments key count).1
          (store.increments key count).2 ∧
        (v + count = maxInt64 → ∀ extra : Nat, store.increments key (count + extra) =
          ((store.increments key count).1 ++ List.replicate extra (.error .overflow),
            (store.increments key count).2)) := by
  refine ⟨fst_increment_eq_notAnInteger_iff, fst_increment_eq_overflow_iff, ?_, ?_⟩
  · intro fault hfault
    rw [increment_of_error hfault]
  · intro v hv
    refine ⟨fun hlt => ?_, fun count hle => ?_⟩
    · obtain ⟨n, hn, hincrement⟩ := increment_of_counts hv hlt
      refine ⟨n, Decimal.ofInt (v + 1), hn, by rw [hincrement], ?_, Decimal.canonical_ofInt _,
        fun other hother => get?_increment_of_ne hother store⟩
      rw [hincrement, get?_set, if_pos rfl]
    · have hcounted := countedUp_increments hv hle
      refine ⟨hcounted, fun hmax extra => ?_⟩
      have htop : (store.increments key count).2.Counts key maxInt64 := hmax ▸ hcounted.counts
      rw [increments_add, increments_of_counts_max htop]

def nearlyFull : Store :=
  Store.empty.set [107]
    [43, 48, 57, 50, 50, 51, 51, 55, 50, 48, 51, 54, 56, 53, 52, 55, 55, 53, 56, 48, 53]

theorem increment_exact_nearlyFull :
    nearlyFull.Counts [107] 9223372036854775805 ∧
      (nearlyFull.increments [107] 2).1.map (fun outcome => outcome.map Int64.toInt) =
        [.ok 9223372036854775806, .ok 9223372036854775807] ∧
      (nearlyFull.increments [107] 2).2.Counts [107] maxInt64 ∧
      (nearlyFull.increments [107] 5).1 =
        (nearlyFull.increments [107] 2).1 ++ List.replicate 3 (.error .overflow) := by
  have hcounts : nearlyFull.Counts [107] 9223372036854775805 :=
    counts_iff.2 ⟨9223372036854775805, by decide, by decide⟩
  obtain ⟨-, -, -, hruns⟩ := increment_exact nearlyFull [107]
  obtain ⟨hcounted, hforever⟩ := (hruns _ hcounts).2 2 (by decide)
  exact ⟨hcounts, hcounted.outcomes_eq, hcounted.counts,
    congrArg Prod.fst (hforever (by decide) 3)⟩

end RespStore.Store
