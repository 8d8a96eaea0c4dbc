import RespStore.Proofs.Text.Utf8
import RespStore.Text.Lowercase

set_option autoImplicit false

namespace RespStore.Text

/-- A code point has itself as its lower-case form, or the one under a run that holds it. -/
theorem lowerCodeIn_cases (runs : List CaseRun) (n : Nat) :
    lowerCodeIn runs n = n ∨
      ∃ run ∈ runs, run.first ≤ n ∧ n ≤ run.last ∧
        lowerCodeIn runs n = run.target + (n - run.first) := by
  induction runs with
  | nil => exact .inl rfl
  | cons run rest ih =>
    rw [lowerCodeIn]
    split
    · exact .inl rfl
    · split
      · rename_i hholds
        simp only [CaseRun.contains, Bool.and_eq_true, decide_eq_true_eq] at hholds
        exact .inr ⟨run, List.mem_cons_self, hholds.1.1, hholds.1.2, rfl⟩
      · rcases ih with h | ⟨other, hmem, h⟩
        · exact .inl h
        · exact .inr ⟨other, List.mem_cons_of_mem _ hmem, h⟩

theorem le_of_mem_caseRuns : ∀ run ∈ caseRuns, 0x41 ≤ run.first ∧ 0x41 ≤ run.target := by
  decide +kernel

theorem lowerCode_eq_iff {m : Nat} (h : m < 0x41) (n : Nat) : lowerCode n = m ↔ n = m := by
  rcases lowerCodeIn_cases caseRuns n with hsame | ⟨run, hmem, hfirst, -, htarget⟩
  · rw [lowerCode, hsame]
  · have hrun := le_of_mem_caseRuns run hmem
    rw [lowerCode]
    omega

variable {c : Char}

theorem ne_of_lt_of_le {d : Char} (hc : c.toNat < 0x41) (hd : 0x41 ≤ d.toNat) : c ≠ d := by
  rintro rfl
  omega

theorem mem_lowerChar_iff (hpos : 0 < c.toNat) (hc : c.toNat < 0x41) (other : Char) :
    c ∈ lowerChar other ↔ c = other := by
  unfold lowerChar
  split
  · rename_i hother
    have hi : c ≠ 'i' := ne_of_lt_of_le hc (by decide)
    have hdot : c ≠ dotAbove := ne_of_lt_of_le hc (by decide)
    have hcapital : c ≠ dottedCapitalI := ne_of_lt_of_le hc (by decide)
    simp [hother, hi, hdot, hcapital]
  · rw [List.mem_singleton, eq_ofNat_iff hpos, eq_comm, lowerCode_eq_iff hc, eq_comm,
      Char.toNat_inj]

theorem ne_lowerSigma (hc : c.toNat < 0x41) (before after : List Char) :
    c ≠ lowerSigma before after := by
  unfold lowerSigma
  split <;> exact ne_of_lt_of_le hc (by decide)

theorem mem_lowercaseAfter_iff (hpos : 0 < c.toNat) (hc : c.toNat < 0x41)
    (done before rest : List Char) :
    c ∈ lowercaseAfter done before rest ↔ c ∈ done ∨ c ∈ rest := by
  fun_induction lowercaseAfter done before rest with
  | case1 => simp
  | case2 done before after ih =>
    have hcapital : c ≠ capitalSigma := ne_of_lt_of_le hc (by decide)
    simp [ih, ne_lowerSigma hc, hcapital]
  | case3 done before other after hother ih =>
    simp [ih, mem_lowerChar_iff hpos hc, or_left_comm, or_assoc]

theorem mem_lowercase_iff (text : String) (c : Char) (hpos : 0 < c.toNat) (hc : c.toNat < 0x41) :
    c ∈ (lowercase text).toList ↔ c ∈ text.toList := by
  rw [lowercase, String.toList_ofList, mem_lowercaseAfter_iff hpos hc]
  simp

end RespStore.Text
