import RespStore.Proofs.Text.Lowercase
import RespStore.Proofs.Text.Utf8

set_option autoImplicit false

namespace RespStore.Text

def Plain (c : Char) : Prop := 0 < c.toNat ∧ c.toNat < 128

instance (c : Char) : Decidable (Plain c) :=
  inferInstanceAs (Decidable (0 < c.toNat ∧ c.toNat < 128))

def lowerByte (b : UInt8) : UInt8 := if 0x41 ≤ b ∧ b ≤ 0x5A then b + 0x20 else b

theorem not_plain_ofNat {n : Nat} (h : 128 ≤ n) : ¬ Plain (Char.ofNat n) := by
  intro hplain
  have hcode := (eq_ofNat_iff hplain.1 n).1 rfl
  have hsmall := hplain.2
  omega

theorem toNat_ofNat_of_lt {n : Nat} (h : n < 128) : (Char.ofNat n).toNat = n := by
  rw [Char.ofNat, dif_pos (Or.inl (by omega))]
  rfl

namespace Utf8

theorem mem_done_start {c : Char} {done : List Char} (h : c ∈ done) (n : Nat) :
    c ∈ (start done n).done := by
  rcases start_cases done n with ⟨-, hstart⟩ | ⟨-, hstart⟩ | ⟨p, -, -, hstart⟩ <;>
    simp [hstart, h]

theorem mem_done_step {c : Char} {reading : Reading} (h : c ∈ reading.done) (byte : UInt8) :
    c ∈ (step reading byte).done := by
  obtain ⟨done, current⟩ := reading
  cases current with
  | none => exact mem_done_start h byte.toNat
  | some p =>
    simp only [step]
    split
    · split
      · exact List.mem_cons_of_mem _ h
      · exact h
    · exact mem_done_start (List.mem_cons_of_mem _ h) byte.toNat

theorem mem_close_foldl_step {c : Char} {reading : Reading} (h : c ∈ reading.done) (s : Bytes) :
    c ∈ (s.foldl step reading).close := by
  induction s generalizing reading with
  | nil =>
    rw [List.foldl_nil, Reading.close]
    split <;> simp [h]
  | cons byte rest ih => exact ih (mem_done_step h byte)

theorem not_plain_replacement : ¬ Plain replacement := by decide

theorem lt_of_plain_step {reading : Reading} {byte : UInt8} (hwide : reading.Wide)
    (hnone : (step reading byte).current = none)
    (hplain : ∀ c ∈ (step reading byte).done, Plain c) :
    reading.current = none ∧ byte.toNat < 128 := by
  obtain ⟨done, current⟩ := reading
  cases current with
  | none =>
    change (start done byte.toNat).current = none at hnone
    change ∀ c ∈ (start done byte.toNat).done, Plain c at hplain
    rcases start_cases done byte.toNat with ⟨hlow, -⟩ | ⟨-, hstart⟩ | ⟨p, -, -, hstart⟩
    · exact ⟨rfl, Nat.lt_succ_of_le hlow⟩
    · rw [hstart] at hplain
      exact absurd (hplain _ List.mem_cons_self) not_plain_replacement
    · rw [hstart] at hnone
      cases hnone
  | some p =>
    exfalso
    obtain ⟨hlow, hlowest⟩ := hwide p rfl
    simp only [step] at hnone hplain
    split at hplain
    · rename_i hcontinues
      rw [if_pos hcontinues] at hnone
      split at hplain
      · rename_i hlast
        rw [hlast, if_pos rfl] at hlowest
        exact not_plain_ofNat (by omega) (hplain _ List.mem_cons_self)
      · rename_i later hlater
        rw [hlater] at hnone
        cases hnone
    · exact not_plain_replacement
        (hplain _ (mem_done_start List.mem_cons_self byte.toNat))

theorem lt_of_plain_close {reading : Reading} (hwide : reading.Wide) (s : Bytes)
    (hplain : ∀ c ∈ (s.foldl step reading).close, Plain c) :
    reading.current = none ∧ ∀ b ∈ s, b.toNat < 128 := by
  induction s generalizing reading with
  | nil =>
    refine ⟨?_, nofun⟩
    rw [List.foldl_nil, Reading.close] at hplain
    split at hplain
    · assumption
    · exact absurd (hplain replacement (by simp)) not_plain_replacement
  | cons byte rest ih =>
    obtain ⟨hnone, hrest⟩ := ih (wide_step hwide) hplain
    have hdone : ∀ c ∈ (step reading byte).done, Plain c :=
      fun c hmem => hplain c (mem_close_foldl_step hmem rest)
    obtain ⟨hcurrent, hbyte⟩ := lt_of_plain_step hwide hnone hdone
    exact ⟨hcurrent, List.forall_mem_cons.2 ⟨hbyte, hrest⟩⟩

theorem lt_of_plain_decode {s : Bytes} (hplain : ∀ c ∈ (decode s).toList, Plain c) :
    ∀ b ∈ s, b.toNat < 128 := by
  rw [decode, String.toList_ofList] at hplain
  exact (lt_of_plain_close (wide_none []) s hplain).2

theorem exists_not_plain_decode {s : Bytes} {b : UInt8} (hb : b ∈ s) (hlarge : 128 ≤ b.toNat) :
    ∃ c ∈ (decode s).toList, ¬ Plain c := by
  refine Classical.byContradiction fun hnone => ?_
  have hplain : ∀ c ∈ (decode s).toList, Plain c :=
    fun c hc => Decidable.byContradiction fun hother => hnone ⟨c, hc, hother⟩
  have hsmall := lt_of_plain_decode hplain b hb
  omega

variable {s : Bytes}

theorem foldl_step_of_lt (h : ∀ b ∈ s, b.toNat < 128) (done : List Char) :
    s.foldl step ⟨done, none⟩ = ⟨(s.map fun b => Char.ofNat b.toNat).reverse ++ done, none⟩ := by
  induction s generalizing done with
  | nil => rfl
  | cons b rest ih =>
    obtain ⟨hb, hrest⟩ := List.forall_mem_cons.1 h
    have hstep : step ⟨done, none⟩ b = ⟨Char.ofNat b.toNat :: done, none⟩ :=
      start_one (Nat.le_of_lt_succ hb)
    rw [List.foldl_cons, hstep, ih hrest]
    simp

theorem toList_decode_of_lt (h : ∀ b ∈ s, b.toNat < 128) :
    (decode s).toList = s.map fun b => Char.ofNat b.toNat := by
  rw [decode, String.toList_ofList, foldl_step_of_lt h, Reading.close]
  simp

theorem encode_ofList_of_lt (h : ∀ b ∈ s, b.toNat < 128) :
    encode (String.ofList (s.map fun b => Char.ofNat b.toNat)) = s := by
  have hbyte : ∀ b ∈ s, String.utf8EncodeChar (Char.ofNat b.toNat) = [b] := by
    intro b hb
    have hcode : (Char.ofNat b.toNat).val.toNat = b.toNat := toNat_ofNat_of_lt (h b hb)
    have hlow := h b hb
    rw [utf8EncodeChar_of_lt (by omega), hcode, UInt8.ofNat_toNat]
  rw [encode, String.toList_ofList, List.flatMap_map, List.flatMap_def,
    List.map_congr_left hbyte, ← List.flatMap_def]
  exact List.flatMap_singleton' s

theorem encode_decode_of_lt (h : ∀ b ∈ s, b.toNat < 128) : encode (decode s) = s := by
  have hdecode : decode s = String.ofList (s.map fun b => Char.ofNat b.toNat) := by
    rw [← toList_decode_of_lt h, String.ofList_toList]
  rw [hdecode, encode_ofList_of_lt h]

theorem lt_of_mem_encode {text : String} (hplain : ∀ c ∈ text.toList, Plain c) :
    ∀ b ∈ encode text, b.toNat < 128 := by
  intro b hb
  obtain ⟨c, hc, hmem⟩ := List.mem_flatMap.1 hb
  have hsmall : c.val.toNat < 128 := (hplain c hc).2
  rw [utf8EncodeChar_of_lt hsmall, List.mem_singleton] at hmem
  rw [hmem, UInt8.toNat_ofNat']
  omega

end Utf8

open Utf8

theorem lowerChar_of_lt : ∀ n < 128,
    lowerChar (Char.ofNat n) = [Char.ofNat (lowerByte (UInt8.ofNat n)).toNat] := by
  decide +kernel

theorem lt_lowerByte_iff (b : UInt8) : (lowerByte b).toNat < 128 ↔ b.toNat < 128 := by
  unfold lowerByte
  split
  · rename_i hcapital
    have hlow := UInt8.le_iff_toNat_le.1 hcapital.1
    have hhigh := UInt8.le_iff_toNat_le.1 hcapital.2
    simp only [UInt8.toNat_add, UInt8.reduceToNat] at hlow hhigh ⊢
    omega
  · exact Iff.rfl

theorem lt_map_lowerByte {s : Bytes} (h : ∀ b ∈ s, b.toNat < 128) :
    ∀ b ∈ s.map lowerByte, b.toNat < 128 := by
  intro b hb
  obtain ⟨found, hfound, rfl⟩ := List.mem_map.1 hb
  exact (lt_lowerByte_iff found).2 (h found hfound)

theorem lowercaseAfter_of_lt {s : Bytes} (h : ∀ b ∈ s, b.toNat < 128) (done before : List Char) :
    lowercaseAfter done before (s.map fun b => Char.ofNat b.toNat) =
      done.reverse ++ (s.map lowerByte).map fun b => Char.ofNat b.toNat := by
  induction s generalizing done before with
  | nil => simp [lowercaseAfter]
  | cons b rest ih =>
    obtain ⟨hb, hrest⟩ := List.forall_mem_cons.1 h
    have hsigma : Char.ofNat b.toNat ≠ capitalSigma := by
      intro heq
      have hcode := toNat_ofNat_of_lt hb
      rw [heq] at hcode
      rw [← hcode] at hb
      exact absurd hb (by decide)
    rw [List.map_cons, lowercaseAfter, if_neg hsigma, lowerChar_of_lt _ hb, UInt8.ofNat_toNat,
      ih hrest]
    simp

theorem lowercase_decode_of_lt {s : Bytes} (h : ∀ b ∈ s, b.toNat < 128) :
    lowercase (decode s) = decode (s.map lowerByte) := by
  rw [lowercase, toList_decode_of_lt h, lowercaseAfter_of_lt h,
    ← toList_decode_of_lt (lt_map_lowerByte h)]
  exact String.ofList_toList

/-- No run leads into ASCII from outside, but for the one of the sign whose small form is `k`. -/
theorem caseRuns_outside : ∀ run ∈ caseRuns,
    run.last < 128 ∨ 128 ≤ run.target ∨ run.first = run.last ∧ run.target = 0x6B := by
  decide +kernel

theorem lowerCode_of_le {n : Nat} (h : 128 ≤ n) : 128 ≤ lowerCode n ∨ lowerCode n = 0x6B := by
  rcases lowerCodeIn_cases caseRuns n with hsame | ⟨run, hmem, hfirst, hlast, htarget⟩
  · rw [lowerCode, hsame]
    exact .inl h
  · rw [lowerCode, htarget]
    rcases caseRuns_outside run hmem with hrun | hrun | ⟨hone, hk⟩ <;> omega

/-- A character that has no place in a name of plain characters without `k`. -/
def Strange (c : Char) : Prop := ¬ Plain c ∨ c = 'k'

instance (c : Char) : Decidable (Strange c) :=
  inferInstanceAs (Decidable (¬ Plain c ∨ c = 'k'))

theorem exists_strange_lowerChar {c : Char} (h : ¬ Plain c) : ∃ d ∈ lowerChar c, Strange d := by
  unfold lowerChar
  split
  · exact ⟨dotAbove, by simp, .inl (by decide)⟩
  · refine ⟨_, List.mem_singleton_self _, ?_⟩
    have hcode : c.toNat = 0 ∨ 128 ≤ c.toNat := by
      unfold Plain at h
      omega
    rcases hcode with hzero | hlarge
    · rw [hzero]
      exact .inl (by decide)
    · rcases lowerCode_of_le hlarge with hout | hk
      · exact .inl (not_plain_ofNat hout)
      · rw [hk]
        exact .inr rfl

theorem strange_lowerSigma (before after : List Char) : Strange (lowerSigma before after) := by
  unfold lowerSigma
  split <;> exact .inl (by decide)

theorem mem_lowercaseAfter_of_mem_done {d : Char} {done : List Char} (h : d ∈ done)
    (before rest : List Char) : d ∈ lowercaseAfter done before rest := by
  fun_induction lowercaseAfter done before rest with
  | case1 => exact List.mem_reverse.2 h
  | case2 done before after ih => exact ih (List.mem_cons_of_mem _ h)
  | case3 done before other after hother ih => exact ih (List.mem_append_right _ h)

theorem exists_strange_lowercaseAfter {c : Char} (h : ¬ Plain c) {rest : List Char}
    (hc : c ∈ rest) (done before : List Char) :
    ∃ d ∈ lowercaseAfter done before rest, Strange d := by
  fun_induction lowercaseAfter done before rest with
  | case1 => cases hc
  | case2 done before after ih =>
    exact ⟨lowerSigma before after, mem_lowercaseAfter_of_mem_done List.mem_cons_self _ _,
      strange_lowerSigma before after⟩
  | case3 done before other after hother ih =>
    rcases List.mem_cons.1 hc with rfl | hrest
    · obtain ⟨d, hd, hstrange⟩ := exists_strange_lowerChar h
      refine ⟨d, mem_lowercaseAfter_of_mem_done ?_ _ _, hstrange⟩
      exact List.mem_append_left _ (List.mem_reverse.2 hd)
    · exact ih hrest

theorem exists_strange_lowercase {text : String} {c : Char} (hc : c ∈ text.toList)
    (h : ¬ Plain c) : ∃ d ∈ (lowercase text).toList, Strange d := by
  rw [lowercase, String.toList_ofList]
  exact exists_strange_lowercaseAfter h hc [] []

theorem lowercase_decode_eq_iff {name : String} (hname : ∀ d ∈ name.toList, ¬ Strange d)
    (t : Bytes) : lowercase (decode t) = name ↔ t.map lowerByte = encode name := by
  constructor
  · rintro rfl
    have hplain : ∀ c ∈ (decode t).toList, Plain c := by
      intro c hc
      refine Decidable.byContradiction fun hother => ?_
      obtain ⟨d, hd, hstrange⟩ := exists_strange_lowercase hc hother
      exact hname d hd hstrange
    have ht := lt_of_plain_decode hplain
    rw [lowercase_decode_of_lt ht, encode_decode_of_lt (lt_map_lowerByte ht)]
  · intro h
    have hplain : ∀ c ∈ name.toList, Plain c :=
      fun c hc => Decidable.byContradiction fun hplain => hname c hc (.inl hplain)
    have ht : ∀ b ∈ t, b.toNat < 128 := by
      intro b hb
      have hlower : lowerByte b ∈ t.map lowerByte := List.mem_map_of_mem hb
      rw [h] at hlower
      exact (lt_lowerByte_iff b).1 (lt_of_mem_encode hplain _ hlower)
    rw [lowercase_decode_of_lt ht, h, decode_encode]

end RespStore.Text
