import RespStore.Text.Utf8

set_option autoImplicit false

namespace RespStore.Text

theorem eq_ofNat_iff {c : Char} (hpos : 0 < c.toNat) (n : Nat) :
    c = Char.ofNat n ↔ c.toNat = n := by
  constructor
  · rintro rfl
    by_cases hvalid : n.isValidChar
    · rw [Char.ofNat, dif_pos hvalid]
      rfl
    · rw [Char.ofNat, dif_neg hvalid] at hpos
      exact absurd hpos (by decide)
  · rintro rfl
    exact (Char.ofNat_toNat c).symm

namespace Utf8

theorem val_eq_of_mem_utf8EncodeChar {b : UInt8} {c : Char} (h : b ∈ String.utf8EncodeChar c)
    (hb : b.toNat < 128) : c.val.toNat = b.toNat := by
  revert h
  unfold String.utf8EncodeChar
  generalize c.val.toNat = v
  simp only
  intro h
  have hbyte (n : Nat) : (UInt8.ofNat n).toNat = n % 256 := UInt8.toNat_ofNat'
  by_cases hone : v ≤ 127
  · rw [if_pos hone, List.mem_singleton] at h
    rw [h, hbyte]
    omega
  rw [if_neg hone] at h
  exfalso
  by_cases htwo : v ≤ 2047
  · rw [if_pos htwo] at h
    simp only [List.mem_cons, List.not_mem_nil, or_false] at h
    rcases h with rfl | rfl <;> rw [hbyte] at hb <;> omega
  rw [if_neg htwo] at h
  by_cases hthree : v ≤ 65535
  · rw [if_pos hthree] at h
    simp only [List.mem_cons, List.not_mem_nil, or_false] at h
    rcases h with rfl | rfl | rfl <;> rw [hbyte] at hb <;> omega
  · rw [if_neg hthree] at h
    simp only [List.mem_cons, List.not_mem_nil, or_false] at h
    rcases h with rfl | rfl | rfl | rfl <;> rw [hbyte] at hb <;> omega

theorem utf8EncodeChar_of_lt {c : Char} (hc : c.val.toNat < 128) :
    String.utf8EncodeChar c = [UInt8.ofNat c.val.toNat] := by
  simp only [String.utf8EncodeChar]
  rw [if_pos (Nat.le_of_lt_succ hc)]

theorem mem_encode_iff (text : String) (c : Char) (hc : c.val.toNat < 128) :
    UInt8.ofNat c.val.toNat ∈ encode text ↔ c ∈ text.toList := by
  have hbyte : (UInt8.ofNat c.val.toNat).toNat = c.val.toNat := by
    rw [UInt8.toNat_ofNat']
    omega
  rw [encode, List.mem_flatMap]
  constructor
  · rintro ⟨other, hother, hmem⟩
    have hval := val_eq_of_mem_utf8EncodeChar hmem (by omega)
    rw [hbyte] at hval
    rwa [← Char.ext (UInt32.toNat_inj.1 hval)]
  · intro h
    refine ⟨c, h, ?_⟩
    rw [utf8EncodeChar_of_lt hc]
    exact List.mem_singleton_self _

/-- Whatever bytes complete it, an open character comes out above 127. -/
structure Open.Wide (p : Open) : Prop where
  low : 0x7F < p.low
  lowest : (if p.later = 0 then 0x7F else 1) < p.code * 64 + (p.low - 0x80)

/-- What a byte is where a character starts: a character, no character, or the start of one. -/
theorem start_cases (done : List Char) (n : Nat) :
    (n ≤ 0x7F ∧ start done n = ⟨Char.ofNat n :: done, none⟩) ∨
      (0x7F < n ∧ start done n = ⟨replacement :: done, none⟩) ∨
      ∃ p : Open, 0x7F < n ∧ p.Wide ∧ start done n = ⟨done, some p⟩ := by
  by_cases hone : n ≤ 0x7F
  · exact .inl ⟨hone, start_one hone⟩
  refine .inr ?_
  have hhigh : 0x7F < n := by omega
  rw [start, if_neg hone]
  split
  · exact .inr ⟨_, hhigh, ⟨by simp, by simp; omega⟩, rfl⟩
  split
  · exact .inr ⟨_, hhigh, ⟨by simp, by simp⟩, rfl⟩
  split
  · exact .inr ⟨_, hhigh, ⟨by simp, by simp⟩, rfl⟩
  split
  · exact .inr ⟨_, hhigh, ⟨by simp, by simp; omega⟩, rfl⟩
  split
  · exact .inr ⟨_, hhigh, ⟨by simp, by simp⟩, rfl⟩
  split
  · exact .inr ⟨_, hhigh, ⟨by simp, by simp; omega⟩, rfl⟩
  split
  · exact .inr ⟨_, hhigh, ⟨by simp, by simp⟩, rfl⟩
  · exact .inl ⟨hhigh, rfl⟩

theorem replacement_ne {c : Char} (hc : c.toNat < 128) : c ≠ replacement := by
  rintro rfl
  exact absurd hc (by decide)

/-- What comes out of what is read so far is no character below 128. -/
def Reading.Wide (reading : Reading) : Prop :=
  ∀ p, reading.current = some p → p.Wide

variable {c : Char} {byte : UInt8}

theorem wide_none (done : List Char) : Reading.Wide ⟨done, none⟩ := by
  intro p hp
  cases hp

theorem wide_start (done : List Char) (n : Nat) : (start done n).Wide := by
  intro p hp
  rcases start_cases done n with ⟨-, h⟩ | ⟨-, h⟩ | ⟨q, -, hq, h⟩
  · exact wide_none _ p (h ▸ hp)
  · exact wide_none _ p (h ▸ hp)
  · rw [h] at hp
    cases hp
    exact hq

theorem mem_done_start_iff (hpos : 0 < c.toNat) (hc : c.toNat < 128) (done : List Char) (n : Nat) :
    c ∈ (start done n).done ↔ c ∈ done ∨ n = c.toNat := by
  rcases start_cases done n with ⟨-, h⟩ | ⟨hhigh, h⟩ | ⟨p, hhigh, -, h⟩ <;> rw [h]
  · simp [eq_ofNat_iff hpos, or_comm, eq_comm]
  · have hne : n ≠ c.toNat := by omega
    simp [replacement_ne hc, hne]
  · have hne : n ≠ c.toNat := by omega
    simp [hne]

/-- A byte below 128 never continues a character, and none is completed to one below 128. -/
theorem mem_done_step_iff (hpos : 0 < c.toNat) (hc : c.toNat < 128) {reading : Reading}
    (hwide : reading.Wide) :
    c ∈ (step reading byte).done ↔ c ∈ reading.done ∨ byte.toNat = c.toNat := by
  obtain ⟨done, current⟩ := reading
  cases current with
  | none => exact mem_done_start_iff hpos hc done byte.toNat
  | some p =>
    obtain ⟨hlow, hlowest⟩ := hwide p rfl
    simp only [step]
    split
    · rename_i hcontinues
      have hne : byte.toNat ≠ c.toNat := by omega
      split
      · rename_i hlast
        rw [hlast, if_pos rfl] at hlowest
        have hother : c.toNat ≠ p.code * 64 + (byte.toNat - 0x80) := by omega
        simp [eq_ofNat_iff hpos, hother, hne]
      · simp [hne]
    · rw [mem_done_start_iff hpos hc]
      simp [replacement_ne hc]

theorem wide_step {reading : Reading} (hwide : reading.Wide) : (step reading byte).Wide := by
  obtain ⟨done, current⟩ := reading
  cases current with
  | none => exact wide_start done byte.toNat
  | some p =>
    obtain ⟨hlow, hlowest⟩ := hwide p rfl
    simp only [step]
    split
    · rename_i hcontinues
      split
      · exact wide_none _
      · rename_i later hlater
        rw [hlater, if_neg (Nat.succ_ne_zero later)] at hlowest
        intro q hq
        rw [← Option.some.inj hq]
        refine ⟨Nat.lt_succ_self 0x7F, ?_⟩
        simp only
        split <;> omega
    · exact wide_start (replacement :: done) byte.toNat

theorem mem_close_iff (hc : c.toNat < 128) (reading : Reading) :
    c ∈ reading.close ↔ c ∈ reading.done := by
  unfold Reading.close
  split
  · exact List.mem_reverse
  · simp [replacement_ne hc]

theorem mem_close_foldl_step_iff (hpos : 0 < c.toNat) (hc : c.toNat < 128) (s : Bytes)
    {reading : Reading} (hwide : reading.Wide) :
    c ∈ (s.foldl step reading).close ↔ c ∈ reading.done ∨ UInt8.ofNat c.toNat ∈ s := by
  induction s generalizing reading with
  | nil => simp [mem_close_iff hc]
  | cons byte rest ih =>
    have hbyte : byte.toNat = c.toNat ↔ UInt8.ofNat c.toNat = byte := by
      rw [← UInt8.toNat_inj, UInt8.toNat_ofNat', eq_comm]
      omega
    rw [List.foldl_cons, ih (wide_step hwide), mem_done_step_iff hpos hc hwide, hbyte, or_assoc,
      List.mem_cons]

/-- Reading neither makes nor loses a character below 128, but for zero. -/
theorem mem_decode_iff (s : Bytes) (c : Char) (hpos : 0 < c.toNat) (hc : c.toNat < 128) :
    c ∈ (decode s).toList ↔ UInt8.ofNat c.toNat ∈ s := by
  rw [decode, String.toList_ofList, mem_close_foldl_step_iff hpos hc s (wide_none [])]
  simp

def Reading.size (reading : Reading) : Nat :=
  (reading.done.flatMap String.utf8EncodeChar).length + if reading.current.isSome then 3 else 0

theorem length_utf8EncodeChar_le (c : Char) : (String.utf8EncodeChar c).length ≤ 4 := by
  rw [String.length_utf8EncodeChar]
  exact c.utf8Size_le_four

theorem length_utf8EncodeChar_replacement : (String.utf8EncodeChar replacement).length = 3 := by
  decide

theorem length_utf8EncodeChar_ofNat {n : Nat} (h : n ≤ 0x7F) :
    (String.utf8EncodeChar (Char.ofNat n)).length = 1 := by
  have hvalid : n.isValidChar := .inl (by omega)
  have hval : (Char.ofNat n).val.toNat = n := by
    rw [Char.ofNat, dif_pos hvalid]
    rfl
  rw [utf8EncodeChar_of_lt (by omega), List.length_singleton]

theorem size_start_le (done : List Char) (n : Nat) :
    (start done n).size ≤ (done.flatMap String.utf8EncodeChar).length + 3 := by
  rcases start_cases done n with ⟨hlow, h⟩ | ⟨-, h⟩ | ⟨p, -, -, h⟩ <;>
    rw [h, Reading.size] <;>
    simp only [List.flatMap_cons, List.length_append, Option.isSome_none, Option.isSome_some,
      Bool.false_eq_true, if_false, if_true]
  · rw [length_utf8EncodeChar_ofNat hlow]
    omega
  · rw [length_utf8EncodeChar_replacement]
    omega
  · exact Nat.le_refl _

/-- A byte lets the text grow by three bytes at most: a character of four takes two of them or
more. -/
theorem size_step_le (reading : Reading) (byte : UInt8) :
    (step reading byte).size ≤ reading.size + 3 := by
  obtain ⟨done, current⟩ := reading
  cases current with
  | none => exact size_start_le done byte.toNat
  | some p =>
    simp only [step, Reading.size, Option.isSome_some, if_true]
    split
    · split
      · have hchar := length_utf8EncodeChar_le (Char.ofNat (p.code * 64 + (byte.toNat - 0x80)))
        simp only [List.flatMap_cons, List.length_append, Option.isSome_none, Bool.false_eq_true,
          if_false]
        omega
      · simp only [Option.isSome_some, if_true]
        omega
    · have hstart := size_start_le (replacement :: done) byte.toNat
      rw [List.flatMap_cons, List.length_append, length_utf8EncodeChar_replacement] at hstart
      rw [Reading.size] at hstart
      omega

theorem size_foldl_step_le (reading : Reading) (s : Bytes) :
    (s.foldl step reading).size ≤ reading.size + 3 * s.length := by
  induction s generalizing reading with
  | nil => exact Nat.le_refl _
  | cons byte rest ih =>
    have hstep := size_step_le reading byte
    have hrest := ih (step reading byte)
    rw [List.foldl_cons, List.length_cons]
    omega

theorem length_flatMap_close (reading : Reading) :
    (reading.close.flatMap String.utf8EncodeChar).length = reading.size := by
  have hreverse (cs : List Char) : (cs.reverse.flatMap String.utf8EncodeChar).length =
      (cs.flatMap String.utf8EncodeChar).length :=
    ((List.reverse_perm cs).flatMap_right String.utf8EncodeChar).length_eq
  obtain ⟨done, current⟩ := reading
  cases current with
  | none => exact hreverse done
  | some p =>
    have hreplaced := hreverse (replacement :: done)
    rw [List.flatMap_cons, List.length_append, length_utf8EncodeChar_replacement] at hreplaced
    simp only [Reading.close, Reading.size, Option.isSome_some, if_true, hreplaced]
    omega

/-- No byte is read as more than three bytes of text, not even one that is replaced. -/
theorem length_encode_decode_le (s : Bytes) : (encode (decode s)).length ≤ 3 * s.length := by
  have hsize := size_foldl_step_le ⟨[], none⟩ s
  rw [← length_flatMap_close] at hsize
  rw [encode, decode, String.toList_ofList]
  exact Nat.le_trans hsize (by simp [Reading.size])

end Utf8

end RespStore.Text
