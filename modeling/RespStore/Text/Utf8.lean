import RespStore.Bytes

/-!
# UTF-8

A text is written in UTF-8. Bytes from outside need not be UTF-8: reading keeps every well-formed
character and puts one replacement character for each longest start of a character that is cut
short or continued wrongly, and for each byte that starts no character. `decode_encode` says that a
written text reads back.
-/

set_option autoImplicit false

namespace RespStore.Text.Utf8

open RespStore (Bytes)

def encode (text : String) : Bytes :=
  text.toList.flatMap String.utf8EncodeChar

def replacement : Char := '\uFFFD'

/-- A character whose first bytes are read. The next byte has to lie between `low` and `high`,
and `later` more follow it. -/
structure Open where
  code : Nat
  later : Nat
  low : Nat
  high : Nat

/-- The characters read so far, latest first, and the one that is open. -/
structure Reading where
  done : List Char
  current : Option Open

/-- Reads a byte that stands where a character starts. The bounds on the second byte leave out
overlong forms, surrogates and code points past the last one. -/
def start (done : List Char) (b : Nat) : Reading :=
  if b ≤ 0x7F then ⟨Char.ofNat b :: done, none⟩
  else if 0xC2 ≤ b ∧ b ≤ 0xDF then ⟨done, some ⟨b - 0xC0, 0, 0x80, 0xBF⟩⟩
  else if b = 0xE0 then ⟨done, some ⟨0, 1, 0xA0, 0xBF⟩⟩
  else if b = 0xED then ⟨done, some ⟨0xD, 1, 0x80, 0x9F⟩⟩
  else if 0xE1 ≤ b ∧ b ≤ 0xEF then ⟨done, some ⟨b - 0xE0, 1, 0x80, 0xBF⟩⟩
  else if b = 0xF0 then ⟨done, some ⟨0, 2, 0x90, 0xBF⟩⟩
  else if 0xF1 ≤ b ∧ b ≤ 0xF3 then ⟨done, some ⟨b - 0xF0, 2, 0x80, 0xBF⟩⟩
  else if b = 0xF4 then ⟨done, some ⟨4, 2, 0x80, 0x8F⟩⟩
  else ⟨replacement :: done, none⟩

/-- Reads one byte: it continues the open character, or that one is replaced and the byte starts
a new one. -/
def step (reading : Reading) (byte : UInt8) : Reading :=
  match reading.current with
  | none => start reading.done byte.toNat
  | some p =>
    if p.low ≤ byte.toNat ∧ byte.toNat ≤ p.high then
      match p.later with
      | 0 => ⟨Char.ofNat (p.code * 64 + (byte.toNat - 0x80)) :: reading.done, none⟩
      | later + 1 =>
        ⟨reading.done, some ⟨p.code * 64 + (byte.toNat - 0x80), later, 0x80, 0xBF⟩⟩
    else start (replacement :: reading.done) byte.toNat

def Reading.close (reading : Reading) : List Char :=
  match reading.current with
  | none => reading.done.reverse
  | some _ => (replacement :: reading.done).reverse

def decode (s : Bytes) : String :=
  String.ofList (s.foldl step ⟨[], none⟩).close

theorem step_next {done : List Char} {code later low high n : Nat} (hlow : low ≤ n)
    (hhigh : n ≤ high) (hn : n < 256) :
    step ⟨done, some ⟨code, later + 1, low, high⟩⟩ (UInt8.ofNat n) =
      ⟨done, some ⟨code * 64 + (n - 0x80), later, 0x80, 0xBF⟩⟩ := by
  have hbyte : (UInt8.ofNat n).toNat = n := by simp; omega
  simp [step, hbyte, hlow, hhigh]

theorem step_last {done : List Char} {code low high n : Nat} (hlow : low ≤ n)
    (hhigh : n ≤ high) (hn : n < 256) :
    step ⟨done, some ⟨code, 0, low, high⟩⟩ (UInt8.ofNat n) =
      ⟨Char.ofNat (code * 64 + (n - 0x80)) :: done, none⟩ := by
  have hbyte : (UInt8.ofNat n).toNat = n := by simp; omega
  simp [step, hbyte, hlow, hhigh]

theorem step_start {done : List Char} {n : Nat} (hn : n < 256) :
    step ⟨done, none⟩ (UInt8.ofNat n) = start done n := by
  have hbyte : (UInt8.ofNat n).toNat = n := by simp; omega
  simp [step, hbyte]

theorem start_one {done : List Char} {n : Nat} (h : n ≤ 0x7F) :
    start done n = ⟨Char.ofNat n :: done, none⟩ := by
  simp [start, h]

theorem start_two {done : List Char} {n : Nat} (hlow : 0xC2 ≤ n) (hhigh : n ≤ 0xDF) :
    start done n = ⟨done, some ⟨n - 0xC0, 0, 0x80, 0xBF⟩⟩ := by
  rw [start, if_neg (by omega), if_pos ⟨hlow, hhigh⟩]

theorem start_three {done : List Char} {n : Nat} (hlow : 0xE0 ≤ n) (hhigh : n ≤ 0xEF) :
    start done n = ⟨done, some ⟨n - 0xE0, 1, if n = 0xE0 then 0xA0 else 0x80,
      if n = 0xED then 0x9F else 0xBF⟩⟩ := by
  rw [start, if_neg (by omega), if_neg (by omega)]
  by_cases hfirst : n = 0xE0
  · simp [hfirst]
  · by_cases hsurrogate : n = 0xED
    · simp [hsurrogate]
    · rw [if_neg hfirst, if_neg hsurrogate, if_pos (by omega), if_neg hfirst, if_neg hsurrogate]

theorem start_four {done : List Char} {n : Nat} (hlow : 0xF0 ≤ n) (hhigh : n ≤ 0xF4) :
    start done n = ⟨done, some ⟨n - 0xF0, 2, if n = 0xF0 then 0x90 else 0x80,
      if n = 0xF4 then 0x8F else 0xBF⟩⟩ := by
  rw [start, if_neg (by omega), if_neg (by omega), if_neg (by omega), if_neg (by omega),
    if_neg (by omega)]
  by_cases hfirst : n = 0xF0
  · simp [hfirst]
  · by_cases hlast : n = 0xF4
    · simp [hlast]
    · rw [if_neg hfirst, if_pos (by omega), if_neg hfirst, if_neg hlast]

theorem foldl_step_utf8EncodeChar (done : List Char) (c : Char) :
    (String.utf8EncodeChar c).foldl step ⟨done, none⟩ = ⟨c :: done, none⟩ := by
  have hvalid : c.val.toNat < 0xD800 ∨ 0xDFFF < c.val.toNat ∧ c.val.toNat < 0x110000 := c.valid
  have hback : Char.ofNat c.val.toNat = c := Char.ofNat_toNat c
  unfold String.utf8EncodeChar
  generalize c.val.toNat = v at hvalid hback
  simp only
  by_cases hone : v ≤ 127
  · rw [if_pos hone]
    simp only [List.foldl_cons, List.foldl_nil]
    rw [step_start (by omega), start_one hone, hback]
  rw [if_neg hone]
  by_cases htwo : v ≤ 2047
  · have hcode : (v / 64 % 32 + 192 - 0xC0) * 64 + (v % 64 + 128 - 0x80) = v := by omega
    rw [if_pos htwo]
    simp only [List.foldl_cons, List.foldl_nil]
    rw [step_start (by omega), start_two (by omega) (by omega),
      step_last (by omega) (by omega) (by omega), hcode, hback]
  rw [if_neg htwo]
  by_cases hthree : v ≤ 65535
  · have hcode : ((v / 4096 % 16 + 224 - 0xE0) * 64 + (v / 64 % 64 + 128 - 0x80)) * 64 +
        (v % 64 + 128 - 0x80) = v := by omega
    rw [if_pos hthree]
    simp only [List.foldl_cons, List.foldl_nil]
    rw [step_start (by omega), start_three (by omega) (by omega),
      step_next (by split <;> omega) (by split <;> omega) (by omega),
      step_last (by omega) (by omega) (by omega), hcode, hback]
  have hcode : (((v / 262144 % 8 + 240 - 0xF0) * 64 + (v / 4096 % 64 + 128 - 0x80)) * 64 +
      (v / 64 % 64 + 128 - 0x80)) * 64 + (v % 64 + 128 - 0x80) = v := by omega
  rw [if_neg hthree]
  simp only [List.foldl_cons, List.foldl_nil]
  rw [step_start (by omega), start_four (by omega) (by omega),
    step_next (by split <;> omega) (by split <;> omega) (by omega),
    step_next (by omega) (by omega) (by omega), step_last (by omega) (by omega) (by omega), hcode,
    hback]

theorem foldl_step_encode (done cs : List Char) :
    (cs.flatMap String.utf8EncodeChar).foldl step ⟨done, none⟩ = ⟨cs.reverse ++ done, none⟩ := by
  induction cs generalizing done with
  | nil => rfl
  | cons c cs ih =>
    rw [List.flatMap_cons, List.foldl_append, foldl_step_utf8EncodeChar, ih]
    simp

theorem decode_encode (text : String) : decode (encode text) = text := by
  simp [decode, encode, foldl_step_encode, Reading.close]

end RespStore.Text.Utf8
