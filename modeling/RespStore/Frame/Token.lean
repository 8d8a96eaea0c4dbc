import RespStore.Decimal
import RespStore.Frame.Malformed
import RespStore.Text.Utf8

/-!
# Tokens

A frame is written as a run of tokens: a leaf is a whole frame, and the head of an array says how
many frames follow it. Reading one token looks at a lead byte and a line, and at the payload of a
bulk frame. `Token.length_of_read` is what makes reading end: a token takes at least a byte.
-/

set_option autoImplicit false

namespace RespStore

open Text

inductive Token where
  | leaf (frame : Frame)
  | array (count : Nat)

namespace Token

def readPayload (length : Nat) (s : Bytes) : Except ReadError (Token × Bytes) :=
  match s.drop length with
  | a :: b :: rest =>
    if a = Bytes.cr ∧ b = Bytes.lf then .ok (.leaf (.bulk (s.take length)), rest)
    else .error (.malformed .unterminatedBulk)
  | _ => .error .incomplete

/-- Reads a bulk frame from its length line on. The length minus one stands for no payload. -/
def readBulk (limits : Limits) (line s : Bytes) : Except ReadError (Token × Bytes) :=
  match Decimal.readInt64? line with
  | none => .error (.malformed (.invalidBulkLength (Utf8.decode line)))
  | some length =>
    if length = -1 then .ok (.leaf .null, s)
    else if length < 0 then .error (.malformed (.negativeBulkLength length))
    else if limits.maxBulk.toNat < length.toNatClampNeg then
      .error (.malformed (.bulkTooLong length limits.maxBulk))
    else readPayload length.toNatClampNeg s

def readArrayHead (limits : Limits) (line s : Bytes) : Except ReadError (Token × Bytes) :=
  match Decimal.readInt64? line with
  | none => .error (.malformed (.invalidArrayLength (Utf8.decode line)))
  | some length =>
    if length < 0 then .error (.malformed (.negativeArrayLength length))
    else if limits.maxArray.toNat < length.toNatClampNeg then
      .error (.malformed (.arrayTooLong length limits.maxArray))
    else .ok (.array length.toNatClampNeg, s)

def readInteger (line s : Bytes) : Except ReadError (Token × Bytes) :=
  match Decimal.readInt64? line with
  | none => .error (.malformed (.invalidInteger (Utf8.decode line)))
  | some value => .ok (.leaf (.integer value), s)

/-- Reads a token from the line after its lead byte on. -/
def readBody (limits : Limits) (lead : Lead) (line s : Bytes) : Except ReadError (Token × Bytes) :=
  match lead with
  | .simple => .ok (.leaf (.simple (Utf8.decode line)), s)
  | .error => .ok (.leaf (.error (Utf8.decode line)), s)
  | .integer => readInteger line s
  | .bulk => readBulk limits line s
  | .array => readArrayHead limits line s

def read (limits : Limits) (s : Bytes) : Except ReadError (Token × Bytes) :=
  match s with
  | [] => .error .incomplete
  | b :: rest =>
    match Lead.ofByte? b with
    | none => .error (.malformed (.unknownLead b))
    | some lead =>
      match Bytes.splitLine rest with
      | none => .error .incomplete
      | some (line, rest) => readBody limits lead line rest

theorem length_of_readPayload {length : Nat} {s rest : Bytes} {token : Token}
    (h : readPayload length s = .ok (token, rest)) : rest.length ≤ s.length := by
  unfold readPayload at h
  split at h
  · rename_i a b tail hdrop
    split at h
    · have hlen := congrArg List.length hdrop
      simp only [List.length_drop, List.length_cons] at hlen
      cases h
      omega
    · simp at h
  · simp at h

theorem length_of_readBody {limits : Limits} {lead : Lead} {line s rest : Bytes} {token : Token}
    (h : readBody limits lead line s = .ok (token, rest)) : rest.length ≤ s.length := by
  cases lead with
  | simple => cases h; exact Nat.le_refl _
  | error => cases h; exact Nat.le_refl _
  | integer =>
    simp only [readBody, readInteger] at h
    split at h
    · simp at h
    · cases h; exact Nat.le_refl _
  | bulk =>
    simp only [readBody, readBulk] at h
    split at h
    · simp at h
    · split at h
      · cases h; exact Nat.le_refl _
      · split at h
        · simp at h
        · split at h
          · simp at h
          · exact length_of_readPayload h
  | array =>
    simp only [readBody, readArrayHead] at h
    split at h
    · simp at h
    · split at h
      · simp at h
      · split at h
        · simp at h
        · cases h; exact Nat.le_refl _

/-- What follows a token is shorter than what begins with it, by the lead byte and a line end. -/
theorem length_of_read {limits : Limits} {s rest : Bytes} {token : Token}
    (h : read limits s = .ok (token, rest)) : rest.length + 3 ≤ s.length := by
  unfold read at h
  split at h
  · simp at h
  · split at h
    · simp at h
    · split at h
      · simp at h
      · rename_i line after hline
        have hbody := length_of_readBody h
        have hsplit := Bytes.length_of_splitLine hline
        simp only [List.length_cons]
        omega

end Token

end RespStore
