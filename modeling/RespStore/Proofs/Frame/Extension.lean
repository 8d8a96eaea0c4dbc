import RespStore.Proofs.Frame.Grammar

set_option autoImplicit false

namespace RespStore

def followedBy {α : Type} (t : Bytes) :
    Except ReadError (α × Bytes) → Except ReadError (α × Bytes)
  | .error fault => .error fault
  | .ok (value, rest) => .ok (value, rest ++ t)

theorem ne_incomplete_of_ok {α : Type} {outcome : Except ReadError α} {result : α}
    (h : outcome = .ok result) : outcome ≠ .error .incomplete := by
  intro hfault
  rw [h] at hfault
  cases hfault

namespace Token

theorem readPayload_append {length : Nat} {s : Bytes}
    (h : readPayload length s ≠ .error .incomplete) (t : Bytes) :
    readPayload length (s ++ t) = followedBy t (readPayload length s) := by
  have hlong := mt readPayload_eq_incomplete_iff.2 h
  obtain ⟨payload, a, b, rest, rfl, rfl⟩ := exists_of_length_le (Nat.not_lt.1 hlong)
  rw [readPayload_split, List.append_assoc, List.append_assoc, readPayload_split]
  split <;> rfl

theorem readBody_append {limits : Limits} {lead : Lead} {line s : Bytes}
    (h : readBody limits lead line s ≠ .error .incomplete) (t : Bytes) :
    readBody limits lead line (s ++ t) = followedBy t (readBody limits lead line s) := by
  cases lead with
  | simple | error => rfl
  | integer =>
    simp only [readBody, readInteger]
    split <;> rfl
  | bulk =>
    simp only [readBody, readBulk] at h ⊢
    split
    · rfl
    · rename_i length hline
      simp only [hline] at h
      split
      · rfl
      · rename_i hnull
        rw [if_neg hnull] at h
        split
        · rfl
        · rename_i hneg
          rw [if_neg hneg] at h
          split
          · rfl
          · rename_i hlimit
            rw [if_neg hlimit] at h
            exact readPayload_append h t
  | array =>
    simp only [readBody, readArrayHead]
    split
    · rfl
    · split
      · rfl
      · split <;> rfl

theorem read_append {limits : Limits} {s : Bytes}
    (h : Token.read limits s ≠ .error .incomplete) (t : Bytes) :
    Token.read limits (s ++ t) = followedBy t (Token.read limits s) := by
  rcases read_cases limits s with
    hs | ⟨b, rest, rfl, hlead, hs⟩ | ⟨lead, line, rest, rfl, hline, hs⟩
  · exact absurd hs h
  · rw [hs, List.cons_append, Token.read, hlead]
    rfl
  · rw [hs] at h ⊢
    rw [List.append_assoc, read_headed limits lead hline, readBody_append h]

end Token

namespace Frame

variable {limits : Limits} {depth : Nat}

theorem readWithin_append_right {levels : List Level} {s : Bytes}
    (h : readWithin limits depth levels s ≠ .error .incomplete) (t : Bytes) :
    readWithin limits depth levels (s ++ t) = followedBy t (readWithin limits depth levels s) := by
  fun_induction readWithin limits depth levels s with
  | case1 levels s hdeep =>
    rw [readWithin_eq, if_pos hdeep]
    rfl
  | case2 levels s hdeep fault htoken =>
    have hne : Token.read limits s ≠ .error .incomplete := by
      rw [htoken]
      intro hfault
      cases hfault
      exact h rfl
    rw [readWithin_eq, if_neg hdeep, Token.read_append hne, htoken]
    rfl
  | case3 levels s hdeep token rest htoken frame hwhole =>
    have hread := Token.read_append (ne_incomplete_of_ok htoken) t
    rw [readWithin_eq, if_neg hdeep, hread, htoken]
    simp only [followedBy, hwhole]
  | case4 levels s hdeep token rest htoken levels' hwithin ih =>
    have hread := Token.read_append (ne_incomplete_of_ok htoken) t
    rw [readWithin_eq, if_neg hdeep, hread, htoken]
    simp only [followedBy, hwithin]
    exact ih h

theorem read_append {s : Bytes} (h : read limits depth s ≠ .error .incomplete) (t : Bytes) :
    read limits depth (s ++ t) = followedBy t (read limits depth s) :=
  readWithin_append_right h t

theorem read_append_of_ok {s rest : Bytes} {frame : Frame}
    (h : read limits depth s = .ok (frame, rest)) (t : Bytes) :
    read limits depth (s ++ t) = .ok (frame, rest ++ t) := by
  rw [read_append (ne_incomplete_of_ok h), h]
  rfl

theorem read_append_of_malformed {s : Bytes} {cause : Malformed}
    (h : read limits depth s = .error (.malformed cause)) (t : Bytes) :
    read limits depth (s ++ t) = .error (.malformed cause) := by
  have hne : read limits depth s ≠ .error .incomplete := by
    intro hs
    rw [h] at hs
    cases hs
  rw [read_append hne, h]
  rfl

theorem lt_length_of_read_append {s t rest : Bytes} {frame : Frame}
    (hs : read limits depth s = .error .incomplete)
    (h : read limits depth (s ++ t) = .ok (frame, rest)) : rest.length < t.length := by
  obtain ⟨front, hfront, hderives⟩ := derives_of_read h
  rcases List.append_eq_append_iff.1 hfront with ⟨more, rfl, rfl⟩ | ⟨later, rfl, rfl⟩
  · cases more with
    -- With no more bytes the front would have been a whole frame already.
    | nil =>
      rw [List.append_nil] at hderives
      have hread := read_of_derives hderives []
      rw [List.append_nil, hs] at hread
      cases hread
    | cons b more =>
      simp only [List.length_append, List.length_cons]
      omega
  · rw [read_of_derives hderives later] at hs
    cases hs

end Frame

end RespStore
