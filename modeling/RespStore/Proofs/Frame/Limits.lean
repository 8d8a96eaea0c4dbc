import RespStore.Proofs.Chunking
import RespStore.Proofs.Frame.Renewal

set_option autoImplicit false

namespace RespStore

/-- No limit is wider. -/
instance : LE Limits where
  le limits wider :=
    limits.maxBulk ≤ wider.maxBulk ∧ limits.maxArray ≤ wider.maxArray ∧
      limits.maxDepth ≤ wider.maxDepth

def Malformed.isLimit : Malformed → Bool
  | .bulkTooLong _ _ => true
  | .arrayTooLong _ _ => true
  | .tooDeep _ => true
  | .unknownLead _ => false
  | .invalidInteger _ => false
  | .invalidBulkLength _ => false
  | .negativeBulkLength _ => false
  | .unterminatedBulk => false
  | .invalidArrayLength _ => false
  | .negativeArrayLength _ => false

/-- No limit decided the outcome of a reading. -/
def Unlimited {α : Type} (outcome : Except ReadError α) : Prop :=
  ∀ cause, outcome = .error (.malformed cause) → cause.isLimit = false

variable {limits wider : Limits}

theorem unlimited_ok {α : Type} (result : α) : Unlimited (.ok result) := nofun

theorem not_unlimited {α : Type} {cause : Malformed} (h : cause.isLimit = true) :
    ¬ Unlimited (α := α) (.error (.malformed cause)) := by
  intro hfree
  rw [hfree cause rfl] at h
  cases h

theorem Unlimited.error {α β : Type} {fault : ReadError}
    (h : Unlimited (α := α) (.error fault)) : Unlimited (α := β) (.error fault) := by
  intro cause hcause
  cases hcause
  exact h cause rfl

namespace Token

theorem readBulk_wider (h : limits ≤ wider) {line s : Bytes}
    (hfree : Unlimited (readBulk limits line s)) :
    readBulk wider line s = readBulk limits line s := by
  have hbulk := UInt64.le_iff_toNat_le.1 h.1
  rw [readBulk] at hfree
  rw [readBulk, readBulk]
  cases hnumber : Decimal.readInt64? line with
  | none => rfl
  | some length =>
    simp only [hnumber] at hfree ⊢
    by_cases hnull : length = -1
    · rw [if_pos hnull, if_pos hnull]
    · by_cases hneg : length < 0
      · rw [if_neg hnull, if_pos hneg, if_neg hnull, if_pos hneg]
      · rw [if_neg hnull, if_neg hneg] at hfree
        by_cases hlimit : limits.maxBulk.toNat < length.toNatClampNeg
        · rw [if_pos hlimit] at hfree
          exact absurd hfree (not_unlimited rfl)
        · rw [if_neg hnull, if_neg hneg, if_neg (by omega), if_neg hnull, if_neg hneg,
            if_neg hlimit]

theorem readArrayHead_wider (h : limits ≤ wider) {line s : Bytes}
    (hfree : Unlimited (readArrayHead limits line s)) :
    readArrayHead wider line s = readArrayHead limits line s := by
  have harray := UInt64.le_iff_toNat_le.1 h.2.1
  rw [readArrayHead] at hfree
  rw [readArrayHead, readArrayHead]
  cases hnumber : Decimal.readInt64? line with
  | none => rfl
  | some length =>
    simp only [hnumber] at hfree ⊢
    by_cases hneg : length < 0
    · rw [if_pos hneg, if_pos hneg]
    · rw [if_neg hneg] at hfree
      by_cases hlimit : limits.maxArray.toNat < length.toNatClampNeg
      · rw [if_pos hlimit] at hfree
        exact absurd hfree (not_unlimited rfl)
      · rw [if_neg hneg, if_neg (by omega), if_neg hneg, if_neg hlimit]

theorem readBody_wider (h : limits ≤ wider) {lead : Lead} {line s : Bytes}
    (hfree : Unlimited (readBody limits lead line s)) :
    readBody wider lead line s = readBody limits lead line s := by
  cases lead with
  | simple | error | integer => rfl
  | bulk => exact readBulk_wider h hfree
  | array => exact readArrayHead_wider h hfree

theorem read_wider (h : limits ≤ wider) {s : Bytes} (hfree : Unlimited (Token.read limits s)) :
    Token.read wider s = Token.read limits s := by
  cases s with
  | nil => rfl
  | cons b rest =>
    rw [Token.read] at hfree
    rw [Token.read, Token.read]
    cases hlead : Lead.ofByte? b with
    | none => rfl
    | some lead =>
      cases hsplit : Bytes.splitLine rest with
      | none => rfl
      | some parts =>
        simp only [hlead, hsplit] at hfree ⊢
        exact readBody_wider h hfree

end Token

namespace Frame

theorem readWithin_wider (h : limits ≤ wider) {depth : Nat} {levels : List Level} {s : Bytes}
    (hfree : Unlimited (readWithin limits depth levels s)) :
    readWithin wider depth levels s = readWithin limits depth levels s := by
  have hdepth := UInt64.le_iff_toNat_le.1 h.2.2
  fun_induction readWithin limits depth levels s with
  | case1 => exact absurd hfree (not_unlimited rfl)
  | case2 levels s hdeep fault htoken =>
    have hread := Token.read_wider h (by rw [htoken]; exact hfree.error)
    rw [readWithin_eq, if_neg (by omega), hread, htoken]
  | case3 levels s hdeep token rest htoken frame hwhole =>
    have hread := Token.read_wider h (by rw [htoken]; exact unlimited_ok _)
    rw [readWithin_eq, if_neg (by omega), hread, htoken]
    simp only [hwhole]
  | case4 levels s hdeep token rest htoken levels' hwithin ih =>
    have hread := Token.read_wider h (by rw [htoken]; exact unlimited_ok _)
    rw [readWithin_eq, if_neg (by omega), hread, htoken]
    simp only [hwithin]
    exact ih hfree

theorem read_wider (h : limits ≤ wider) {depth : Nat} {s : Bytes}
    (hfree : Unlimited (read limits depth s)) : read wider depth s = read limits depth s :=
  readWithin_wider h hfree

theorem readAll_wider (h : limits ≤ wider) {s : Bytes}
    (hfree : ∀ cause, readAll limits s = .error cause → cause.isLimit = false) :
    readAll wider s = readAll limits s := by
  induction s using stream_induction limits with
  | step s ih =>
    rw [readAll_eq] at hfree
    have hsame : read wider 0 s = read limits 0 s := by
      apply read_wider h
      intro cause hcause
      rw [hcause] at hfree
      exact hfree cause rfl
    rw [readAll_eq, readAll_eq s, hsame]
    cases hread : read limits 0 s with
    | error fault => cases fault <;> rfl
    | ok result =>
      obtain ⟨frame, rest⟩ := result
      rw [hread] at hfree
      simp only at hfree ⊢
      rw [ih frame rest hread]
      intro cause hcause
      rw [hcause] at hfree
      exact hfree cause rfl

theorem Derives.narrow {depth : Nat} {s : Bytes} {frame : Frame} (h : Derives wider depth s frame)
    (hfree : ∀ node ∈ frame.nodes depth, limits.fault? node = none) :
    Derives limits depth s frame := by
  induction h with
  | simple hdepth hline htext =>
    exact .simple (Limits.fault?_eq_none_iff.1 (hfree _ List.mem_cons_self)).1 hline htext
  | error hdepth hline htext =>
    exact .error (Limits.fault?_eq_none_iff.1 (hfree _ List.mem_cons_self)).1 hline htext
  | integer hdepth hline =>
    exact .integer (Limits.fault?_eq_none_iff.1 (hfree _ List.mem_cons_self)).1 hline
  | null hdepth hline =>
    exact .null (Limits.fault?_eq_none_iff.1 (hfree _ List.mem_cons_self)).1 hline
  | bulk hdepth hline hlength hlimit =>
    obtain ⟨hdepth, hbulk, -⟩ := Limits.fault?_eq_none_iff.1 (hfree _ List.mem_cons_self)
    exact .bulk hdepth hline hlength (hbulk _ rfl)
  | @array depth line items n hdepth hline hcount hlimit hitems ih =>
    obtain ⟨hdepth, -, harray⟩ := Limits.fault?_eq_none_iff.1 (hfree _ List.mem_cons_self)
    have hlength := harray _ rfl
    rw [List.length_map] at hlength
    refine .array hdepth hline hcount hlength fun item hitem => ih item hitem ?_
    intro node hnode
    apply hfree
    exact List.mem_cons_of_mem _ (mem_nodesOfAll.2 ⟨_, List.mem_map_of_mem hitem, hnode⟩)

/-- Of the frames that wider limits let pass, those are read that have no node with a fault. -/
theorem readAt_eq_ok_iff_of_wider {depth : Nat} {data : Bytes} {start stop : Nat} {frame : Frame}
    (h : readAt wider depth data start = .ok (frame, stop)) :
    readAt limits depth data start = .ok (frame, stop) ↔
      ∀ node ∈ frame.nodes depth, limits.fault? node = none := by
  obtain ⟨hstart, hstop, hderives⟩ := derives_of_readAt h
  constructor
  · intro hread
    obtain ⟨-, -, hsound⟩ := derives_of_readAt hread
    exact fun node hnode => (hsound.nodes_sound node hnode).2
  · intro hfree
    rw [readAt_eq_ok_iff, drop_eq_append (Nat.le_of_lt hstart) hstop]
    exact ⟨hstart, hstop, read_of_derives (hderives.narrow hfree) _⟩

theorem readAt_wider (h : limits ≤ wider) {depth : Nat} {data : Bytes} {start : Nat}
    (hfree : Unlimited (readAt limits depth data start)) :
    readAt wider depth data start = readAt limits depth data start := by
  rw [readAt, readAt, read_wider h]
  intro cause hcause
  exact hfree cause (readAt_eq_error_iff.2 hcause)

end Frame

namespace Decoder

theorem feed_wider {decoder : Decoder} (h : decoder.limits ≤ wider) {chunk : Bytes}
    (hfree : ∀ cause, (decoder.feed chunk).1 = .error cause → cause.isLimit = false) :
    feed { decoder with limits := wider } chunk =
      ((decoder.feed chunk).1, { (decoder.feed chunk).2 with limits := wider }) := by
  have hsame : Frame.readAll wider (decoder.held ++ chunk) =
      Frame.readAll decoder.limits (decoder.held ++ chunk) := by
    apply Frame.readAll_wider h
    intro cause hcause
    apply hfree
    simp only [feed, hcause]
  simp only [feed, hsame]
  cases Frame.readAll decoder.limits (decoder.held ++ chunk) <;> rfl

theorem run_wider {decoder : Decoder} (h : decoder.limits ≤ wider) {chunks : List Bytes}
    (hfree : ∀ cause, .error cause ∈ (decoder.run chunks).1 → cause.isLimit = false) :
    run { decoder with limits := wider } chunks =
      ((decoder.run chunks).1, { (decoder.run chunks).2 with limits := wider }) := by
  induction chunks generalizing decoder with
  | nil => rfl
  | cons chunk rest ih =>
    rw [run_cons] at hfree ⊢
    have hfeed := feed_wider h fun cause hcause => hfree cause (List.mem_cons.2 (.inl hcause.symm))
    have hnext : (decoder.feed chunk).2.limits ≤ wider := by rwa [limits_feed]
    have hrest := ih hnext fun cause hcause => hfree cause (List.mem_cons_of_mem _ hcause)
    rw [hfeed, hrest, run_cons]

theorem run_take_wider (h : limits ≤ wider) {chunks : List Bytes} {k : Nat}
    (hfree : ∀ j < k, ∀ cause, ((fresh limits).run chunks).1[j]? = some (.error cause) →
      cause.isLimit = false) :
    (fresh wider).run (chunks.take k) =
      (((fresh limits).run (chunks.take k)).1,
        { ((fresh limits).run (chunks.take k)).2 with limits := wider }) := by
  refine run_wider (show (fresh limits).limits ≤ wider from h) fun cause hcause => ?_
  rw [← take_fst_run] at hcause
  obtain ⟨j, hj⟩ := List.mem_iff_getElem?.1 hcause
  rw [List.getElem?_take] at hj
  split at hj
  · rename_i hlt
    exact hfree j hlt cause hj
  · cases hj

/-- Wider limits change nothing that the limits do not reject. A frame, an unfinished one and every
other cause of failure come out the same, from any position and at any depth; so does every answer
before the first one that a limit decides, with the same bytes held. What the limits reject of the
frames that pass wider ones has a node that breaks one of them. -/
theorem reading_wider (limits wider : Limits) (h : limits ≤ wider) :
    (∀ depth data start, Unlimited (Frame.readAt limits depth data start) →
      Frame.readAt wider depth data start = Frame.readAt limits depth data start) ∧
    (∀ depth data start frame stop, Frame.readAt wider depth data start = .ok (frame, stop) →
      (Frame.readAt limits depth data start = .ok (frame, stop) ↔
        ∀ node ∈ frame.nodes depth, limits.fault? node = none)) ∧
    ∀ (chunks : List Bytes) (k : Nat),
      (∀ j < k, ∀ cause, ((fresh limits).run chunks).1[j]? = some (.error cause) →
        cause.isLimit = false) →
      ((fresh wider).run chunks).1.take k = ((fresh limits).run chunks).1.take k ∧
        ∀ j ≤ k, ((fresh wider).run (chunks.take j)).2.held =
          ((fresh limits).run (chunks.take j)).2.held := by
  refine ⟨?_, ?_, ?_⟩
  · exact fun depth data start hfree => Frame.readAt_wider h hfree
  · exact fun depth data start frame stop => Frame.readAt_eq_ok_iff_of_wider
  · intro chunks k hfree
    constructor
    · rw [take_fst_run, take_fst_run, run_take_wider h hfree]
    · intro j hj
      rw [run_take_wider h fun i hi => hfree i (Nat.lt_of_lt_of_le hi hj)]

def varied : List Bytes :=
  [[36, 50, 13, 10, 97], [98, 13, 10], [63, 10], [36, 51, 13, 10], [97, 98, 99, 13, 10]]

theorem reading_wider_bulk :
    Frame.readAt .standard 1 [36, 50, 13, 10, 97, 98, 13, 10] 0 = .ok (.bulk [97, 98], 8) ∧
      ((fresh .standard).run varied).1.take 3 =
        [.ok [], .ok [.bulk [97, 98]], .error (.unknownLead 63)] ∧
      ((fresh ⟨2, 1, 1⟩).run varied).1[3]? = some (.error (.bulkTooLong 3 2)) := by
  have hwider : (⟨2, 1, 1⟩ : Limits) ≤ .standard := ⟨by decide, by decide, by decide⟩
  obtain ⟨hread, -, hrun⟩ := reading_wider ⟨2, 1, 1⟩ .standard hwider
  have hframe : Frame.readAt ⟨2, 1, 1⟩ 1 [36, 50, 13, 10, 97, 98, 13, 10] 0 =
      .ok (.bulk [97, 98], 8) := by with_unfolding_all rfl
  have hanswers : ((fresh ⟨2, 1, 1⟩).run varied).1 =
      [.ok [], .ok [.bulk [97, 98]], .error (.unknownLead 63), .error (.bulkTooLong 3 2),
        .error (.unknownLead 97)] := by with_unfolding_all rfl
  have hfree : ∀ j < 3, ∀ cause, ((fresh ⟨2, 1, 1⟩).run varied).1[j]? = some (.error cause) →
      cause.isLimit = false := by
    intro j hj cause hcause
    rw [hanswers] at hcause
    match j with
    | 0 | 1 => cases hcause
    | 2 =>
      cases hcause
      rfl
    | j + 3 => omega
  have hfirst := (hrun varied 3 hfree).1
  rw [hanswers] at hfirst ⊢
  exact ⟨(hread 1 _ 0 (by rw [hframe]; exact unlimited_ok _)).trans hframe, hfirst, rfl⟩

end Decoder

end RespStore
