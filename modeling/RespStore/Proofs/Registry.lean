import RespStore.Registry

/-!
# Handles from registration to release

A handle is live, then it waits, and then it is released. Its socket is shut down once, when it
stops being live, whoever made its connection leave: the connection itself, or the server that makes
all of them leave. After a shutdown every handle that was ever registered is released.
-/

set_option autoImplicit false

namespace RespStore.Registry

/-! ## Histories -/

def Event.registered? : Event → Option Nat
  | .register id => some id
  | .leave _ => none
  | .leaveAll => none
  | .drain => none

def registered (events : List Event) : List Nat :=
  events.filterMap Event.registered?

def Event.ends (id : Nat) : Event → Bool
  | .register _ => false
  | .leave other => other = id
  | .leaveAll => true
  | .drain => false

def hasLeft (id : Nat) : List Event → Bool
  | [] => false
  | event :: rest =>
    if event = .register id then rest.any (Event.ends id) else hasLeft id rest

theorem registered_append (front back : List Event) :
    registered (front ++ back) = registered front ++ registered back :=
  List.filterMap_append

theorem mem_registered_cons {event : Event} {rest : List Event} {id : Nat} :
    id ∈ registered (event :: rest) ↔ event = .register id ∨ id ∈ registered rest := by
  rw [registered, List.filterMap_cons]
  cases event with
  | register other => simp [Event.registered?, registered, eq_comm]
  | leave | leaveAll | drain => simp [Event.registered?, registered]

theorem hasLeft_concat (id : Nat) (events : List Event) (event : Event) :
    hasLeft id (events ++ [event]) =
      (hasLeft id events || (decide (id ∈ registered events) && event.ends id)) := by
  induction events with
  | nil =>
    rw [List.nil_append, hasLeft, hasLeft]
    split <;> rfl
  | cons first rest ih =>
    rw [List.cons_append, hasLeft, hasLeft]
    by_cases h : first = .register id
    · simp [h, mem_registered_cons]
    · simp [h, mem_registered_cons, ih]

theorem hasLeft_of_notMem {events : List Event} {id : Nat} (h : id ∉ registered events) :
    hasLeft id events = false := by
  induction events with
  | nil => rfl
  | cons first rest ih =>
    rw [mem_registered_cons, not_or] at h
    rw [hasLeft, if_neg h.1, ih h.2]

/-! ## Leaving -/

def depart (registry : Registry) (p : Nat → Bool) : Registry :=
  ⟨registry.live.filter fun handle => !p handle.id,
    registry.pending ++ (registry.live.filter fun handle => p handle.id).map Handle.shut⟩

theorem live_depart (registry : Registry) (p : Nat → Bool) :
    (registry.depart p).live = registry.live.filter fun handle => !p handle.id :=
  rfl

theorem pending_depart (registry : Registry) (p : Nat → Bool) :
    (registry.depart p).pending =
      registry.pending ++ (registry.live.filter fun handle => p handle.id).map Handle.shut :=
  rfl

theorem leave_of_notMem {registry : Registry} {id : Nat}
    (h : id ∉ registry.live.map Handle.id) : registry.leave id = (false, registry) := by
  have hnone : (registry.live.find? fun handle => handle.id = id) = none := by
    rw [List.find?_eq_none]
    intro handle hmem hid
    exact h (List.mem_map.2 ⟨handle, hmem, by simpa using hid⟩)
  rw [leave, hnone]

theorem leave_of_mem {registry : Registry} {id : Nat} (h : id ∈ registry.live.map Handle.id)
    (hnodup : (registry.live.map Handle.id).Nodup) :
    registry.leave id = (true, registry.depart fun other => id = other) := by
  obtain ⟨handle, hmem, rfl⟩ := List.mem_map.1 h
  obtain ⟨before, after, hlive⟩ := List.append_of_mem hmem
  rw [hlive, List.map_append, List.map_cons, List.nodup_append, List.nodup_cons] at hnodup
  obtain ⟨-, ⟨hafter, -⟩, hbefore⟩ := hnodup
  -- No other live handle has the same number.
  have hothers : ∀ other ∈ before ++ after, other.id ≠ handle.id := by
    intro other hother
    rcases List.mem_append.1 hother with hother | hother
    · exact hbefore _ (List.mem_map_of_mem hother) _ List.mem_cons_self
    · exact fun hid => hafter (hid ▸ List.mem_map_of_mem hother)
  have hfind : (registry.live.find? fun other => other.id = handle.id) = some handle := by
    rw [hlive, List.find?_append, List.find?_eq_none.2]
    · simp
    · intro other hother
      simpa using hothers other (List.mem_append_left _ hother)
  have hpicked : (registry.live.filter fun other => handle.id = other.id) = [handle] := by
    rw [hlive, List.filter_append, List.filter_cons_of_pos (by simp), List.filter_eq_nil_iff.2,
      List.filter_eq_nil_iff.2, List.nil_append]
    · intro other hother
      simpa using (hothers other (List.mem_append_right _ hother)).symm
    · intro other hother
      simpa using (hothers other (List.mem_append_left _ hother)).symm
  rw [leave, hfind, depart, hpicked]
  simp [eq_comm]

theorem depart_of_forall {registry : Registry} {p : Nat → Bool}
    (h : ∀ id ∈ registry.live.map Handle.id, p id = false) : registry.depart p = registry := by
  have hid (handle : Handle) (hmem : handle ∈ registry.live) : p handle.id = false :=
    h handle.id (List.mem_map_of_mem hmem)
  rw [depart, List.filter_eq_self.2, List.filter_eq_nil_iff.2, List.map_nil, List.append_nil]
  · exact fun handle hmem => by simp [hid handle hmem]
  · exact fun handle hmem => by simp [hid handle hmem]

theorem snd_leave {registry : Registry} (hnodup : (registry.live.map Handle.id).Nodup) (id : Nat) :
    (registry.leave id).2 = registry.depart fun other => id = other := by
  by_cases h : id ∈ registry.live.map Handle.id
  · rw [leave_of_mem h hnodup]
  · rw [leave_of_notMem h, depart_of_forall]
    intro other hother
    exact decide_eq_false fun hid => h (hid ▸ hother)

theorem snd_leaveAll (registry : Registry) :
    registry.leaveAll.2 = registry.depart fun _ => true := by
  rw [leaveAll, depart, List.filter_eq_nil_iff.2, List.filter_eq_self.2] <;> simp

/-! ## What is known of every handle -/

/-- Which handles are live, and which have left, after events: each with how often it was shut
down. -/
structure Accounts (events : List Event) (released : List Handle) (registry : Registry) :
    Prop where
  live : registry.live =
    ((registered events).filter fun id => !hasLeft id events).map fun id => ⟨id, 0⟩
  gone : (registry.pending ++ released).Perm
    (((registered events).filter fun id => hasLeft id events).map fun id => ⟨id, 1⟩)

theorem map_id_map_mk (ids : List Nat) (shutdowns : Nat) :
    (ids.map fun id => (⟨id, shutdowns⟩ : Handle)).map Handle.id = ids := by
  rw [List.map_map]
  exact List.map_id ids

variable {events : List Event} {released : List Handle} {registry : Registry}

theorem Accounts.nodup_live (h : Accounts events released registry)
    (hfresh : (registered events).Nodup) : (registry.live.map Handle.id).Nodup := by
  rw [h.live, map_id_map_mk]
  exact hfresh.filter _

theorem accounts_empty : Accounts [] [] empty :=
  ⟨rfl, .nil⟩

theorem Accounts.mem_live_iff (h : Accounts events released registry) {id : Nat} :
    id ∈ registry.live.map Handle.id ↔ id ∈ registered events ∧ hasLeft id events = false := by
  rw [h.live, map_id_map_mk, List.mem_filter]
  simp

theorem register_of_notMem {id : Nat} (h : id ∉ registry.live.map Handle.id) :
    registry.register id = ⟨registry.live ++ [⟨id, 0⟩], registry.pending⟩ := by
  rw [register, List.filter_eq_self.2]
  intro handle hmem
  exact decide_eq_true fun hid => h (hid ▸ List.mem_map_of_mem hmem)

theorem Accounts.register (h : Accounts events released registry) {id : Nat}
    (hid : id ∉ registered events) :
    Accounts (events ++ [.register id]) released (registry.register id) := by
  have hleft (other : Nat) : hasLeft other (events ++ [.register id]) = hasLeft other events := by
    simp [hasLeft_concat, Event.ends]
  have hregistered : registered (events ++ [.register id]) = registered events ++ [id] :=
    registered_append events [.register id]
  rw [register_of_notMem fun hmem => hid (h.mem_live_iff.1 hmem).1]
  constructor
  · simp [hregistered, hleft, h.live, hasLeft_of_notMem hid]
  · simpa [hregistered, hleft, hasLeft_of_notMem hid] using h.gone

theorem filter_or_perm {α : Type} (p q : α → Bool) (l : List α) :
    (l.filter fun a => p a || q a).Perm (l.filter p ++ l.filter fun a => !p a && q a) := by
  induction l with
  | nil => exact .nil
  | cons a l ih =>
    cases hp : p a with
    | true =>
      rw [List.filter_cons_of_pos (by simp [hp]), List.filter_cons_of_pos hp,
        List.filter_cons_of_neg (by simp [hp])]
      exact ih.cons a
    | false =>
      rw [List.filter_cons_of_neg (p := p) (by simp [hp])]
      cases hq : q a with
      | true =>
        rw [List.filter_cons_of_pos (by simp [hq]), List.filter_cons_of_pos (by simp [hp, hq])]
        exact (ih.cons a).trans List.perm_middle.symm
      | false =>
        rw [List.filter_cons_of_neg (by simp [hp, hq]), List.filter_cons_of_neg (by simp [hq])]
        exact ih

theorem Accounts.depart (h : Accounts events released registry) {event : Event}
    (hnone : event.registered? = none) :
    Accounts (events ++ [event]) released (registry.depart fun id => event.ends id) := by
  have hregistered : registered (events ++ [event]) = registered events := by
    rw [registered_append]
    simp [registered, hnone]
  have hleft : ∀ id ∈ registered events,
      hasLeft id (events ++ [event]) = (hasLeft id events || event.ends id) := by
    intro id hid
    simp [hasLeft_concat, hid]
  constructor
  · rw [live_depart, hregistered, h.live, List.filter_map, List.filter_filter]
    congr 1
    apply List.filter_congr
    intro id hid
    simp [hleft id hid, Bool.and_comm]
  · have hshut : (registry.live.filter fun handle => event.ends handle.id).map Handle.shut =
        ((registered events).filter fun id => !hasLeft id events && event.ends id).map
          fun id => ⟨id, 1⟩ := by
      rw [h.live, List.filter_map, List.filter_filter, List.map_map]
      simp only [Function.comp_def, Bool.and_comm]
      rfl
    rw [pending_depart, hregistered, List.filter_congr hleft, hshut]
    calc
      _ = registry.pending ++ (_ ++ released) := List.append_assoc _ _ _
      List.Perm _ (registry.pending ++ (released ++ _)) := List.perm_append_comm.append_left _
      _ = registry.pending ++ released ++ _ := (List.append_assoc _ _ _).symm
      List.Perm _ (_ ++ _) := h.gone.append_right _
      _ = _ := List.map_append.symm
      List.Perm _ _ := ((filter_or_perm _ _ _).map _).symm

theorem Accounts.drain (h : Accounts events released registry) :
    Accounts (events ++ [.drain]) (released ++ registry.drain.1) registry.drain.2 := by
  have hstays : Accounts (events ++ [.drain]) released
      (registry.depart fun id => Event.drain.ends id) := h.depart rfl
  have hsame : registry.depart (fun id => Event.drain.ends id) = registry :=
    depart_of_forall fun _ _ => rfl
  rw [hsame] at hstays
  have hgone : (released ++ registry.pending).Perm _ := List.perm_append_comm.trans hstays.gone
  exact ⟨hstays.live, hgone⟩

theorem Accounts.step (h : Accounts events released registry) {event : Event}
    (hfresh : (registered (events ++ [event])).Nodup) :
    Accounts (events ++ [event]) (released ++ (registry.step event).1) (registry.step event).2 := by
  rw [registered_append, List.nodup_append] at hfresh
  obtain ⟨hbefore, -, hnew⟩ := hfresh
  cases event with
  | register id =>
    rw [Registry.step, List.append_nil]
    exact h.register fun hid => hnew id hid id (by simp [registered, Event.registered?]) rfl
  | leave id =>
    rw [Registry.step, List.append_nil, snd_leave (h.nodup_live hbefore)]
    exact h.depart rfl
  | leaveAll =>
    rw [Registry.step, List.append_nil, snd_leaveAll]
    exact h.depart rfl
  | drain => exact h.drain

theorem run_cons (registry : Registry) (event : Event) (rest : List Event) :
    registry.run (event :: rest) =
      ((registry.step event).1 ++ ((registry.step event).2.run rest).1,
        ((registry.step event).2.run rest).2) :=
  rfl

theorem run_append (registry : Registry) (front back : List Event) :
    registry.run (front ++ back) =
      ((registry.run front).1 ++ ((registry.run front).2.run back).1,
        ((registry.run front).2.run back).2) := by
  induction front generalizing registry with
  | nil => rfl
  | cons event rest ih =>
    rw [List.cons_append, run_cons, run_cons, ih, List.append_assoc]

theorem Accounts.run (h : Accounts events released registry) {later : List Event}
    (hfresh : (registered (events ++ later)).Nodup) :
    Accounts (events ++ later) (released ++ (registry.run later).1) (registry.run later).2 := by
  induction later generalizing events released registry with
  | nil => simpa [Registry.run] using h
  | cons event rest ih =>
    rw [List.append_cons] at hfresh ⊢
    have hprefix : (registered (events ++ [event])).Nodup := by
      rw [registered_append] at hfresh
      exact (List.nodup_append.1 hfresh).1
    rw [run_cons, ← List.append_assoc]
    exact ih (h.step hprefix) hfresh

theorem accounts_run {events : List Event} (hfresh : (registered events).Nodup) :
    Accounts events (empty.run events).1 (empty.run events).2 :=
  accounts_empty.run hfresh

theorem Accounts.places (h : Accounts events released registry) :
    ((registry.live ++ registry.pending ++ released).map Handle.id).Perm (registered events) := by
  have hgone := h.gone.map Handle.id
  rw [map_id_map_mk] at hgone
  rw [List.append_assoc, List.map_append, h.live, map_id_map_mk]
  calc
    List.Perm _ (((registered events).filter fun id => hasLeft id events) ++ _) :=
      (List.Perm.append_left _ hgone).trans List.perm_append_comm
    List.Perm _ _ := List.filter_append_perm _ _

/-! ## The way of a handle -/

inductive Place where
  | unknown
  | live
  | waiting
  | released
  deriving DecidableEq, Repr

inductive Place.Moves : Place → Place → Prop where
  | stays (place : Place) : Moves place place
  | comes : Moves .unknown .live
  | leaves : Moves .live .waiting
  | closes : Moves .waiting .released

def place (released : List Handle) (registry : Registry) (id : Nat) : Place :=
  if id ∈ registry.live.map Handle.id then .live
  else if id ∈ registry.pending.map Handle.id then .waiting
  else if id ∈ released.map Handle.id then .released
  else .unknown

theorem moves_depart (released : List Handle) (registry : Registry) (p : Nat → Bool) (id : Nat) :
    Place.Moves (place released registry id) (place released (registry.depart p) id) := by
  have hlive : id ∈ (registry.depart p).live.map Handle.id ↔
      id ∈ registry.live.map Handle.id ∧ p id = false := by
    simp only [live_depart, List.mem_map, List.mem_filter]
    constructor
    · rintro ⟨handle, ⟨hmem, hp⟩, rfl⟩
      exact ⟨⟨handle, hmem, rfl⟩, by simpa using hp⟩
    · rintro ⟨⟨handle, hmem, rfl⟩, hp⟩
      exact ⟨handle, ⟨hmem, by simpa using hp⟩, rfl⟩
  have hpending : id ∈ (registry.depart p).pending.map Handle.id ↔
      id ∈ registry.pending.map Handle.id ∨ id ∈ registry.live.map Handle.id ∧ p id = true := by
    rw [pending_depart, List.map_append, List.map_map, List.mem_append]
    apply or_congr_right
    simp only [List.mem_map, List.mem_filter]
    constructor
    · rintro ⟨handle, ⟨hmem, hp⟩, rfl⟩
      exact ⟨⟨handle, hmem, rfl⟩, hp⟩
    · rintro ⟨⟨handle, hmem, rfl⟩, hp⟩
      exact ⟨handle, ⟨hmem, hp⟩, rfl⟩
  unfold place
  by_cases hmem : id ∈ registry.live.map Handle.id
  · cases hp : p id with
    | true =>
      rw [if_pos hmem, if_neg (by simp [hlive, hp]), if_pos (hpending.2 (.inr ⟨hmem, hp⟩))]
      exact .leaves
    | false =>
      rw [if_pos hmem, if_pos (hlive.2 ⟨hmem, hp⟩)]
      exact .stays .live
  · simp only [hlive, hpending, hmem, false_and, or_false]
    exact .stays _

theorem moves_register (released : List Handle) {registry : Registry} {id : Nat}
    (hid : place released registry id = .unknown) (other : Nat) :
    Place.Moves (place released registry other) (place released (registry.register id) other) := by
  have hnew : id ∉ registry.live.map Handle.id := by
    intro hmem
    rw [place, if_pos hmem] at hid
    cases hid
  have hlive : other ∈ (registry.register id).live.map Handle.id ↔
      other ∈ registry.live.map Handle.id ∨ other = id := by
    rw [register_of_notMem hnew, List.map_append, List.mem_append]
    exact or_congr_right List.mem_singleton
  by_cases heq : other = id
  · rw [heq, hid, place, if_pos (by simpa [heq] using hlive)]
    exact .comes
  · have hsame : place released (registry.register id) other = place released registry other := by
      simp only [place, hlive, heq, or_false]
      rfl
    rw [hsame]
    exact .stays _

theorem moves_drain (released : List Handle) (registry : Registry) (id : Nat) :
    Place.Moves (place released registry id)
      (place (released ++ registry.drain.1) registry.drain.2 id) := by
  have hpending : id ∉ registry.drain.2.pending.map Handle.id := List.not_mem_nil
  have hreleased : id ∈ (released ++ registry.drain.1).map Handle.id ↔
      id ∈ released.map Handle.id ∨ id ∈ registry.pending.map Handle.id := by
    rw [List.map_append, List.mem_append]
    rfl
  have hlive : registry.drain.2.live = registry.live := rfl
  rw [place, place, hlive]
  by_cases hmem : id ∈ registry.live.map Handle.id
  · rw [if_pos hmem, if_pos hmem]
    exact .stays .live
  · rw [if_neg hmem, if_neg hmem, if_neg hpending]
    by_cases hwait : id ∈ registry.pending.map Handle.id
    · rw [if_pos hwait, if_pos (hreleased.2 (.inr hwait))]
      exact .closes
    · simp only [hreleased, hwait, or_false, if_false]
      exact .stays _

theorem Accounts.place_eq_unknown (h : Accounts events released registry) {id : Nat}
    (hid : id ∉ registered events) : place released registry id = .unknown := by
  have hnowhere : id ∉ (registry.live ++ registry.pending ++ released).map Handle.id := by
    rwa [h.places.mem_iff]
  simp only [List.map_append, List.mem_append, not_or] at hnowhere
  obtain ⟨⟨hlive, hpending⟩, hreleased⟩ := hnowhere
  rw [place, if_neg hlive, if_neg hpending, if_neg hreleased]

/-- An event takes a handle at most one step further, and never back. -/
theorem Accounts.moves_step (h : Accounts events released registry) {event : Event}
    (hfresh : (registered (events ++ [event])).Nodup) (id : Nat) :
    Place.Moves (place released registry id)
      (place (released ++ (registry.step event).1) (registry.step event).2 id) := by
  rw [registered_append, List.nodup_append] at hfresh
  obtain ⟨hbefore, -, hnew⟩ := hfresh
  cases event with
  | register other =>
    have hother : other ∉ registered events := fun hmem =>
      hnew other hmem other (by simp [registered, Event.registered?]) rfl
    rw [Registry.step, List.append_nil]
    exact moves_register released (h.place_eq_unknown hother) id
  | leave other =>
    rw [Registry.step, List.append_nil, snd_leave (h.nodup_live hbefore)]
    exact moves_depart released registry _ id
  | leaveAll =>
    rw [Registry.step, List.append_nil, snd_leaveAll]
    exact moves_depart released registry _ id
  | drain => exact moves_drain released registry id

/-! ## Every moment of a run -/

/-- What holds after events, whatever they were. Each registered handle is in one place; it is shut
down if it left, then once, and otherwise never; the count is that of the connections that did not
leave; and only these can leave, the others change nothing. -/
structure Tracked (events : List Event) (released : List Handle) (registry : Registry) : Prop where
  places : ((registry.live ++ registry.pending ++ released).map Handle.id).Perm (registered events)
  live : ∀ handle ∈ registry.live, handle.shutdowns = 0 ∧ hasLeft handle.id events = false
  gone : ∀ handle ∈ registry.pending ++ released,
    handle.shutdowns = 1 ∧ hasLeft handle.id events = true
  count : registry.count = (registered events).countP fun id => !hasLeft id events
  leave : ∀ id, (registry.leave id).1 = true ↔
    id ∈ registered events ∧ hasLeft id events = false
  again : ∀ id, (registry.leave id).1 = false → registry.leave id = (false, registry)

theorem Accounts.tracked (h : Accounts events released registry)
    (hfresh : (registered events).Nodup) : Tracked events released registry where
  places := h.places
  live := by
    intro handle hmem
    rw [h.live] at hmem
    obtain ⟨id, hid, rfl⟩ := List.mem_map.1 hmem
    exact ⟨rfl, by simpa using (List.mem_filter.1 hid).2⟩
  gone := by
    intro handle hmem
    rw [h.gone.mem_iff] at hmem
    obtain ⟨id, hid, rfl⟩ := List.mem_map.1 hmem
    exact ⟨rfl, (List.mem_filter.1 hid).2⟩
  count := by rw [Registry.count, h.live, List.length_map, List.countP_eq_length_filter]
  leave := by
    intro id
    rw [← h.mem_live_iff]
    by_cases hmem : id ∈ registry.live.map Handle.id
    · simp [leave_of_mem hmem (h.nodup_live hfresh), hmem]
    · simp [leave_of_notMem hmem, hmem]
  again := by
    intro id hleave
    apply leave_of_notMem
    intro hmem
    rw [leave_of_mem hmem (h.nodup_live hfresh)] at hleave
    cases hleave

theorem nodup_registered_take (hfresh : (registered events).Nodup) (k : Nat) :
    (registered (events.take k)).Nodup := by
  rw [← List.take_append_drop k events, registered_append] at hfresh
  exact (List.nodup_append.1 hfresh).1

theorem moves_run_take (hfresh : (registered events).Nodup) (k id : Nat) :
    Place.Moves (place (empty.run (events.take k)).1 (empty.run (events.take k)).2 id)
      (place (empty.run (events.take (k + 1))).1 (empty.run (events.take (k + 1))).2 id) := by
  cases hevent : events[k]? with
  | none =>
    rw [List.take_add_one, hevent, Option.toList_none, List.append_nil]
    exact .stays _
  | some event =>
    have htake : events.take (k + 1) = events.take k ++ [event] := by
      rw [List.take_add_one, hevent, Option.toList_some]
    have hnext := nodup_registered_take hfresh (k + 1)
    have hstep := (accounts_run (nodup_registered_take hfresh k)).moves_step (htake ▸ hnext) id
    rw [htake, run_append, run_cons]
    simpa [Registry.run] using hstep

theorem snd_run_shutdown (registry : Registry) (passes : List (List Event)) :
    (registry.run (shutdown passes)).2 = empty := by
  rw [shutdown, run_append]
  rfl

theorem Accounts.perm_of_empty (h : Accounts events released empty) :
    released.Perm ((registered events).map fun id => ⟨id, 1⟩) := by
  have hleft : ((registered events).filter fun id => hasLeft id events) = registered events := by
    apply List.filter_eq_self.2
    intro id hid
    rw [← Bool.not_eq_false]
    intro hstays
    exact List.not_mem_nil (h.mem_live_iff.2 ⟨hid, hstays⟩)
  rw [← hleft]
  exact h.gone

/-- However the end of a connection and the end of the server come together with registrations and
releases, at every moment each handle is accounted for, no event takes a handle more than one step
on its way or back, and a shutdown releases every handle, shut down once. Numbers are not registered
twice. -/
theorem run_releases_once (events : List Event) (hfresh : (registered events).Nodup) :
    (∀ k, Tracked (events.take k) (empty.run (events.take k)).1 (empty.run (events.take k)).2) ∧
    (∀ k id, Place.Moves
      (place (empty.run (events.take k)).1 (empty.run (events.take k)).2 id)
      (place (empty.run (events.take (k + 1))).1 (empty.run (events.take (k + 1))).2 id)) ∧
    ∀ before passes, events = before ++ shutdown passes →
      ∃ released, empty.run events = (released, empty) ∧
        released.Perm ((registered events).map fun id => ⟨id, 1⟩) := by
  refine ⟨?_, moves_run_take hfresh, ?_⟩
  · intro k
    have hprefix := nodup_registered_take hfresh k
    exact (accounts_run hprefix).tracked hprefix
  · rintro before passes rfl
    have haccounts := accounts_run hfresh
    have hlast : (empty.run (before ++ shutdown passes)).2 = empty := by
      rw [run_append]
      exact snd_run_shutdown _ passes
    rw [hlast] at haccounts
    exact ⟨_, Prod.ext rfl hlast, haccounts.perm_of_empty⟩

/-- Two connections leave by themselves, one before the server ends and one after it was made to
leave already; a third one comes while the server ends. -/
def race : List Event :=
  [.register 1, .register 2, .leave 1] ++ shutdown [[.leave 2, .leave 1], [.register 3, .leave 3]]

theorem run_releases_once_race :
    (empty.run (race.take 3)).2.count = 1 ∧
      ((empty.run (race.take 4)).2.leave 2).1 ≠ true ∧
      ∃ released, empty.run race = (released, empty) ∧
        released.Perm [⟨1, 1⟩, ⟨2, 1⟩, ⟨3, 1⟩] := by
  obtain ⟨htracked, -, hshutdown⟩ := run_releases_once race (by decide)
  refine ⟨(htracked 3).count, ?_, hshutdown _ _ rfl⟩
  rw [ne_eq, (htracked 4).leave 2]
  decide

end RespStore.Registry
