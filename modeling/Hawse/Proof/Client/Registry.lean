import Hawse.Client.Registry
import Hawse.Lib.Journal

namespace Hawse.Proof.Client.Registry
open Lib Hawse.Client Hawse.Client.Registry
open Std (ExtTreeMap)

/-- What holds of every waiter: its `Notified` is no newer than the last call, and parked with nothing
delivered it either has nothing to find or an insert is still to notify it. -/
structure Held (s : Registry) (waiter : Waiter) : Prop where
  looking : ∀ changed, waiter.stage = .looking changed → changed ≤ s.changed
  parked : ∀ changed, waiter.stage = .parked changed → changed ≤ s.changed ∧
    (changed = s.changed → s.services[waiter.id]? ≠ none → 0 < s.inserting)

/-- A later registry that has notified, or has an insert more, or has no more to find. -/
theorem Held.mono {s t : Registry} {waiter : Waiter} (held : Held s waiter) (later : s.changed ≤ t.changed)
    (kept : s.changed = t.changed → s.inserting < t.inserting ∨
      (s.inserting ≤ t.inserting ∧ (s.services[waiter.id]? = none → t.services[waiter.id]? = none))) :
    Held t waiter := by
  refine ⟨fun changed looking => (held.looking changed looking).trans later, ?_⟩
  intro changed parked
  obtain ⟨seen, awaited⟩ := held.parked changed parked
  refine ⟨seen.trans later, fun last present => ?_⟩
  have same : s.changed = t.changed := le_antisymm later (last ▸ seen)
  rcases kept same with more | ⟨asMany, gone⟩
  · omega
  · exact (awaited (last.trans same.symm) (mt gone present)).trans_le asMany

theorem held_idle (s : Registry) (id : UInt16) {stage : Waiting}
    (idle : ∀ changed, stage ≠ .looking changed ∧ stage ≠ .parked changed) : Held s ⟨id, stage⟩ :=
  ⟨fun changed looking => absurd looking (idle changed).1, fun changed parked => absurd parked (idle changed).2⟩

def Sound (s : Registry) : Prop := ∀ waiter ∈ s.waiters, Held s waiter

theorem held_turn {s : Registry} {waiter : Waiter} {stage : Waiting} (held : Held s waiter)
    (turned : s.turn waiter = some stage) : Held s ⟨waiter.id, stage⟩ := by
  unfold Registry.turn at turned
  split at turned
  · -- A `Notified` made now, so no call is after it yet.
    cases turned
    refine ⟨fun changed same => ?_, fun changed same => (by cases same)⟩
    cases same
    exact le_rfl
  · next changed looking =>
      split at turned
      · cases turned
        exact held_idle s _ (by simp)
      · next absent =>
          cases turned
          refine ⟨fun changed same => (by cases same), fun changed same => ?_⟩
          cases same
          exact ⟨held.looking changed looking, fun _ present => absurd absent present⟩
  · split at turned
    · cases turned
      exact held_idle s _ (by simp)
    · cases turned
  · cases turned
  · cases turned

theorem sound_set {s : Registry} (sound : Sound s) (i : Nat) {waiter : Waiter} (held : Held s waiter) :
    Sound { s with waiters := s.waiters.set i waiter } := by
  intro other member
  have unmoved (held : Held s other) : Held { s with waiters := s.waiters.set i waiter } other :=
    held.mono le_rfl fun _ => .inr ⟨le_rfl, fun absent => absent⟩
  rcases List.mem_or_eq_of_mem_set member with before | rfl
  · exact unmoved (sound other before)
  · exact unmoved held

theorem sound_step {s t : Registry} {event : Event} (sound : Sound s) (step : s.next event = some t) : Sound t := by
  cases event with
  | write bound =>
      cases step
      exact fun waiter member => (sound waiter member).mono le_rfl fun _ => .inl (Nat.lt_succ_self _)
  | notify =>
      simp only [Registry.next] at step
      split at step
      · cases step
        refine fun waiter member => (sound waiter member).mono (Nat.le_succ _) fun same => ?_
        exact absurd same (Nat.ne_of_lt (Nat.lt_succ_self _))
      · cases step
  | remove id =>
      cases step
      refine fun waiter member => (sound waiter member).mono le_rfl fun _ => .inr ⟨le_rfl, fun absent => ?_⟩
      simp only [ExtTreeMap.getElem?_erase, absent, ite_self]
  | clear =>
      cases step
      refine fun waiter member => (sound waiter member).mono le_rfl fun _ => .inr ⟨le_rfl, fun _ => ?_⟩
      exact ExtTreeMap.getElem?_empty
  | waitFor id =>
      cases step
      intro waiter member
      rcases List.mem_append.mp member with before | new
      · exact (sound waiter before).mono le_rfl fun _ => .inr ⟨le_rfl, fun absent => absent⟩
      · cases List.mem_singleton.mp new
        exact held_idle _ id (by simp)
  | turn i =>
      obtain ⟨waiter, stored, moved⟩ := Option.bind_eq_some_iff.mp step
      obtain ⟨stage, turned, rfl⟩ := Option.map_eq_some_iff.mp moved
      exact sound_set sound i (held_turn (sound waiter (List.mem_of_getElem? stored)) turned)
  | elapse i =>
      simp only [Registry.next] at step
      split at step
      · cases step
        exact sound_set sound i (held_idle s _ (by simp))
      · cases step

theorem sound_reachable {s : Registry} (reachable : registry.Reachable s) : Sound s := by
  refine reachable.invariant Sound ?_ fun s event t _ => sound_step
  rintro s rfl waiter member
  cases member

/-! ## Lookups -/

structure Lookup where
  waiter : Nat
  id : UInt16
  held : Option UdpLocal

/-- Each lookup of a `wait_for`, with what the registry held under its id. -/
def lookups (past : List Lookup) (s : Registry) (event : Event) (_ : Registry) : List Lookup :=
  match event with
  | .turn i =>
      match s.waiters[i]? with
      | some ⟨id, .looking _⟩ => past ++ [⟨i, id, s.services[id]?⟩]
      | _ => past
  | _ => past

def lastLookup (i : Nat) (past : List Lookup) : Option Lookup := Journal.last (·.waiter = i) past

/-- A service found is the one its last lookup came upon. -/
def Told (noted : Registry × List Lookup) : Prop :=
  ∀ i waiter bound, noted.1.waiters[i]? = some waiter → waiter.stage = .found bound →
    lastLookup i noted.2 = some ⟨i, waiter.id, some bound⟩

theorem lookups_other {past : List Lookup} {s t : Registry} {event : Event} {i : Nat} (other : event ≠ .turn i) :
    lastLookup i (lookups past s event t) = lastLookup i past := by
  unfold lookups
  split
  · next j =>
      have apart : j ≠ i := fun same => other (same ▸ rfl)
      split
      · simp [lastLookup, apart]
      · rfl
  · rfl

theorem turn_found {s : Registry} {waiter : Waiter} {i : Nat} {bound : UdpLocal} (past : List Lookup) (t : Registry)
    (stored : s.waiters[i]? = some waiter) (turned : s.turn waiter = some (.found bound)) :
    lastLookup i (lookups past s (.turn i) t) = some ⟨i, waiter.id, some bound⟩ := by
  obtain ⟨id, stage⟩ := waiter
  cases stage with
  | looking changed =>
      have found : s.services[id]? = some bound := by
        simp only [Registry.turn] at turned
        split at turned
        · next held =>
            cases turned
            exact held
        · cases turned
      simp [lookups, stored, lastLookup, found]
  | starting => cases turned
  | parked changed =>
      simp only [Registry.turn] at turned
      split at turned <;> cases turned
  | found earlier => cases turned
  | elapsed => cases turned

theorem told_set {s : Registry} {past after : List Lookup} (told : Told (s, past)) {i : Nat} {waiter : Waiter}
    (others : ∀ j, j ≠ i → lastLookup j after = lastLookup j past)
    (own : ∀ bound, waiter.stage = .found bound → lastLookup i after = some ⟨i, waiter.id, some bound⟩) :
    Told ({ s with waiters := s.waiters.set i waiter }, after) := by
  intro j other bound stored found
  by_cases same : j = i
  · subst same
    rw [List.getElem?_set] at stored
    split at stored
    · split at stored
      · cases stored
        exact own bound found
      · cases stored
    · next apart => exact absurd rfl apart
  · rw [List.getElem?_set_ne (Ne.symm same)] at stored
    rw [others j same]
    exact told j other bound stored found

theorem told_step {noted : Registry × List Lookup} {event : Event} {t : Registry} (told : Told noted)
    (step : noted.1.next event = some t) : Told (t, lookups noted.2 noted.1 event t) := by
  have unmoved (same : t.waiters = noted.1.waiters) (other : ∀ i, event ≠ .turn i) :
      Told (t, lookups noted.2 noted.1 event t) := by
    intro i waiter bound stored found
    rw [lookups_other (other i)]
    exact told i waiter bound (same ▸ stored) found
  cases event with
  | write bound => exact unmoved (by cases step; rfl) (by simp)
  | notify =>
      simp only [Registry.next] at step
      split at step
      · exact unmoved (by cases step; rfl) (by simp)
      · cases step
  | remove id => exact unmoved (by cases step; rfl) (by simp)
  | clear => exact unmoved (by cases step; rfl) (by simp)
  | waitFor id =>
      cases step
      intro i waiter bound stored found
      rw [lookups_other (by simp)]
      rw [List.getElem?_append] at stored
      split at stored
      · exact told i waiter bound stored found
      · cases List.mem_singleton.mp (List.mem_of_getElem? stored)
        cases found
  | turn i =>
      obtain ⟨waiter, stored, moved⟩ := Option.bind_eq_some_iff.mp step
      obtain ⟨stage, turned, rfl⟩ := Option.map_eq_some_iff.mp moved
      refine told_set told (fun j apart => lookups_other (by simp [Ne.symm apart])) ?_
      intro bound found
      have stated : noted.1.turn waiter = some (.found bound) := turned.trans (congrArg some found)
      have looked := turn_found noted.2 (noted.1.move i waiter stage) stored stated
      exact looked
  | elapse i =>
      simp only [Registry.next] at step
      split at step
      · cases step
        exact told_set told (fun j _ => lookups_other (by simp)) fun bound found => by cases found
      · cases step

theorem wait_for_not_lost :
    (∀ s, registry.Reachable s → s.inserting = 0 → ∀ waiter ∈ s.waiters, ∀ changed, waiter.stage = .parked changed →
      ¬ changed < s.changed → s.services[waiter.id]? = none) ∧
    ∀ noted, (registry.history [] lookups).Reachable noted →
      ∀ i waiter bound, noted.1.waiters[i]? = some waiter → waiter.stage = .found bound →
        lastLookup i noted.2 = some ⟨i, waiter.id, some bound⟩ := by
  refine ⟨?_, ?_⟩
  · intro s reachable settled waiter member changed parked undelivered
    obtain ⟨seen, awaited⟩ := (sound_reachable reachable waiter member).parked changed parked
    by_contra present
    exact absurd (awaited (by omega) present) (by omega)
  · intro noted reachable
    refine reachable.invariant Told ?_ ?_
    · rintro ⟨s, past⟩ ⟨rfl, _⟩ i waiter bound stored
      cases stored
    · intro noted event after _ told step
      have next := told_step told step.1
      rw [← step.2] at next
      exact next

end Hawse.Proof.Client.Registry
