import Mathlib.Tactic

namespace Hawse.Lib

structure System (State Event : Type*) where
  initial : State → Prop
  step : State → Event → State → Prop

namespace System
variable {State Event : Type*} {sys : System State Event}

inductive Reachable (sys : System State Event) : State → Prop
  | initial {s : State} : sys.initial s → Reachable sys s
  | next {s t : State} {event : Event} : Reachable sys s → sys.step s event t → Reachable sys t

theorem Reachable.invariant (inv : State → Prop) (base : ∀ s, sys.initial s → inv s)
    (preserved : ∀ s event t, sys.Reachable s → inv s → sys.step s event t → inv t)
    {s : State} (reachable : sys.Reachable s) : inv s := by
  induction reachable with
  | initial start => exact base _ start
  | next before action ih => exact preserved _ _ _ before ih action

/-- A system whose every step another can follow, in any number of steps, reaches only states the
other has a match for. -/
theorem Reachable.simulated {State' Event' : Type*} {other : System State' Event'}
    (sim : State → State' → Prop) (base : ∀ s, sys.initial s → ∃ a, other.initial a ∧ sim s a)
    (follows : ∀ s event t a, sys.step s event t → sim s a → other.Reachable a →
      ∃ b, other.Reachable b ∧ sim t b)
    {s : State} (reachable : sys.Reachable s) : ∃ a, other.Reachable a ∧ sim s a := by
  induction reachable with
  | initial start =>
      obtain ⟨a, first, matched⟩ := base _ start
      exact ⟨a, .initial first, matched⟩
  | next before action ih =>
      obtain ⟨a, reached, matched⟩ := ih
      exact follows _ _ _ a action matched reached

def run (next : State → Event → Option State) : State → List Event → Option State
  | s, [] => some s
  | s, event :: events =>
      match next s event with
      | none => none
      | some t => run next t events

theorem Reachable.run_from {next : State → Event → Option State}
    (follows : ∀ s event t, sys.Reachable s → next s event = some t → sys.step s event t) {s t : State}
    (reachable : sys.Reachable s) (events : List Event) (ran : run next s events = some t) :
    sys.Reachable t := by
  induction events generalizing s with
  | nil =>
      cases ran
      exact reachable
  | cons event events ih =>
      simp only [System.run] at ran
      cases stepped : next s event with
      | none => simp [stepped] at ran
      | some middle =>
          rw [stepped] at ran
          exact ih (.next reachable (follows _ _ _ reachable stepped)) ran

theorem Reachable.run {next : State → Event → Option State}
    (follows : ∀ s event t, next s event = some t → sys.step s event t) {s t : State}
    (reachable : sys.Reachable s) (events : List Event) (ran : run next s events = some t) :
    sys.Reachable t :=
  reachable.run_from (fun s event t _ stepped => follows s event t stepped) events ran

def restrict (sys : System State Event) (allowed : State → Event → Prop) : System State Event where
  initial := sys.initial
  step s event t := allowed s event ∧ sys.step s event t

theorem Reachable.of_restrict {allowed : State → Event → Prop} {s : State}
    (reachable : (sys.restrict allowed).Reachable s) : sys.Reachable s := by
  induction reachable with
  | initial first => exact .initial first
  | next _ step ih => exact ih.next step.2

/-- The same system, with something it has no part in written down about each step. -/
def history {Past : Type*} (sys : System State Event) (start : Past)
    (note : Past → State → Event → State → Past) : System (State × Past) Event where
  initial noted := sys.initial noted.1 ∧ noted.2 = start
  step noted event next :=
    sys.step noted.1 event next.1 ∧ next.2 = note noted.2 noted.1 event next.1

section History
variable {Past : Type*} {start : Past} {note : Past → State → Event → State → Past}

theorem Reachable.of_history {noted : State × Past} (reachable : (sys.history start note).Reachable noted) :
    sys.Reachable noted.1 := by
  induction reachable with
  | initial first => exact .initial first.1
  | next _ step ih => exact ih.next step.1

theorem Reachable.exists_history (start : Past) (note : Past → State → Event → State → Past) {s : State}
    (reachable : sys.Reachable s) : ∃ past, (sys.history start note).Reachable (s, past) := by
  induction reachable with
  | initial first => exact ⟨start, .initial ⟨first, rfl⟩⟩
  | @next s t event _ step ih =>
      obtain ⟨past, reached⟩ := ih
      have noted : (sys.history start note).step (s, past) event (t, note past s event t) := ⟨step, rfl⟩
      exact ⟨_, reached.next noted⟩

def record (next : State → Event → Option State) (note : Past → State → Event → State → Past)
    (noted : State × Past) (event : Event) : Option (State × Past) :=
  (next noted.1 event).map fun t => (t, note noted.2 noted.1 event t)

theorem history_follows {next : State → Event → Option State}
    (follows : ∀ s event t, next s event = some t → sys.step s event t) (noted : State × Past) (event : Event)
    (after : State × Past) (recorded : record next note noted event = some after) :
    (sys.history start note).step noted event after := by
  obtain ⟨t, stepped, rfl⟩ := Option.map_eq_some_iff.mp recorded
  exact ⟨follows _ _ _ stepped, rfl⟩

end History
end System
end Hawse.Lib
