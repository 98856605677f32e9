import Hawse.Client.Race

namespace Hawse.Proof.Client.Race
open Lib Hawse.Client

variable {T E : Type}

def begins (after : Nat) : Future (Except E T) → Option Nat
  | none => some after
  | some (t, .ok _) => if t ≤ after then none else some after
  | some (t, .error _) => some (min t after)

/-- The better of two dials that run beside each other. -/
def better : Future (Except E T) → Future (Except E T) → Future (Raced T E)
  | some (t, .ok dialed), some (t', .ok dialed') =>
      if t ≤ t' then some (t, .quic dialed) else some (t', .tcp dialed' none)
  | some (t, .ok dialed), _ => some (t, .quic dialed)
  | some (t, .error err), some (t', .ok dialed) => some (t', .tcp dialed (if t ≤ t' then some err else none))
  | some (t, .error err), some (t', .error err') => some (max t t', .failed err err')
  | none, some (t', .ok dialed) => some (t', .tcp dialed none)
  | _, _ => none

def begun (quic : Future (Except E T)) (tcp : Nat → Future (Except E T)) (after : Nat) : Future (Except E T) :=
  (begins after quic).bind fun start => Future.start start (tcp start)

section Regimes
variable (tcp : Nat → Future (Except E T)) {after t : Nat}

theorem race_never : race none tcp after = (some after, better none (begun none tcp after)) := by
  simp only [race, Future.timeout, Nat.zero_add, Future.select, Future.await_start, begins, begun, Option.bind_some]
  rcases Future.start after (tcp after) with - | ⟨t', err | dialed⟩ <;> rfl

theorem race_early (early : t ≤ after) (result : Except E T) :
    race (some (t, result)) tcp after =
      (begins after (some (t, result)), better (some (t, result)) (begun (some (t, result)) tcp after)) := by
  have ready := Future.timeout_early (Nat.zero_le t) (Nat.zero_add after ▸ early) result
  cases result with
  | ok dialed => simp only [race, ready, begins, if_pos early, begun, Option.bind_none, better]
  | error err =>
      simp only [race, ready, begins, Nat.min_eq_left early, begun, Option.bind_some, Raced.onTcp, Future.await_start]
      rcases tcp t with - | ⟨c, err | dialed⟩
      · rfl
      · simp [Future.start, better]
      · simp [Future.start, better]

theorem race_late (late : after < t) (result : Except E T) :
    race (some (t, result)) tcp after =
      (begins after (some (t, result)), better (some (t, result)) (begun (some (t, result)) tcp after)) := by
  have elapsed := Future.timeout_late (by omega : 0 + after < t) result
  have start : begins after (some (t, result)) = some after := by
    cases result with
    | ok dialed => exact if_neg (Nat.not_le.mpr late)
    | error err => exact congrArg some (Nat.min_eq_right late.le)
  simp only [race, elapsed, Nat.zero_add, Future.select, Future.await_start, Future.await_later late.le, begun, start,
    Option.bind_some]
  rcases tcp after with - | ⟨c, err' | dialed'⟩
  · cases result <;> rfl
  · -- TCP fails, and whichever dial is awaited then is the other
    by_cases first : t ≤ after + c
    · cases result <;> simp [Future.start, first, Raced.onTcp, Future.await, better]
    · have beyond : after + c ≤ t := by omega
      cases result <;> simp [Future.start, first, Future.await, better, beyond]
  · by_cases first : t ≤ after + c
    · cases result <;> simp [Future.start, first, Raced.onTcp, Future.await, better]
    · cases result <;> simp [Future.start, first, better]

end Regimes

theorem race_eq (quic : Future (Except E T)) (tcp : Nat → Future (Except E T)) (after : Nat) :
    race quic tcp after = (begins after quic, better quic (begun quic tcp after)) := by
  rcases quic with - | ⟨t, result⟩
  · exact race_never tcp
  · rcases Nat.lt_or_ge after t with late | early
    · exact race_late tcp late result
    · exact race_early tcp early result

section Better
variable {quic tcp : Future (Except E T)} {t : Nat}

theorem better_quic {dialed : T} : better quic tcp = some (t, .quic dialed) ↔
    quic = some (t, .ok dialed) ∧ ∀ t' dialed', tcp = some (t', .ok dialed') → t ≤ t' := by
  rcases quic with - | ⟨q, err | conn⟩ <;> rcases tcp with - | ⟨c, err' | conn'⟩
  all_goals grind [better]

/-- The error QUIC has failed with by then. -/
def failedBy (t : Nat) : Future (Except E T) → Option E
  | some (t', .error err) => if t' ≤ t then some err else none
  | _ => none

theorem failedBy_eq_some {err : E} : failedBy t quic = some err ↔ ∃ t' ≤ t, quic = some (t', .error err) := by
  rcases quic with - | ⟨q, err' | conn⟩
  · simp [failedBy]
  · simp only [failedBy, Option.some.injEq, Prod.mk.injEq, Except.error.injEq]
    split_ifs with early
    · simp [early]
    · refine iff_of_false (by simp) ?_
      rintro ⟨q', early', rfl, -⟩
      exact early early'
  · simp [failedBy]

theorem better_tcp {dialed : T} {err : Option E} : better quic tcp = some (t, .tcp dialed err) ↔
    tcp = some (t, .ok dialed) ∧ (∀ t' dialed', quic = some (t', .ok dialed') → t < t') ∧ err = failedBy t quic := by
  rcases quic with - | ⟨q, err' | conn⟩ <;> rcases tcp with - | ⟨c, err'' | conn'⟩
  all_goals grind [better, failedBy]

theorem better_failed {err err' : E} : better quic tcp = some (t, .failed err err') ↔
    ∃ t' t'', quic = some (t', .error err) ∧ tcp = some (t'', .error err') ∧ t = max t' t'' := by
  rcases quic with - | ⟨q, err' | conn⟩ <;> rcases tcp with - | ⟨c, err'' | conn'⟩
  all_goals grind [better]

theorem better_never : better quic tcp = none ↔ (∀ t dialed, quic ≠ some (t, .ok dialed)) ∧
    (∀ t dialed, tcp ≠ some (t, .ok dialed)) ∧ (quic = none ∨ tcp = none) := by
  rcases quic with - | ⟨q, err' | conn⟩ <;> rcases tcp with - | ⟨c, err'' | conn'⟩
  all_goals grind [better]

end Better

theorem begun_eq_some {quic : Future (Except E T)} {tcp : Nat → Future (Except E T)} {after t : Nat}
    {result : Except E T} : begun quic tcp after = some (t, result) ↔
      ∃ start takes, begins after quic = some start ∧ tcp start = some (takes, result) ∧ t = start + takes := by
  unfold begun
  cases begins after quic with
  | none => simp
  | some start =>
      rcases dial : tcp start with - | ⟨takes, ended⟩
      · simp [Future.start, dial]
      · simp only [Option.bind_some, dial, Future.start, Option.some.injEq, Prod.mk.injEq]
        constructor
        · rintro ⟨rfl, rfl⟩
          exact ⟨start, takes, rfl, dial, rfl⟩
        · rintro ⟨_, takes', rfl, again, rfl⟩
          obtain ⟨rfl, rfl⟩ := Prod.mk.inj (Option.some.inj (dial.symm.trans again))
          exact ⟨rfl, rfl⟩

theorem begins_eq {quic : Future (Except E T)} {after : Nat}
    (slow : ¬ ∃ t dialed, quic = some (t, .ok dialed) ∧ t ≤ after) :
    ∃ start, begins after quic = some start ∧ (∀ t err, quic = some (t, .error err) → start = min t after) ∧
      ((¬ ∃ t err, quic = some (t, .error err)) → start = after) := by
  rcases quic with - | ⟨t, err | dialed⟩
  · exact ⟨after, rfl, by simp, fun _ => rfl⟩
  · refine ⟨min t after, rfl, ?_, fun running => absurd ⟨t, err, rfl⟩ running⟩
    rintro _ _ ⟨⟩
    rfl
  · have late : ¬ t ≤ after := fun early => slow ⟨t, dialed, rfl, early⟩
    exact ⟨after, if_neg late, by simp, fun _ => rfl⟩

/-- Who wins a race, when, and what a loser's error is worth. -/
theorem race_picks (quic : Future (Except E T)) (tcp : Nat → Future (Except E T)) (after : Nat) :
    (∀ t dialed, quic = some (t, .ok dialed) → t ≤ after →
      race quic tcp after = (none, some (t, .quic dialed))) ∧
    ((¬ ∃ t dialed, quic = some (t, .ok dialed) ∧ t ≤ after) →
      ∃ start, (race quic tcp after).1 = some start ∧
        (∀ t err, quic = some (t, .error err) → start = min t after) ∧
        ((¬ ∃ t err, quic = some (t, .error err)) → start = after)) ∧
    (∀ t dialed, (race quic tcp after).2 = some (t, .quic dialed) ↔ quic = some (t, .ok dialed) ∧
      ∀ start takes dialed', (race quic tcp after).1 = some start → tcp start = some (takes, .ok dialed') →
        t ≤ start + takes) ∧
    (∀ t dialed err, (race quic tcp after).2 = some (t, .tcp dialed err) ↔
      (∃ start takes, (race quic tcp after).1 = some start ∧ tcp start = some (takes, .ok dialed) ∧
        t = start + takes) ∧
      (∀ t' dialed', quic = some (t', .ok dialed') → t < t') ∧
      ∀ e, err = some e ↔ ∃ t' ≤ t, quic = some (t', .error e)) ∧
    (∀ t err err', (race quic tcp after).2 = some (t, .failed err err') ↔
      ∃ t' start takes, quic = some (t', .error err) ∧ (race quic tcp after).1 = some start ∧
        tcp start = some (takes, .error err') ∧ t = max t' (start + takes)) ∧
    ((race quic tcp after).2 = none ↔ (∀ t dialed, quic ≠ some (t, .ok dialed)) ∧
      ∃ start, (race quic tcp after).1 = some start ∧ (∀ takes dialed, tcp start ≠ some (takes, .ok dialed)) ∧
        (quic = none ∨ tcp start = none)) := by
  rw [race_eq]
  refine ⟨?_, begins_eq, ?_, ?_, ?_, ?_⟩
  · rintro t dialed rfl early
    have unbegun : begins after (some (t, (.ok dialed : Except E T))) = none := if_pos early
    rw [begun, unbegun]
    rfl
  · intro t dialed
    rw [better_quic]
    simp only [begun_eq_some]
    refine and_congr_right fun _ => ⟨?_, ?_⟩
    · intro first start takes dialed' begin dial
      exact first _ dialed' ⟨start, takes, begin, dial, rfl⟩
    · rintro first t' dialed' ⟨start, takes, begin, dial, rfl⟩
      exact first start takes dialed' begin dial
  · intro t dialed err
    rw [better_tcp, begun_eq_some, Option.ext_iff]
    simp only [failedBy_eq_some]
  · intro t err err'
    rw [better_failed]
    simp only [begun_eq_some]
    constructor
    · rintro ⟨t', _, failed, ⟨start, takes, begin, dial, rfl⟩, rfl⟩
      exact ⟨t', start, takes, failed, begin, dial, rfl⟩
    · rintro ⟨t', start, takes, failed, begin, dial, rfl⟩
      exact ⟨t', _, failed, ⟨start, takes, begin, dial, rfl⟩, rfl⟩
  · rw [better_never]
    refine and_congr_right fun unconnected => ?_
    have slow : ¬ ∃ t dialed, quic = some (t, .ok dialed) ∧ t ≤ after := by
      rintro ⟨t, dialed, connected, -⟩
      exact unconnected t dialed connected
    obtain ⟨start, begin, -⟩ := begins_eq slow
    simp only [begun, begin, Option.bind_some, Option.some.injEq, exists_eq_left']
    rcases tcp start with - | ⟨takes, err | dialed⟩ <;> simp [Future.start]

end Hawse.Proof.Client.Race
