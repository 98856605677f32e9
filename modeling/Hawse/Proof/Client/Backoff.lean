import Hawse.Client.Backoff

namespace Hawse.Proof.Client.Backoff
open Lib Hawse.Client Hawse.Client.Backoff

/-- The wait of the `k`-th rung, before its draw. -/
def rung (k : Nat) : ℚ := min (2 ^ k) 30

theorem rung_nonneg (k : Nat) : 0 ≤ rung k := le_min (by positivity) (by norm_num)

theorem rung_le (k : Nat) : rung k ≤ 30 := min_le_right _ _

theorem rung_top {k : Nat} (high : 5 ≤ k) : rung k = 30 := by
  have power : (2 : ℚ) ^ 5 ≤ 2 ^ k := pow_le_pow_right₀ (by norm_num) high
  exact min_eq_right (le_trans (by norm_num) power)

/-- The count that saturated and the power that did are past the cap by far. -/
theorem rung_saturated (n : Nat) : rung (min n (2 ^ 32 - 1)) = rung n := by
  by_cases small : n ≤ 2 ^ 32 - 1
  · rw [min_eq_left small]
  · rw [rung_top (by omega), rung_top (by omega)]

theorem power_le (failures : UInt32) : ((power failures : Nat) : ℚ) ≤ durationMax := by
  have capped : power failures ≤ 4294967295 := Nat.min_le_right _ _
  calc ((power failures : Nat) : ℚ) ≤ (4294967295 : Nat) := Nat.cast_le.mpr capped
    _ ≤ durationMax := by norm_num [durationMax]

theorem step_eq (failures : UInt32) : min (saturatingMul first (power failures)) cap = rung failures.toNat := by
  rw [saturatingMul, first, one_mul, min_eq_left (power_le failures), power, rung, cap, Nat.cast_min, min_assoc]
  congr 1
  push_cast
  rfl

theorem another_toNat (failures : UInt32) : (another failures).toNat = min (failures.toNat + 1) (2 ^ 32 - 1) := by
  have small := failures.toNat_lt
  unfold another
  split
  · omega
  · rw [UInt32.toNat_add]
    simp only [UInt32.reduceToNat]
    omega

def Drawn (failure : Failure) : Prop := 0 ≤ failure.unit ∧ failure.unit ≤ 1

/-- A ladder after `n` failures since it last started. -/
def Climbed (backoff : Backoff) (n : Nat) : Prop := backoff.failures.toNat = min n (2 ^ 32 - 1)

def OnRung (k : Nat) (wait : ℚ) : Prop := rung k / 2 ≤ wait ∧ wait ≤ rung k

/-- The rung a failure takes, from the failures before it. -/
def taken (n : Nat) (failure : Failure) : Nat := if healthy ≤ failure.lasted then 0 else n

theorem mulF64_rung {k : Nat} {unit : ℚ} (low : 0 ≤ unit) (high : unit ≤ 1) :
    ∃ wait, mulF64 (rung k) (1 / 2 + 1 / 2 * unit) = some wait ∧ OnRung k wait := by
  have nonneg := rung_nonneg k
  have least : rung k / 2 ≤ rung k * (1 / 2 + 1 / 2 * unit) := by nlinarith
  have most : rung k * (1 / 2 + 1 / 2 * unit) ≤ rung k := by nlinarith
  have fits : rung k ≤ durationMax := (rung_le k).trans (by norm_num [durationMax])
  exact ⟨_, if_pos ⟨(by positivity : 0 ≤ rung k / 2).trans least, most.trans fits⟩, least, most⟩

theorem next_spec {backoff : Backoff} {n : Nat} (climbed : Climbed backoff n) {failure : Failure} (drawn : Drawn failure) :
    ∃ wait after, backoff.next failure.lasted failure.unit = some (wait, after) ∧
      OnRung (taken n failure) wait ∧ Climbed after (taken n failure + 1) := by
  have counted : (if healthy ≤ failure.lasted then 0 else backoff.failures).toNat =
      min (taken n failure) (2 ^ 32 - 1) := by
    unfold taken
    split
    · rfl
    · exact climbed
  obtain ⟨wait, product, onRung⟩ := mulF64_rung (k := taken n failure) drawn.1 drawn.2
  refine ⟨wait, ⟨another (if healthy ≤ failure.lasted then 0 else backoff.failures)⟩, ?_, onRung, ?_⟩
  · simp only [next, step_eq, counted, rung_saturated, product, Option.map_some]
  · rw [Climbed, another_toNat, counted]
    omega

/-- The failures of a run since its ladder last started, the one that started it among them. -/
def since (failures : List Failure) : Nat := failures.foldl (fun n failure => taken n failure + 1) 0

theorem since_concat (failures : List Failure) (failure : Failure) :
    since (failures ++ [failure]) = taken (since failures) failure + 1 := by
  simp [since]

theorem since_climb {before climb : List Failure} {up : Failure} (start : before = [] ∨ healthy ≤ up.lasted)
    (short : ∀ failure ∈ climb, failure.lasted < healthy) : since (before ++ up :: climb) = climb.length + 1 := by
  induction climb using List.reverseRecOn with
  | nil =>
      rw [since_concat]
      rcases start with rfl | long
      · simp [taken, since]
      · simp [taken, long]
  | append_singleton climb last ih =>
      have below : ¬ healthy ≤ last.lasted := not_le.mpr (short last (by simp))
      have whole : before ++ up :: (climb ++ [last]) = (before ++ up :: climb) ++ [last] := by simp
      rw [whole, since_concat, ih fun failure member => short failure (by simp [member]), taken, if_neg below]
      simp

/-! ## Runs -/

theorem run_concat {backoff middle after : Backoff} {failures : List Failure} {failure : Failure} {waits : List ℚ}
    {wait : ℚ} (ran : run backoff (failures.map .failed) = some (waits, middle))
    (taken : middle.next failure.lasted failure.unit = some (wait, after)) :
    run backoff ((failures ++ [failure]).map .failed) = some (waits ++ [wait], after) := by
  induction failures generalizing backoff waits with
  | nil =>
      cases ran
      simp [run, taken]
  | cons head failures ih =>
      simp only [List.map_cons, run, bind, Option.bind_eq_some_iff, Option.some.injEq] at ran
      obtain ⟨⟨firstWait, next⟩, stepped, ⟨rest, last⟩, ran, same⟩ := ran
      cases same
      have further := ih ran
      simp only [List.cons_append, List.map_cons, run, stepped, bind, Option.bind_some, further]

theorem run_spec (failures : List Failure) (drawn : ∀ failure ∈ failures, Drawn failure) :
    ∃ waits backoff, run default (failures.map .failed) = some (waits, backoff) ∧
      waits.length = failures.length ∧ Climbed backoff (since failures) := by
  induction failures using List.reverseRecOn with
  | nil => exact ⟨[], default, rfl, rfl, rfl⟩
  | append_singleton failures failure ih =>
      obtain ⟨waits, middle, ran, count, climbed⟩ := ih fun f member => drawn f (by simp [member])
      obtain ⟨wait, after, stepped, _, next⟩ := next_spec climbed (drawn failure (by simp))
      refine ⟨waits ++ [wait], after, run_concat ran stepped, by simp [count], ?_⟩
      rw [since_concat]
      exact next

theorem run_last (failures : List Failure) (failure : Failure) (drawn : ∀ f ∈ failures ++ [failure], Drawn f) :
    ∃ waits wait backoff, run default ((failures ++ [failure]).map .failed) = some (waits ++ [wait], backoff) ∧
      waits.length = failures.length ∧ OnRung (since (failures ++ [failure]) - 1) wait := by
  obtain ⟨waits, middle, ran, count, climbed⟩ := run_spec failures fun f member => drawn f (by simp [member])
  obtain ⟨wait, after, stepped, onRung, _⟩ := next_spec climbed (drawn failure (by simp))
  refine ⟨waits, wait, after, run_concat ran stepped, count, ?_⟩
  rw [since_concat]
  exact onRung

/-! ## Two clients -/

structure Held (rival : Rival) : Prop where
  capped : rival.wait ≤ cap
  counted : min rival.failed (2 ^ 32 - 1) ≤ rival.backoff.failures.toNat
  high : 6 ≤ rival.failed → 15 ≤ rival.wait

theorem superseded_short {s : Side → Rival} (held : ∀ side, Held (s side)) {side : Side} {failure : Failure}
    (superseded : Superseded s side failure) : failure.lasted < healthy :=
  calc failure.lasted ≤ (s side.rival).wait := superseded
    _ ≤ cap := (held side.rival).capped
    _ < healthy := by norm_num [cap, healthy]

theorem Held.fail {rival after : Rival} (held : Held rival) {failure : Failure} (drawn : Drawn failure)
    (short : failure.lasted < healthy) (failed : rival.fail failure = some after) : Held after := by
  have small := rival.backoff.failures.toNat_lt
  have climbed : Climbed rival.backoff rival.backoff.failures.toNat := by
    rw [Climbed]
    omega
  obtain ⟨wait, backoff, stepped, onRung, next⟩ := next_spec climbed drawn
  have rungs : taken rival.backoff.failures.toNat failure = rival.backoff.failures.toNat := if_neg (not_le.mpr short)
  rw [rungs] at onRung next
  simp only [Rival.fail, stepped, Option.map_some, Option.some.injEq] at failed
  subst failed
  have counted := held.counted
  refine ⟨onRung.2.trans (rung_le _), ?_, ?_⟩
  · rw [Climbed] at next
    simp only
    omega
  · intro sixth
    have top : rung rival.backoff.failures.toNat = 30 := rung_top (by simp only at sixth; omega)
    have half := onRung.1
    rw [top] at half
    exact le_trans (by norm_num) half

theorem rivals_held {s : Side → Rival} (reachable : rivals.Reachable s) : ∀ side, Held (s side) := by
  refine reachable.invariant (fun s => ∀ side, Held (s side)) ?_ ?_
  · intro s start side
    obtain ⟨capped, fresh⟩ := start side
    exact ⟨capped, by simp [fresh], by simp [fresh]⟩
  · rintro s ⟨side, failure⟩ t _ held ⟨superseded, low, high, rival, failed, rfl⟩ which
    by_cases same : which = side
    · subst same
      rw [Function.update_self]
      exact (held which).fail ⟨low, high⟩ (superseded_short held superseded) failed
    · rw [Function.update_of_ne same]
      exact held which

theorem backoff_ladder :
    (∀ (before : List Failure) (up : Failure) (climb : List Failure),
      (∀ failure ∈ before ++ up :: climb, 0 ≤ failure.unit ∧ failure.unit ≤ 1) →
      (before = [] ∨ healthy ≤ up.lasted) → (∀ failure ∈ climb, failure.lasted < healthy) →
      ∃ waits wait backoff,
        run default ((before ++ up :: climb).map .failed) = some (waits ++ [wait], backoff) ∧
        waits.length = before.length + climb.length ∧
        min (2 ^ climb.length) 30 / 2 ≤ wait ∧ wait ≤ min (2 ^ climb.length) 30) ∧
    ∀ s, rivals.Reachable s → ∀ side,
      (∀ failure, Superseded s side failure → failure.lasted < healthy) ∧
      (6 ≤ (s side).failed → 15 ≤ (s side).wait) := by
  refine ⟨?_, ?_⟩
  · intro before up climb drawn start short
    have rungs := since_climb start short
    obtain ⟨failures, last, whole⟩ : ∃ failures last, before ++ up :: climb = failures ++ [last] :=
      ⟨_, _, (List.dropLast_append_getLast (by simp)).symm⟩
    have lengths := congrArg List.length whole
    simp only [List.length_append, List.length_cons, List.length_nil] at lengths
    rw [whole] at drawn rungs ⊢
    obtain ⟨waits, wait, backoff, ran, count, onRung⟩ := run_last failures last drawn
    rw [rungs] at onRung
    exact ⟨waits, wait, backoff, ran, by omega, onRung.1, onRung.2⟩
  · intro s reachable side
    exact ⟨fun failure => superseded_short (rivals_held reachable), (rivals_held reachable side).high⟩

end Hawse.Proof.Client.Backoff
