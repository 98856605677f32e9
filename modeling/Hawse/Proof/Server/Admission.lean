import Hawse.Proof.Server.Limiter

/-!
# The failure limiter as the TCP accept loop drives it

`Shared::admit` begins an attempt and its `Unproven` ends it on drop; `Shared::auth_failed` charges
it at most once in between.
-/

namespace Hawse.Proof.Server
open Std (ExtTreeMap)
open Lib TokenBucket Hawse.Server Hawse.Server.Limiter

structure Attempt where
  ip : IpAddr
  charged : Bool
deriving DecidableEq

structure Desk where
  limiter : Limiter
  now : Nat
  attempts : List Attempt
  charges : List (IpAddr × Nat)

inductive Call
  | permits (ip : IpAddr)
  | begin (ip : IpAddr)
  | failed (ip : IpAddr)
  | finish (ip : IpAddr)

inductive Desk.Step : Desk → Call → Desk → Prop
  | permits {d : Desk} (now : Nat) (ip : IpAddr) (le : d.now ≤ now) :
      Step d (.permits ip) { d with limiter := (d.limiter.permits ip now).2, now }
  | begun {d : Desk} (now : Nat) (ip : IpAddr) (le : d.now ≤ now)
      (yes : (d.limiter.begin ip now).1 = true) :
      Step d (.begin ip)
        { d with limiter := (d.limiter.begin ip now).2, now, attempts := ⟨ip, false⟩ :: d.attempts }
  | refused {d : Desk} (now : Nat) (ip : IpAddr) (le : d.now ≤ now)
      (no : (d.limiter.begin ip now).1 = false) :
      Step d (.begin ip) { d with limiter := (d.limiter.begin ip now).2, now }
  | failed {d : Desk} {ip : IpAddr} (now : Nat) (before after : List Attempt) (le : d.now ≤ now)
      (held : d.attempts = before ++ ⟨ip, false⟩ :: after)
      (tracked : (d.limiter.failed ip now).1 ≠ .untracked) :
      Step d (.failed ip)
        { limiter := (d.limiter.failed ip now).2
          now
          attempts := before ++ ⟨ip, true⟩ :: after
          charges := (key ip, now) :: d.charges }
  | finish {d : Desk} {attempt : Attempt} (before after : List Attempt)
      (held : d.attempts = before ++ attempt :: after) :
      Step d (.finish attempt.ip)
        { d with limiter := d.limiter.finish attempt.ip, attempts := before ++ after }

def desk (perMinute : UInt32) : System Desk Call where
  initial d := ∃ now, d = ⟨Limiter.new perMinute, now, [], []⟩
  step := Desk.Step

def Desk.outstanding (d : Desk) (key : IpAddr) : Nat :=
  d.attempts.countP fun attempt => Limiter.key attempt.ip = key

def Desk.uncharged (d : Desk) (key : IpAddr) : Nat :=
  d.attempts.countP fun attempt => Limiter.key attempt.ip = key ∧ attempt.charged = false

theorem uncharged_le_outstanding (d : Desk) (key : IpAddr) : d.uncharged key ≤ d.outstanding key := by
  apply List.countP_mono_left
  intro attempt _ both
  simp only [decide_eq_true_eq] at both ⊢
  exact both.1

section Attempts

theorem countP_replace {α : Type} (p : α → Bool) (before after : List α) (x y : α) :
    (before ++ y :: after).countP p + (if p x then 1 else 0) =
      (before ++ x :: after).countP p + (if p y then 1 else 0) := by
  simp only [List.countP_append, List.countP_cons]
  omega

variable {d : Desk} {before after : List Attempt} {attempt : Attempt}

theorem uncharged_begin (d rest : Desk) (ip key : IpAddr) :
    Desk.uncharged { rest with attempts := ⟨ip, false⟩ :: d.attempts } key =
      d.uncharged key + if Limiter.key ip = key then 1 else 0 := by
  simp [Desk.uncharged, List.countP_cons]

theorem outstanding_begin (d rest : Desk) (ip key : IpAddr) :
    Desk.outstanding { rest with attempts := ⟨ip, false⟩ :: d.attempts } key =
      d.outstanding key + if Limiter.key ip = key then 1 else 0 := by
  simp [Desk.outstanding, List.countP_cons]

theorem outstanding_charge {ip : IpAddr} (held : d.attempts = before ++ ⟨ip, false⟩ :: after)
    (rest : Desk) (key : IpAddr) :
    Desk.outstanding { rest with attempts := before ++ ⟨ip, true⟩ :: after } key = d.outstanding key := by
  have := countP_replace (fun a : Attempt => decide (Limiter.key a.ip = key)) before after
    ⟨ip, false⟩ ⟨ip, true⟩
  unfold Desk.outstanding
  rw [held]
  simpa using this

theorem uncharged_charge {ip : IpAddr} (held : d.attempts = before ++ ⟨ip, false⟩ :: after)
    (rest : Desk) (key : IpAddr) :
    Desk.uncharged { rest with attempts := before ++ ⟨ip, true⟩ :: after } key +
      (if Limiter.key ip = key then 1 else 0) = d.uncharged key := by
  have := countP_replace
    (fun a : Attempt => decide (Limiter.key a.ip = key ∧ a.charged = false)) before after
    ⟨ip, false⟩ ⟨ip, true⟩
  unfold Desk.uncharged
  rw [held]
  simpa using this

theorem outstanding_drop (held : d.attempts = before ++ attempt :: after) (rest : Desk) (key : IpAddr) :
    Desk.outstanding { rest with attempts := before ++ after } key +
      (if Limiter.key attempt.ip = key then 1 else 0) = d.outstanding key := by
  unfold Desk.outstanding
  rw [held]
  simp only [List.countP_append, List.countP_cons, decide_eq_true_eq]
  omega

theorem uncharged_drop (held : d.attempts = before ++ attempt :: after) (rest : Desk) (key : IpAddr) :
    Desk.uncharged { rest with attempts := before ++ after } key ≤ d.uncharged key := by
  unfold Desk.uncharged
  rw [held]
  simp only [List.countP_append, List.countP_cons]
  omega

end Attempts

section Failure
variable {l : Limiter} {now : Nat} {ip : IpAddr}

theorem failed_charges (enabled : l.perMinute ≠ 0) (sound : Sound l now)
    (tracked : (l.failed ip now).1 ≠ .untracked) :
    ∃ swept, l.failed ip now = swept.charge (key ip) now ∧ Sound swept now ∧
      swept.perMinute = l.perMinute ∧ swept.pending = l.pending ∧
      (∀ other, level swept other now = level l other now) ∧
      ∀ other, tokens l other ≤ tokens swept other := by
  rcases failed_eq_charge enabled tracked with eq | eq
  · exact ⟨l, eq, sound, rfl, rfl, fun _ => rfl, fun _ => le_rfl⟩
  · exact ⟨l.sweep now, eq, sweep_sound sound, rfl, rfl, level_sweep sound le_rfl, tokens_sweep sound⟩

theorem charge_perMinute (l : Limiter) (key : IpAddr) : (l.charge key now).2.perMinute = l.perMinute := by
  obtain ⟨warned, eq⟩ := charge_eq l key now
  rw [eq]

theorem charge_pending (l : Limiter) (key : IpAddr) : (l.charge key now).2.pending = l.pending := by
  obtain ⟨warned, eq⟩ := charge_eq l key now
  rw [eq]

end Failure

structure Desk.Inv (perMinute : UInt32) (d : Desk) : Prop where
  fixed : d.limiter.perMinute = perMinute
  sound : Sound d.limiter d.now
  covered : ∀ key, (d.uncharged key : ℚ) ≤ tokens d.limiter key
  pending : ∀ key, pendingOf d.limiter key = d.outstanding key

section Steps
variable {perMinute : UInt32} {d next : Desk} {call : Call}

theorem sound_congr {l l' : Limiter} {now : Nat} (same : l'.buckets = l.buckets)
    (rate : l'.perMinute = l.perMinute) (sound : Sound l now) : Sound l' now := by
  have capacity : l'.capacity = l.capacity := by simp only [Limiter.capacity, rate]
  refine ⟨?_, ?_, ?_⟩ <;> rw [same]
  · exact sound.past
  · exact sound.nonneg
  · rw [capacity]
    exact sound.bounded

theorem tokens_congr {l l' : Limiter} (same : l'.buckets = l.buckets)
    (rate : l'.perMinute = l.perMinute) (key : IpAddr) : tokens l' key = tokens l key := by
  simp only [tokens, Limiter.capacity, same, rate]

theorem level_congr {l l' : Limiter} (same : l'.buckets = l.buckets)
    (rate : l'.perMinute = l.perMinute) (key : IpAddr) (now : Nat) :
    level l' key now = level l key now := by
  simp only [level, Limiter.capacity, same, rate]

theorem covered_touch (inv : d.Inv perMinute) {now : Nat} (ip key : IpAddr) :
    (d.uncharged key : ℚ) ≤ tokens (d.limiter.touch ip now) key := by
  rw [tokens_touch]
  split_ifs
  · exact (inv.covered key).trans (tokens_le_level inv.sound _)
  · exact inv.covered key

theorem uncharged_pos (inv : d.Inv perMinute) {ip : IpAddr} {before after : List Attempt}
    (held : d.attempts = before ++ ⟨ip, false⟩ :: after) (now : Nat) :
    1 ≤ level d.limiter (key ip) now := by
  have count := uncharged_charge held d (key ip)
  simp only [↓reduceIte] at count
  have one : (1 : ℚ) ≤ d.uncharged (key ip) := by
    rw [← count]
    push_cast
    linarith [Nat.cast_nonneg (α := ℚ) (Desk.uncharged
      { d with attempts := before ++ ⟨ip, true⟩ :: after } (key ip))]
  exact one.trans ((inv.covered _).trans (tokens_le_level inv.sound _))

theorem begin_inv (on : d.limiter.perMinute ≠ 0) (inv : d.Inv perMinute) {now : Nat} {ip : IpAddr}
    (le : d.now ≤ now) (yes : (d.limiter.begin ip now).1 = true) :
    Desk.Inv perMinute
      { d with limiter := (d.limiter.begin ip now).2, now, attempts := ⟨ip, false⟩ :: d.attempts } := by
  obtain ⟨enough, eq⟩ := begin_granted on yes
  rw [eq]
  have below : pendingOf d.limiter (key ip) + 1 ≤ perMinute.toNat := by
    have bound := level_le_capacity d.limiter (key ip) now
    unfold Limiter.capacity at bound
    rw [inv.fixed] at bound
    have : (pendingOf d.limiter (key ip) : ℚ) + 1 ≤ perMinute.toNat := by linarith
    exact_mod_cast this
  have grown : (d.limiter.pending[key ip]?.getD 0 + 1).toNat = pendingOf d.limiter (key ip) + 1 := by
    rw [UInt32.toNat_add]
    exact Nat.mod_eq_of_lt (lt_of_le_of_lt below perMinute.toNat_lt)
  refine ⟨inv.fixed, sound_congr (l := d.limiter.touch (key ip) now) rfl rfl
    (touch_sound (inv.sound.wait le)), ?_, ?_⟩
  · intro other
    change (Desk.uncharged { d with attempts := ⟨ip, false⟩ :: d.attempts } other : ℚ) ≤
      tokens (d.limiter.touch (key ip) now) other
    rw [uncharged_begin]
    by_cases same : key ip = other
    · subst same
      have pending : (d.uncharged (key ip) : ℚ) ≤ pendingOf d.limiter (key ip) := by
        rw [inv.pending]
        exact_mod_cast uncharged_le_outstanding d (key ip)
      rw [tokens_touch]
      simp only [↓reduceIte]
      push_cast
      linarith
    · simp only [same, ↓reduceIte, add_zero]
      exact covered_touch inv _ other
  · intro other
    rw [pendingOf_insert, grown]
    change _ = Desk.outstanding { d with attempts := ⟨ip, false⟩ :: d.attempts } other
    rw [outstanding_begin, ← inv.pending]
    split_ifs with same
    · rw [same]
    · rfl

theorem failed_inv (on : d.limiter.perMinute ≠ 0) (inv : d.Inv perMinute) {now : Nat} {ip : IpAddr}
    {before after : List Attempt} (le : d.now ≤ now) (held : d.attempts = before ++ ⟨ip, false⟩ :: after)
    (tracked : (d.limiter.failed ip now).1 ≠ .untracked) :
    Desk.Inv perMinute ⟨(d.limiter.failed ip now).2, now, before ++ ⟨ip, true⟩ :: after,
      (key ip, now) :: d.charges⟩ := by
  obtain ⟨swept, eq, sound, rate, pending, levels, rising⟩ :=
    failed_charges on (inv.sound.wait le) tracked
  have enough := uncharged_pos inv held now
  refine ⟨?_, ?_, ?_, ?_⟩
  · rw [eq, charge_perMinute, rate, inv.fixed]
  · rw [eq]
    exact charge_sound sound
  · intro other
    have count := uncharged_charge held
      ⟨(d.limiter.failed ip now).2, now, [], (key ip, now) :: d.charges⟩ other
    have left : tokens (d.limiter.failed ip now).2 other =
        if key ip = other then max (level d.limiter (key ip) now - 1) 0 else tokens swept other := by
      rw [eq, tokens_charge, levels]
    simp only [left]
    by_cases same : key ip = other
    · subst same
      simp only [↓reduceIte] at count ⊢
      apply le_max_of_le_left
      have covered := (inv.covered (key ip)).trans (tokens_le_level inv.sound now)
      rw [← count] at covered
      push_cast at covered
      linarith
    · simp only [same, ↓reduceIte, add_zero] at count ⊢
      rw [count]
      exact (inv.covered other).trans (rising other)
  · intro other
    have same : pendingOf (d.limiter.failed ip now).2 other = pendingOf d.limiter other := by
      simp only [pendingOf, eq, charge_pending, pending]
    rw [same, inv.pending]
    exact (outstanding_charge held d other).symm

theorem finish_inv (inv : d.Inv perMinute) {attempt : Attempt} {before after : List Attempt}
    (held : d.attempts = before ++ attempt :: after) :
    Desk.Inv perMinute { d with limiter := d.limiter.finish attempt.ip, attempts := before ++ after } := by
  refine ⟨?_, ?_, ?_, ?_⟩
  · rw [finish_perMinute, inv.fixed]
  · exact sound_congr finish_buckets finish_perMinute inv.sound
  · intro other
    rw [tokens_congr finish_buckets finish_perMinute]
    exact le_trans (Nat.cast_le.mpr (uncharged_drop held d other)) (inv.covered other)
  · intro other
    have count := outstanding_drop held d other
    have some : 1 ≤ pendingOf d.limiter (key attempt.ip) := by
      have count := outstanding_drop held d (key attempt.ip)
      simp only [↓reduceIte] at count
      rw [inv.pending]
      omega
    rw [pendingOf_finish some, inv.pending]
    split_ifs at count ⊢ with same
    · exact Nat.sub_eq_of_eq_add count.symm
    · exact count.symm

theorem step_inv (enabled : perMinute ≠ 0) (inv : d.Inv perMinute) (step : d.Step call next) :
    next.Inv perMinute := by
  have on : d.limiter.perMinute ≠ 0 := inv.fixed ▸ enabled
  cases step with
  | permits now ip le =>
      rw [permits_eq on]
      exact ⟨inv.fixed, touch_sound (inv.sound.wait le), covered_touch inv _, inv.pending⟩
  | refused now ip le no =>
      rw [begin_refused on no]
      exact ⟨inv.fixed, touch_sound (inv.sound.wait le), covered_touch inv _, inv.pending⟩
  | begun now ip le yes => exact begin_inv on inv le yes
  | failed now before after le held tracked => exact failed_inv on inv le held tracked
  | finish before after held => exact finish_inv inv held

theorem failed_level (enabled : perMinute ≠ 0) (inv : d.Inv perMinute) {now : Nat} {ip : IpAddr}
    {before after : List Attempt} (le : d.now ≤ now)
    (held : d.attempts = before ++ ⟨ip, false⟩ :: after)
    (tracked : (d.limiter.failed ip now).1 ≠ .untracked) (other : IpAddr) :
    level (d.limiter.failed ip now).2 other now =
      level d.limiter other now - if key ip = other then 1 else 0 := by
  obtain ⟨swept, eq, -, -, -, levels, -⟩ :=
    failed_charges (inv.fixed ▸ enabled) (inv.sound.wait le) tracked
  have enough := uncharged_pos inv held now
  rw [← levels] at enough
  rw [eq, ← levels]
  split_ifs with same
  · subst same
    exact level_charge_self enough
  · rw [level_charge_of_ne same, sub_zero]

theorem step_levels (enabled : perMinute ≠ 0) (inv : d.Inv perMinute) (step : d.Step call next) :
    d.now ≤ next.now ∧
    ((next.charges = d.charges ∧
        ∀ other, level next.limiter other next.now = level d.limiter other next.now) ∨
      ∃ charged, next.charges = (charged, next.now) :: d.charges ∧
        ∀ other, level next.limiter other next.now =
          level d.limiter other next.now - if charged = other then 1 else 0) := by
  have on : d.limiter.perMinute ≠ 0 := inv.fixed ▸ enabled
  cases step with
  | permits now ip le =>
      rw [permits_eq on]
      exact ⟨le, Or.inl ⟨rfl, level_touch (inv.sound.wait le) le_rfl⟩⟩
  | refused now ip le no =>
      rw [begin_refused on no]
      exact ⟨le, Or.inl ⟨rfl, level_touch (inv.sound.wait le) le_rfl⟩⟩
  | begun now ip le yes =>
      rw [(begin_granted on yes).2]
      exact ⟨le, Or.inl ⟨rfl, level_touch (inv.sound.wait le) le_rfl⟩⟩
  | failed now before after le held tracked =>
      exact ⟨le, Or.inr ⟨_, rfl, failed_level enabled inv le held tracked⟩⟩
  | finish before after held =>
      exact ⟨le_rfl, Or.inl ⟨rfl, fun other => level_congr finish_buckets finish_perMinute other _⟩⟩

end Steps

section Interval

def Desk.chargesIn (d : Desk) (key : IpAddr) (start stop : Nat) : Nat :=
  d.charges.countP fun charge => charge.1 = key ∧ start ≤ charge.2 ∧ charge.2 ≤ stop

/-- `per_minute + per_minute * T / 60`. -/
def allowance (perMinute : UInt32) (duration : Nat) : ℚ :=
  perMinute.toNat + perMinute.toNat * asSecs duration / 60

structure Desk.Spent (perMinute : UInt32) (key : IpAddr) (start stop : Nat) (d : Desk) : Prop where
  before : d.now < start → d.chargesIn key start stop = 0
  within : start ≤ d.now → d.now ≤ stop →
    d.chargesIn key start stop + level d.limiter key d.now ≤ allowance perMinute (d.now - start)
  after : stop < d.now → (d.chargesIn key start stop : ℚ) ≤ allowance perMinute (stop - start)

variable {perMinute : UInt32} {d next : Desk} {call : Call} {key : IpAddr} {start stop : Nat}

theorem allowance_wait (perMinute : UInt32) {first second third : Nat} (le₁ : first ≤ second) (le₂ : second ≤ third) :
    allowance perMinute (third - first) =
      allowance perMinute (second - first) + rate perMinute.toNat * asSecs (third - second) := by
  simp only [allowance, asSecs_add le₁ le₂, rate, window]
  ring

theorem allowance_mono (perMinute : UInt32) {first second : Nat} (le : first ≤ second) :
    allowance perMinute first ≤ allowance perMinute second := by
  have split := allowance_wait perMinute (Nat.zero_le first) le
  simp only [Nat.sub_zero] at split
  rw [split]
  exact le_add_of_nonneg_right (mul_nonneg (rate_nonneg (by positivity)) (asSecs_nonneg _))

theorem spent_wait (inv : d.Inv perMinute) (spent : d.Spent perMinute key start stop) {now : Nat}
    (le : d.now ≤ now) (running : now ≤ stop) :
    d.chargesIn key start stop + level d.limiter key now ≤ allowance perMinute (now - start) := by
  have capacity : d.limiter.capacity = perMinute.toNat := by simp only [Limiter.capacity, inv.fixed]
  by_cases early : d.now < start
  · rw [spent.before early]
    have full := level_le_capacity d.limiter key now
    have room := allowance_mono perMinute (Nat.zero_le (now - start))
    rw [capacity] at full
    simp only [allowance, asSecs, Nat.cast_zero, zero_div, mul_zero, add_zero, zero_add] at full room ⊢
    exact full.trans room
  · have grown := level_wait inv.sound key le
    have held := spent.within (not_lt.mp early) (le.trans running)
    rw [capacity] at grown
    rw [allowance_wait perMinute (not_lt.mp early) le]
    linarith

theorem spent_after (inv : d.Inv perMinute) (spent : d.Spent perMinute key start stop) :
    (d.chargesIn key start stop : ℚ) ≤ allowance perMinute (stop - start) := by
  by_cases passed : stop < d.now
  · exact spent.after passed
  · have held := spent_wait inv spent (not_lt.mp passed) le_rfl
    linarith [level_nonneg inv.sound key stop]

theorem step_spent (enabled : perMinute ≠ 0) (inv : d.Inv perMinute)
    (spent : d.Spent perMinute key start stop) (step : d.Step call next) :
    next.Spent perMinute key start stop := by
  obtain ⟨le, ⟨same, levels⟩ | ⟨charged, grown, levels⟩⟩ := step_levels enabled inv step
  · have count : next.chargesIn key start stop = d.chargesIn key start stop := by
      simp only [Desk.chargesIn, same]
    refine ⟨?_, ?_, ?_⟩ <;> rw [count]
    · intro early
      exact spent.before (lt_of_le_of_lt le early)
    · intro _ running
      rw [levels]
      exact spent_wait inv spent le running
    · intro _
      exact spent_after inv spent
  · have count : next.chargesIn key start stop = d.chargesIn key start stop +
        if charged = key ∧ start ≤ next.now ∧ next.now ≤ stop then 1 else 0 := by
      simp [Desk.chargesIn, grown, List.countP_cons]
    refine ⟨?_, ?_, ?_⟩
    · intro early
      rw [count, spent.before (lt_of_le_of_lt le early), if_neg (by omega)]
    · intro began running
      have held := spent_wait inv spent le running
      rw [count, levels]
      by_cases same : charged = key
      · simp only [same, began, running, and_self, ↓reduceIte]
        push_cast
        linarith
      · simpa [same] using held
    · intro passed
      rw [count, if_neg (by omega)]
      exact spent_after inv spent

end Interval

theorem reachable_inv {perMinute : UInt32} (enabled : perMinute ≠ 0) {d : Desk}
    (reachable : (desk perMinute).Reachable d) : d.Inv perMinute := by
  refine reachable.invariant (Desk.Inv perMinute) ?_
    fun _ _ _ _ inv step => step_inv enabled inv step
  rintro _ ⟨now, rfl⟩
  refine ⟨rfl, ⟨?_, ?_, ?_⟩, ?_, fun _ => rfl⟩
  all_goals intro key
  all_goals first
    | intro _ stored
      simp [Limiter.new] at stored
    | simp [Desk.uncharged, tokens, Limiter.new, Limiter.capacity]

theorem reachable_spent {perMinute : UInt32} (enabled : perMinute ≠ 0) {d : Desk} (key : IpAddr)
    (start stop : Nat) (reachable : (desk perMinute).Reachable d) :
    d.Spent perMinute key start stop := by
  refine reachable.invariant (Desk.Spent perMinute key start stop) ?_ fun _ _ _ before spent step =>
    step_spent enabled (reachable_inv enabled before) spent step
  rintro _ ⟨now, rfl⟩
  refine ⟨fun _ => rfl, ?_, ?_⟩
  · intro _ _
    have room := allowance_mono perMinute (Nat.zero_le (now - start))
    simpa [Desk.chargesIn, level, Limiter.new, Limiter.capacity, allowance, asSecs] using room
  · intro _
    have room := allowance_mono perMinute (Nat.zero_le (stop - start))
    refine le_trans ?_ room
    simp [Desk.chargesIn, allowance, asSecs]

/-- Every attempt under way is covered by a token, so no failure is ever charged to an empty
bucket. -/
theorem failures_bounded {perMinute : UInt32} (enabled : 0 < perMinute) {d : Desk}
    (reachable : (desk perMinute).Reachable d) :
    (∀ key, (d.uncharged key : ℚ) ≤ tokens d.limiter key) ∧
    (∀ attempt ∈ d.attempts, attempt.charged = false → ∀ now, d.now ≤ now →
      (d.limiter.failed attempt.ip now).1 ≠ .untracked →
      (d.limiter.failed attempt.ip now = d.limiter.charge (key attempt.ip) now ∨
        d.limiter.failed attempt.ip now = (d.limiter.sweep now).charge (key attempt.ip) now) ∧
      0 ≤ (d.limiter.account (key attempt.ip) now).tokens - 1 ∧
      0 ≤ ((d.limiter.sweep now).account (key attempt.ip) now).tokens - 1) ∧
    (∀ key start duration, (d.chargesIn key start (start + duration) : ℚ) ≤
      perMinute.toNat + perMinute.toNat * asSecs duration / 60) ∧
    (∀ key, pendingOf d.limiter key = d.outstanding key) ∧
    ∀ attempt ∈ d.attempts, 1 ≤ pendingOf d.limiter (key attempt.ip) := by
  have on : perMinute ≠ 0 := by
    rintro rfl
    exact absurd enabled (by decide)
  have inv := reachable_inv on reachable
  refine ⟨inv.covered, ?_, ?_, inv.pending, ?_⟩
  · rintro ⟨ip, _⟩ member rfl now le tracked
    obtain ⟨before, after, held⟩ := List.append_of_mem member
    have enough := uncharged_pos inv held now
    refine ⟨failed_eq_charge (inv.fixed ▸ on) tracked, ?_, ?_⟩
    · rw [level_account]
      linarith
    · rw [level_account, level_sweep (inv.sound.wait le) le_rfl]
      linarith
  · intro key start duration
    have spent := reachable_spent on key start (start + duration) reachable
    have bound := spent_after inv spent
    rwa [Nat.add_sub_cancel_left] at bound
  · intro attempt member
    rw [inv.pending]
    exact List.countP_pos_iff.mpr ⟨attempt, member, by simp⟩

theorem failures_bounded_twice :
    let ip := IpAddr.v4 0xc0000201#32
    ∃ d, (desk 2).Reachable d ∧ d.attempts = [⟨ip, false⟩, ⟨ip, true⟩] ∧
      (d.uncharged ip : ℚ) ≤ tokens d.limiter ip ∧ pendingOf d.limiter ip = 2 := by
  intro ip
  let first : Desk := ⟨Limiter.new 2, 0, [], []⟩
  have start : (desk 2).Reachable first := .initial ⟨0, rfl⟩
  have second := start.next (Desk.Step.begun (d := first) 5 ip (by decide) (by decide +kernel))
  have third := second.next (Desk.Step.begun 6 ip (by decide) (by decide +kernel))
  have fourth := third.next (Desk.Step.failed 7 [⟨ip, false⟩] [] (by decide) rfl
    (by decide +kernel))
  have bound := failures_bounded (by decide) fourth
  exact ⟨_, fourth, rfl, bound.1 ip, (bound.2.2.2.1 ip).trans (by decide)⟩

end Hawse.Proof.Server
