import Hawse.Server.Limiter
import Hawse.Lib.System
import Hawse.Lib.TokenBucket

namespace Hawse.Proof.Server
open Std (ExtTreeMap)
open Lib TokenBucket Hawse.Server Hawse.Server.Limiter

section Level

theorem asSecs_nonneg (duration : Nat) : 0 ≤ asSecs duration := by
  unfold asSecs
  positivity

theorem asSecs_add {first second third : Nat} (le₁ : first ≤ second) (le₂ : second ≤ third) :
    asSecs (third - first) = asSecs (second - first) + asSecs (third - second) := by
  have split : third - first = (second - first) + (third - second) := by omega
  unfold asSecs
  rw [split, Nat.cast_add, add_div]

def rate (capacity : ℚ) : ℚ := capacity / window

theorem rate_nonneg {capacity : ℚ} (nonneg : 0 ≤ capacity) : 0 ≤ rate capacity :=
  div_nonneg nonneg (by norm_num [window])

theorem refill_tokens (bucket : Bucket) (capacity : ℚ) (now : Nat) :
    (bucket.refill capacity now).tokens =
      refilled capacity (rate capacity) bucket.tokens (asSecs (now - bucket.since)) := by
  simp only [Bucket.refill, refilled, rate]
  congr 2
  ring

@[simp] theorem refill_since (bucket : Bucket) (capacity : ℚ) (now : Nat) :
    (bucket.refill capacity now).since = now := rfl

theorem capacity_nonneg (l : Limiter) : 0 ≤ l.capacity := by
  unfold capacity
  positivity

/-- What a key's bucket holds as stored, a full one when it has none. -/
def tokens (l : Limiter) (key : IpAddr) : ℚ :=
  (l.buckets[key]?.map (·.tokens)).getD l.capacity

def level (l : Limiter) (key : IpAddr) (now : Nat) : ℚ :=
  (l.buckets[key]?.map fun bucket => (bucket.refill l.capacity now).tokens).getD l.capacity

structure Sound (l : Limiter) (now : Nat) : Prop where
  past : ∀ (key : IpAddr) (bucket : Bucket), l.buckets[key]? = some bucket → bucket.since ≤ now
  nonneg : ∀ (key : IpAddr) (bucket : Bucket), l.buckets[key]? = some bucket → 0 ≤ bucket.tokens
  bounded : ∀ (key : IpAddr) (bucket : Bucket), l.buckets[key]? = some bucket → bucket.tokens ≤ l.capacity

variable {l : Limiter} {now later : Nat} {key : IpAddr}

theorem level_none (absent : l.buckets[key]? = none) : level l key now = l.capacity := by
  simp [level, absent]

theorem level_some {bucket : Bucket} (present : l.buckets[key]? = some bucket) :
    level l key now = refilled l.capacity (rate l.capacity) bucket.tokens
      (asSecs (now - bucket.since)) := by
  simp [level, present, refill_tokens]

theorem tokens_le_level (sound : Sound l now) (later : Nat) : tokens l key ≤ level l key later := by
  cases stored : l.buckets[key]? with
  | none => simp [tokens, level, stored]
  | some bucket =>
      rw [level_some stored]
      simp only [tokens, stored, Option.map_some, Option.getD_some]
      exact le_refilled (rate_nonneg (capacity_nonneg l)) (sound.bounded _ _ stored) (asSecs_nonneg _)

theorem tokens_nonneg (sound : Sound l now) : 0 ≤ tokens l key := by
  cases stored : l.buckets[key]? with
  | none => simpa [tokens, stored] using capacity_nonneg l
  | some bucket => simpa [tokens, stored] using sound.nonneg _ _ stored

theorem level_nonneg (sound : Sound l now) (key : IpAddr) (later : Nat) : 0 ≤ level l key later :=
  (tokens_nonneg sound).trans (tokens_le_level sound later)

theorem level_le_capacity (l : Limiter) (key : IpAddr) (now : Nat) :
    level l key now ≤ l.capacity := by
  cases stored : l.buckets[key]? with
  | none => exact (level_none stored).le
  | some bucket =>
      rw [level_some stored]
      exact refilled_le_capacity _

theorem level_wait (sound : Sound l now) (key : IpAddr) (le : now ≤ later) :
    level l key later ≤ level l key now + rate l.capacity * asSecs (later - now) := by
  cases stored : l.buckets[key]? with
  | none =>
      rw [level_none stored, level_none stored]
      exact le_add_of_nonneg_right (mul_nonneg (rate_nonneg (capacity_nonneg l)) (asSecs_nonneg _))
  | some bucket =>
      rw [level_some stored, level_some stored, asSecs_add (sound.past _ _ stored) le]
      exact refilled_add_le (rate_nonneg (capacity_nonneg l)) (asSecs_nonneg _)

theorem level_refill {bucket : Bucket} (past : bucket.since ≤ now) (le : now ≤ later) :
    ((bucket.refill l.capacity now).refill l.capacity later).tokens =
      (bucket.refill l.capacity later).tokens := by
  simp only [refill_tokens, refill_since]
  rw [asSecs_add past le]
  exact refilled_refilled (rate_nonneg (capacity_nonneg l)) (asSecs_nonneg _)

end Level

section Operations
variable {l : Limiter} {now later : Nat} {key : IpAddr}

theorem touch_getElem? (other : IpAddr) :
    (l.touch key now).buckets[other]? =
      if key = other then l.buckets[other]?.map (·.refill l.capacity now) else l.buckets[other]? := by
  simp only [touch, ExtTreeMap.getElem?_modify, Std.compare_eq_iff_eq]
  split_ifs with same
  · rw [same]
  · rfl

theorem level_touch (sound : Sound l now) (le : now ≤ later) (other : IpAddr) :
    level (l.touch key now) other later = level l other later := by
  have capacity : (l.touch key now).capacity = l.capacity := rfl
  unfold level
  rw [touch_getElem?, capacity]
  split_ifs with same
  · cases stored : l.buckets[other]? with
    | none => rfl
    | some bucket => simp [level_refill (sound.past _ _ stored) le]
  · rfl

theorem tokens_touch (other : IpAddr) :
    tokens (l.touch key now) other = if key = other then level l other now else tokens l other := by
  have capacity : (l.touch key now).capacity = l.capacity := rfl
  unfold tokens level
  rw [touch_getElem?, capacity]
  split_ifs with same
  · cases l.buckets[other]? <;> rfl
  · rfl

theorem refill_sound {bucket : Bucket} (nonneg : 0 ≤ bucket.tokens) (bounded : bucket.tokens ≤ l.capacity) :
    0 ≤ (bucket.refill l.capacity now).tokens ∧ (bucket.refill l.capacity now).tokens ≤ l.capacity := by
  rw [refill_tokens]
  exact ⟨nonneg.trans (le_refilled (rate_nonneg (capacity_nonneg l)) bounded (asSecs_nonneg _)),
    refilled_le_capacity _⟩

theorem Sound.wait (sound : Sound l now) (le : now ≤ later) : Sound l later :=
  ⟨fun key bucket stored => (sound.past key bucket stored).trans le, sound.nonneg, sound.bounded⟩

theorem touch_sound (sound : Sound l now) : Sound (l.touch key now) now := by
  have entry (other : IpAddr) (bucket : Bucket) (stored : (l.touch key now).buckets[other]? = some bucket) :
      bucket.since ≤ now ∧ 0 ≤ bucket.tokens ∧ bucket.tokens ≤ l.capacity := by
    rw [touch_getElem?] at stored
    split_ifs at stored with same
    · obtain ⟨old, found, rfl⟩ := Option.map_eq_some_iff.mp stored
      exact ⟨le_rfl, refill_sound (sound.nonneg _ _ found) (sound.bounded _ _ found)⟩
    · exact ⟨sound.past _ _ stored, sound.nonneg _ _ stored, sound.bounded _ _ stored⟩
  exact ⟨fun k b h => (entry k b h).1, fun k b h => (entry k b h).2.1, fun k b h => (entry k b h).2.2⟩

theorem sweep_getElem? (other : IpAddr) :
    (l.sweep now).buckets[other]? = l.buckets[other]?.bind fun bucket =>
      if (bucket.refill l.capacity now).tokens < l.capacity
      then some (bucket.refill l.capacity now) else none := by
  simp only [sweep, ExtTreeMap.getElem?_filterMap']

theorem level_sweep (sound : Sound l now) (le : now ≤ later) (other : IpAddr) :
    level (l.sweep now) other later = level l other later := by
  have capacity : (l.sweep now).capacity = l.capacity := rfl
  cases stored : l.buckets[other]? with
  | none => rw [level_none (by simp [sweep_getElem?, stored]), level_none stored, capacity]
  | some bucket =>
      by_cases partly : (bucket.refill l.capacity now).tokens < l.capacity
      · simp only [level, sweep_getElem?, stored, Option.bind_some, partly, ↓reduceIte, capacity,
          Option.map_some, Option.getD_some]
        exact level_refill (sound.past _ _ stored) le
      · have full : (bucket.refill l.capacity now).tokens = l.capacity := by
          apply le_antisymm _ (not_lt.mp partly)
          rw [refill_tokens]
          exact refilled_le_capacity _
        rw [level_none (by simp [sweep_getElem?, stored, partly]), capacity]
        simp only [level, stored, Option.map_some, Option.getD_some]
        rw [← level_refill (sound.past _ _ stored) le, refill_tokens, full]
        exact (refilled_capacity (rate_nonneg (capacity_nonneg l)) (asSecs_nonneg _)).symm

theorem tokens_sweep (sound : Sound l now) (other : IpAddr) :
    tokens l other ≤ tokens (l.sweep now) other := by
  have capacity : (l.sweep now).capacity = l.capacity := rfl
  cases stored : l.buckets[other]? with
  | none => simp [tokens, sweep_getElem?, stored, capacity]
  | some bucket =>
      simp only [tokens, sweep_getElem?, stored, Option.bind_some, Option.map_some, Option.getD_some]
      split_ifs with partly
      · simp only [Option.map_some, Option.getD_some]
        rw [refill_tokens]
        exact le_refilled (rate_nonneg (capacity_nonneg l)) (sound.bounded _ _ stored) (asSecs_nonneg _)
      · simpa [capacity] using sound.bounded _ _ stored

theorem sweep_sound (sound : Sound l now) : Sound (l.sweep now) now := by
  have entry (other : IpAddr) (bucket : Bucket) (stored : (l.sweep now).buckets[other]? = some bucket) :
      bucket.since ≤ now ∧ 0 ≤ bucket.tokens ∧ bucket.tokens ≤ l.capacity := by
    rw [sweep_getElem?] at stored
    obtain ⟨old, found, kept⟩ := Option.bind_eq_some_iff.mp stored
    split_ifs at kept
    obtain rfl := Option.some.inj kept
    exact ⟨le_rfl, refill_sound (sound.nonneg _ _ found) (sound.bounded _ _ found)⟩
  exact ⟨fun k b h => (entry k b h).1, fun k b h => (entry k b h).2.1, fun k b h => (entry k b h).2.2⟩

theorem level_account : (l.account key now).tokens = level l key now := by
  cases stored : l.buckets[key]? with
  | none =>
      simp only [account, level, stored, Option.getD_none, refill_tokens, Nat.sub_self, Option.map_none]
      exact refilled_capacity (rate_nonneg (capacity_nonneg l)) (asSecs_nonneg _)
  | some bucket => simp [account, level, stored]

theorem charge_eq (l : Limiter) (key : IpAddr) (now : Nat) :
    ∃ warned, (l.charge key now).2 =
      { l with buckets := l.buckets.insert key ⟨max (level l key now - 1) 0, now, warned⟩ } := by
  rw [← level_account]
  unfold charge
  simp only
  split
  · exact ⟨_, rfl⟩
  · exact ⟨_, rfl⟩

theorem failed_eq_charge {ip : IpAddr} (enabled : l.perMinute ≠ 0)
    (tracked : (l.failed ip now).1 ≠ .untracked) :
    l.failed ip now = l.charge (Limiter.key ip) now ∨
      l.failed ip now = (l.sweep now).charge (Limiter.key ip) now := by
  unfold failed at tracked ⊢
  simp only [enabled, ↓reduceIte] at tracked ⊢
  split at tracked
  · rename_i crowded
    simp only [crowded]
    cases due : l.sweepDue now <;> simp only [due, Bool.false_eq_true, ↓reduceIte] at tracked ⊢
    all_goals split at tracked
    all_goals rename_i size
    all_goals first | exact absurd rfl tracked | simp [size]
  · rename_i spare
    simp [spare]

theorem level_charge_self (enough : 1 ≤ level l key now) :
    level (l.charge key now).2 key now = level l key now - 1 := by
  obtain ⟨warned, eq⟩ := charge_eq l key now
  have stored : (l.charge key now).2.buckets[key]? =
      some ⟨max (level l key now - 1) 0, now, warned⟩ := by
    rw [eq]
    exact ExtTreeMap.getElem?_insert_self
  have capacity : (l.charge key now).2.capacity = l.capacity := by
    rw [eq]
    rfl
  have clamp : max (level l key now - 1) 0 = level l key now - 1 := max_eq_left (by linarith)
  have zero : asSecs (now - now) = 0 := by simp [asSecs]
  rw [level_some stored, capacity, clamp, zero]
  apply refilled_zero
  linarith [level_le_capacity l key now]

theorem level_charge_of_ne {other : IpAddr} (differ : key ≠ other) :
    level (l.charge key now).2 other later = level l other later := by
  obtain ⟨warned, eq⟩ := charge_eq l key now
  rw [eq]
  simp [level, ExtTreeMap.getElem?_insert, differ, capacity]

theorem tokens_charge (other : IpAddr) : tokens (l.charge key now).2 other =
    if key = other then max (level l key now - 1) 0 else tokens l other := by
  obtain ⟨warned, eq⟩ := charge_eq l key now
  rw [eq]
  simp only [tokens, ExtTreeMap.getElem?_insert, Std.compare_eq_iff_eq, capacity]
  split_ifs <;> simp

theorem charge_sound (sound : Sound l now) :
    Sound (l.charge key now).2 now := by
  obtain ⟨warned, eq⟩ := charge_eq l key now
  have capacity : (l.charge key now).2.capacity = l.capacity := by rw [eq]; rfl
  have entry (other : IpAddr) (bucket : Bucket)
      (stored : (l.charge key now).2.buckets[other]? = some bucket) :
      bucket.since ≤ now ∧ 0 ≤ bucket.tokens ∧ bucket.tokens ≤ l.capacity := by
    rw [eq] at stored
    simp only [ExtTreeMap.getElem?_insert, Std.compare_eq_iff_eq] at stored
    split_ifs at stored
    · obtain rfl := Option.some.inj stored
      refine ⟨le_rfl, le_max_right _ _, max_le ?_ (capacity_nonneg l)⟩
      linarith [level_le_capacity l key now]
    · exact ⟨sound.past _ _ stored, sound.nonneg _ _ stored, sound.bounded _ _ stored⟩
  exact ⟨fun k b h => (entry k b h).1, fun k b h => (entry k b h).2.1,
    fun k b h => capacity ▸ (entry k b h).2.2⟩

end Operations

def pendingOf (l : Limiter) (key : IpAddr) : Nat := (l.pending[key]?.getD 0).toNat

section Calls
variable {l : Limiter} {now : Nat} {ip : IpAddr}

theorem permits_eq (enabled : l.perMinute ≠ 0) :
    l.permits ip now = (decide (1 ≤ level l (key ip) now - pendingOf l (key ip)),
      l.touch (key ip) now) := by
  have stored : tokens (l.touch (key ip) now) (key ip) = level l (key ip) now := by
    rw [tokens_touch, if_pos rfl]
  unfold tokens at stored
  unfold permits
  simp only [enabled, ↓reduceIte, stored]
  rfl

theorem begin_refused (enabled : l.perMinute ≠ 0) (no : (l.begin ip now).1 = false) :
    (l.begin ip now).2 = l.touch (key ip) now := by
  unfold begin at no ⊢
  rw [permits_eq enabled] at no ⊢
  cases granted : decide (1 ≤ level l (key ip) now - pendingOf l (key ip)) with
  | false => simp
  | true =>
      simp only [granted, true_and] at no
      split at no <;> simp at no

theorem begin_granted (enabled : l.perMinute ≠ 0) (yes : (l.begin ip now).1 = true) :
    1 ≤ level l (key ip) now - pendingOf l (key ip) ∧
    (l.begin ip now).2 = { l.touch (key ip) now with
      pending := l.pending.insert (key ip) (l.pending[key ip]?.getD 0 + 1) } := by
  have rate : (l.touch (key ip) now).perMinute = l.perMinute := rfl
  have same : (l.touch (key ip) now).pending = l.pending := rfl
  unfold begin at yes ⊢
  rw [permits_eq enabled] at yes ⊢
  cases granted : decide (1 ≤ level l (key ip) now - pendingOf l (key ip)) with
  | false => simp [granted] at yes
  | true =>
      refine ⟨of_decide_eq_true granted, ?_⟩
      simp [rate, same, enabled]

theorem finish_buckets : (l.finish ip).buckets = l.buckets := by
  unfold finish
  split
  · simp only
    split <;> rfl
  · rfl

theorem finish_perMinute : (l.finish ip).perMinute = l.perMinute := by
  unfold finish
  split
  · simp only
    split <;> rfl
  · rfl

theorem pendingOf_insert (other : IpAddr) (count : UInt32) (rest : Limiter) :
    pendingOf { rest with pending := l.pending.insert (key ip) count } other =
      if key ip = other then count.toNat else pendingOf l other := by
  simp only [pendingOf, ExtTreeMap.getElem?_insert, Std.compare_eq_iff_eq]
  split_ifs <;> rfl

theorem pendingOf_finish (some : 1 ≤ pendingOf l (key ip)) (other : IpAddr) :
    pendingOf (l.finish ip) other =
      if key ip = other then pendingOf l other - 1 else pendingOf l other := by
  unfold pendingOf at some ⊢
  unfold finish
  cases entry : l.pending[key ip]? with
  | none => simp [entry] at some
  | some count =>
      simp only [entry, Option.getD_some] at some
      have less : (count - 1).toNat = count.toNat - 1 :=
        UInt32.toNat_sub_of_le _ _ (by simpa [UInt32.le_iff_toNat_le] using some)
      simp only
      split_ifs with last same same
      · subst same
        have zero : count.toNat - 1 = 0 := by rw [← less, last]; rfl
        simp [entry, zero]
      · simp [ExtTreeMap.getElem?_erase, same]
      · subst same
        simp [entry, less]
      · simp [ExtTreeMap.getElem?_insert, same]

end Calls

end Hawse.Proof.Server
