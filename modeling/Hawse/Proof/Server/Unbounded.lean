import Hawse.Lib.Maps
import Hawse.Lib.Timed
import Hawse.Proof.Server.Limiter

namespace Hawse.Proof.Server
open Std (ExtTreeMap)
open Lib TokenBucket Hawse.Server Hawse.Server.Limiter

/-- A limiter with a bucket for every key there is, each kept for ever. -/
structure Ideal where
  perMinute : UInt32
  buckets : IpAddr → Bucket
  pending : ExtTreeMap IpAddr UInt32

namespace Ideal

def capacity (this : Ideal) : ℚ := this.perMinute.toNat

def new (perMinute : UInt32) : Ideal := ⟨perMinute, fun _ => ⟨perMinute.toNat, 0, false⟩, ∅⟩

def permits (this : Ideal) (ip : IpAddr) (now : Nat) : Bool × Ideal :=
  if this.perMinute = 0 then (true, this)
  else
    let bucket := (this.buckets (key ip)).refill this.capacity now
    (decide (1 ≤ bucket.tokens - (this.pending[key ip]?.getD 0).toNat),
      { this with buckets := Function.update this.buckets (key ip) bucket })

def begin (this : Ideal) (ip : IpAddr) (now : Nat) : Bool × Ideal :=
  let (permitted, this) := this.permits ip now
  if permitted ∧ this.perMinute ≠ 0 then
    (permitted, { this with
      pending := this.pending.insert (key ip) (this.pending[key ip]?.getD 0 + 1) })
  else (permitted, this)

def finish (this : Ideal) (ip : IpAddr) : Ideal :=
  match this.pending[key ip]? with
  | some pending =>
      let left := pending - 1
      if left = 0 then { this with pending := this.pending.erase (key ip) }
      else { this with pending := this.pending.insert (key ip) left }
  | none => this

def failed (this : Ideal) (ip : IpAddr) (now : Nat) : Failure × Ideal :=
  if this.perMinute = 0 then (.disabled, this)
  else
    let bucket := (this.buckets (key ip)).refill this.capacity now
    let bucket := { bucket with tokens := max (bucket.tokens - 1) 0 }
    if 1 ≤ bucket.tokens ∨ bucket.warned then
      (.counted, { this with buckets := Function.update this.buckets (key ip) bucket })
    else
      (.nowLimited, { this with
        buckets := Function.update this.buckets (key ip) { bucket with warned := true } })

def call (this : Ideal) (now : Nat) : Op → Option (Answer × Ideal)
  | .permits ip => some (.permits (this.permits ip now).1, (this.permits ip now).2)
  | .begin ip => some (.begin (this.begin ip now).1, (this.begin ip now).2)
  | .failed ip => some (.failed (this.failed ip now).1, (this.failed ip now).2)
  | .finish ip => some (.finish, this.finish ip)

end Ideal

section Refill
variable {capacity : ℚ} {bucket : Bucket} {now later : Nat}

theorem refill_le_capacity (bucket : Bucket) (capacity : ℚ) (now : Nat) :
    (bucket.refill capacity now).tokens ≤ capacity := by
  rw [refill_tokens]
  exact refilled_le_capacity _

theorem refill_refill (nonneg : 0 ≤ capacity) (past : bucket.since ≤ now) (le : now ≤ later) :
    (bucket.refill capacity now).refill capacity later = bucket.refill capacity later := by
  have rate := rate_nonneg nonneg
  have tokens : ((bucket.refill capacity now).refill capacity later).tokens =
      (bucket.refill capacity later).tokens := by
    simp only [refill_tokens, refill_since]
    rw [asSecs_add past le]
    exact refilled_refilled rate (asSecs_nonneg _)
  -- A bucket that was full at the first refill still is at the second.
  have full : capacity ≤ (bucket.refill capacity now).tokens →
      capacity ≤ (bucket.refill capacity later).tokens := by
    intro reached
    have exactly := le_antisymm (refill_le_capacity bucket capacity now) reached
    rw [← tokens, refill_tokens _ _ later, exactly]
    exact (refilled_capacity rate (asSecs_nonneg _)).ge
  have warned : ((bucket.refill capacity now).refill capacity later).warned =
      (bucket.refill capacity later).warned := by
    show (if capacity ≤ ((bucket.refill capacity now).refill capacity later).tokens then false
      else if capacity ≤ (bucket.refill capacity now).tokens then false else bucket.warned) =
      if capacity ≤ (bucket.refill capacity later).tokens then false else bucket.warned
    rw [tokens]
    split_ifs with after before
    · rfl
    · exact absurd (full before) after
    · rfl
  exact Bucket.ext tokens rfl warned

theorem refill_full (nonneg : 0 ≤ capacity) (since now : Nat) :
    (Bucket.mk capacity since false).refill capacity now = ⟨capacity, now, false⟩ := by
  have tokens : ((Bucket.mk capacity since false).refill capacity now).tokens = capacity := by
    rw [refill_tokens]
    exact refilled_capacity (rate_nonneg nonneg) (asSecs_nonneg _)
  refine Bucket.ext tokens rfl ?_
  show (if capacity ≤ _ then false else false) = false
  exact ite_self false

end Refill

section Shown
variable {l l' : Limiter} {now later : Nat}

/-- A key's bucket as it would be refilled now. -/
def shown (l : Limiter) (key : IpAddr) (now : Nat) : Option Bucket :=
  l.buckets[key]?.map (·.refill l.capacity now)

theorem shown_wait (sound : Sound l now) (le : now ≤ later) (key : IpAddr) :
    shown l key later = (shown l key now).map (·.refill l.capacity later) := by
  unfold shown
  cases stored : l.buckets[key]? with
  | none => rfl
  | some bucket =>
      simp only [Option.map_some]
      rw [refill_refill (capacity_nonneg l) (sound.past _ _ stored) le]

theorem level_shown (key : IpAddr) : level l key now = ((shown l key now).map (·.tokens)).getD l.capacity := by
  rw [level, shown, Option.map_map]
  rfl

theorem account_shown (key : IpAddr) :
    l.account key now = (shown l key now).getD ⟨l.capacity, now, false⟩ := by
  unfold account shown
  cases l.buckets[key]? with
  | none => exact refill_full (capacity_nonneg l) now now
  | some bucket => rfl

theorem shown_touch (sound : Sound l now) (key other : IpAddr) :
    shown (l.touch key now) other now = shown l other now := by
  have capacity : (l.touch key now).capacity = l.capacity := rfl
  unfold shown
  rw [touch_getElem?, capacity]
  split_ifs
  · cases stored : l.buckets[other]? with
    | none => rfl
    | some bucket =>
        simp only [Option.map_some]
        rw [refill_refill (capacity_nonneg l) (sound.past _ _ stored) le_rfl]
  · rfl

theorem shown_sweep (sound : Sound l now) (key : IpAddr) :
    shown (l.sweep now) key now =
      (shown l key now).filter fun bucket => bucket.tokens < l.capacity := by
  have capacity : (l.sweep now).capacity = l.capacity := rfl
  unfold shown
  rw [sweep_getElem?, capacity]
  cases stored : l.buckets[key]? with
  | none => rfl
  | some bucket =>
      simp only [Option.bind_some, Option.map_some, Option.filter_some, decide_eq_true_eq]
      split_ifs
      · rw [Option.map_some, refill_refill (capacity_nonneg l) (sound.past _ _ stored) le_rfl]
      · rfl

/-- What `charge` makes of an account. -/
def charged (bucket : Bucket) : Failure × Bucket :=
  let bucket := { bucket with tokens := max (bucket.tokens - 1) 0 }
  if 1 ≤ bucket.tokens ∨ bucket.warned then (.counted, bucket)
  else (.nowLimited, { bucket with warned := true })

theorem charge_charged (key : IpAddr) :
    l.charge key now = ((charged (l.account key now)).1,
      { l with buckets := l.buckets.insert key (charged (l.account key now)).2 }) := by
  unfold charge charged
  dsimp only
  split_ifs <;> rfl

theorem charged_since (bucket : Bucket) : (charged bucket).2.since = bucket.since := by
  unfold charged
  dsimp only
  split_ifs <;> rfl

theorem charged_tokens (bucket : Bucket) : (charged bucket).2.tokens = max (bucket.tokens - 1) 0 := by
  unfold charged
  dsimp only
  split_ifs <;> rfl

theorem shown_charge (key other : IpAddr) :
    shown (l.charge key now).2 other now =
      if key = other then some ((charged (l.account key now)).2.refill l.capacity now)
      else shown l other now := by
  rw [charge_charged]
  simp only [shown, ExtTreeMap.getElem?_insert, Std.compare_eq_iff_eq]
  split_ifs <;> rfl

def swept (l : Limiter) (now : Nat) : Limiter := if l.sweepDue now then l.sweep now else l

theorem failed_eq (l : Limiter) (ip : IpAddr) (now : Nat) : l.failed ip now =
    if l.perMinute = 0 then (.disabled, l)
    else if key ip ∉ l.buckets ∧ maxTracked ≤ l.buckets.size then
      if maxTracked ≤ (swept l now).buckets.size then
        (.untracked, { swept l now with fullWarned := true })
      else (swept l now).charge (key ip) now
    else l.charge (key ip) now := rfl

theorem mem_iff_shown (now : Nat) (key : IpAddr) : key ∈ l.buckets ↔ (shown l key now).isSome := by
  rw [ExtTreeMap.mem_iff_isSome_getElem?, shown, Option.isSome_map]

end Shown

section Same
variable {l l' : Limiter} {now later : Nat}

/-- Two limiters that differ only in when their buckets were last refilled. -/
structure Same (now : Nat) (l l' : Limiter) : Prop where
  sound : Sound l now
  sound' : Sound l' now
  perMinute : l.perMinute = l'.perMinute
  pending : l.pending = l'.pending
  lastSweep : l.lastSweep = l'.lastSweep
  shown : ∀ key, shown l key now = shown l' key now

theorem Same.capacity (same : Same now l l') : l.capacity = l'.capacity := by
  rw [Limiter.capacity, Limiter.capacity, same.perMinute]

theorem Same.wait (same : Same now l l') (le : now ≤ later) : Same later l l' :=
  { same with
    sound := same.sound.wait le
    sound' := same.sound'.wait le
    shown := fun key => by
      rw [shown_wait same.sound le, shown_wait same.sound' le, same.shown, same.capacity] }

theorem Same.touch (same : Same now l l') (key : IpAddr) : Same now (l.touch key now) l' :=
  { same with
    sound := touch_sound same.sound
    shown := fun other => (shown_touch same.sound key other).trans (same.shown other) }

theorem Same.symm (same : Same now l l') : Same now l' l :=
  ⟨same.sound', same.sound, same.perMinute.symm, same.pending.symm, same.lastSweep.symm,
    fun key => (same.shown key).symm⟩

theorem Same.touch_both (same : Same now l l') (key : IpAddr) :
    Same now (l.touch key now) (l'.touch key now) :=
  ((same.touch key).symm.touch key).symm

theorem Same.sweep (same : Same now l l') : Same now (l.sweep now) (l'.sweep now) where
  sound := sweep_sound same.sound
  sound' := sweep_sound same.sound'
  perMinute := same.perMinute
  pending := same.pending
  lastSweep := rfl
  shown key := by
    rw [shown_sweep same.sound, shown_sweep same.sound', same.shown, same.capacity]

theorem Same.account (same : Same now l l') (key : IpAddr) : l.account key now = l'.account key now := by
  rw [account_shown, account_shown, same.shown, same.capacity]

theorem Same.charge (same : Same now l l') (key : IpAddr) :
    (l.charge key now).1 = (l'.charge key now).1 ∧ Same now (l.charge key now).2 (l'.charge key now).2 := by
  have sound : Sound (l.charge key now).2 now := charge_sound same.sound
  have sound' : Sound (l'.charge key now).2 now := charge_sound same.sound'
  have shown (other : IpAddr) :
      Server.shown (l.charge key now).2 other now = Server.shown (l'.charge key now).2 other now := by
    rw [shown_charge, shown_charge, same.account, same.capacity, same.shown]
  rw [charge_charged, charge_charged, same.account] at *
  exact ⟨rfl, sound, sound', same.perMinute, same.pending, same.lastSweep, shown⟩

theorem Same.mem_iff (same : Same now l l') (key : IpAddr) : key ∈ l.buckets ↔ key ∈ l'.buckets := by
  rw [mem_iff_shown now, mem_iff_shown now, same.shown]

theorem Same.size (same : Same now l l') : l.buckets.size = l'.buckets.size := size_eq_size same.mem_iff

theorem Same.warn (same : Same now l l') :
    Same now { l with fullWarned := true } { l' with fullWarned := true } :=
  ⟨⟨same.sound.past, same.sound.nonneg, same.sound.bounded⟩,
    ⟨same.sound'.past, same.sound'.nonneg, same.sound'.bounded⟩, same.perMinute, same.pending,
    same.lastSweep, same.shown⟩

theorem Same.pend (same : Same now l l') (pending : ExtTreeMap IpAddr UInt32) :
    Same now { l with pending } { l' with pending } :=
  ⟨⟨same.sound.past, same.sound.nonneg, same.sound.bounded⟩,
    ⟨same.sound'.past, same.sound'.nonneg, same.sound'.bounded⟩, same.perMinute, rfl,
    same.lastSweep, same.shown⟩

theorem Same.swept (same : Same now l l') : Same now (swept l now) (swept l' now) := by
  have due : l.sweepDue now = l'.sweepDue now := by rw [sweepDue, sweepDue, same.lastSweep]
  unfold Server.swept
  rw [due]
  split_ifs
  · exact same.sweep
  · exact same

theorem Same.failed (same : Same now l l') (ip : IpAddr) :
    (l.failed ip now).1 = (l'.failed ip now).1 ∧ Same now (l.failed ip now).2 (l'.failed ip now).2 := by
  have room := same.swept
  rw [failed_eq, failed_eq]
  simp only [same.perMinute, same.mem_iff, same.size, room.size]
  split_ifs
  · exact ⟨rfl, same⟩
  · exact ⟨rfl, room.warn⟩
  · exact room.charge _
  · exact same.charge _

theorem Same.permits (same : Same now l l') (ip : IpAddr) :
    (l.permits ip now).1 = (l'.permits ip now).1 ∧ Same now (l.permits ip now).2 (l'.permits ip now).2 := by
  by_cases enabled : l.perMinute = 0
  · have enabled' := same.perMinute.symm.trans enabled
    simp only [Limiter.permits, enabled, enabled', ↓reduceIte]
    exact ⟨trivial, same⟩
  · rw [permits_eq enabled, permits_eq (same.perMinute ▸ enabled), level_shown, level_shown,
      same.shown, same.capacity, pendingOf, pendingOf, same.pending]
    exact ⟨rfl, same.touch_both _⟩

theorem Same.begin (same : Same now l l') (ip : IpAddr) :
    (l.begin ip now).1 = (l'.begin ip now).1 ∧ Same now (l.begin ip now).2 (l'.begin ip now).2 := by
  obtain ⟨permitted, after⟩ := same.permits ip
  unfold Limiter.begin
  generalize l.permits ip now = result at permitted after ⊢
  generalize l'.permits ip now = result' at permitted after ⊢
  obtain ⟨permitted, l⟩ := result
  obtain ⟨_, l'⟩ := result'
  obtain rfl := permitted
  have after : Same now l l' := after
  dsimp only
  by_cases begun : permitted ∧ l.perMinute ≠ 0
  · rw [if_pos begun, if_pos (after.perMinute ▸ begun), after.pending]
    exact ⟨rfl, after.pend _⟩
  · rw [if_neg begun, if_neg (after.perMinute ▸ begun)]
    exact ⟨rfl, after⟩

theorem Same.finish (same : Same now l l') (ip : IpAddr) : Same now (l.finish ip) (l'.finish ip) := by
  unfold Limiter.finish
  rw [same.pending]
  cases l'.pending[key ip]? with
  | none => exact same
  | some pending =>
      dsimp only
      split_ifs
      · exact same.pend _
      · exact same.pend _

theorem Same.call (same : Same now l l') (op : Op) {out : Answer} {next : Limiter}
    (called : l.call now op = some (out, next)) :
    ∃ next', l'.call now op = some (out, next') ∧ Same now next next' := by
  cases op with
  | permits ip =>
      obtain ⟨rfl, rfl⟩ := Prod.mk.inj (Option.some.inj called)
      obtain ⟨permitted, after⟩ := same.permits ip
      exact ⟨_, by rw [Limiter.call, permitted], after⟩
  | begin ip =>
      obtain ⟨rfl, rfl⟩ := Prod.mk.inj (Option.some.inj called)
      obtain ⟨permitted, after⟩ := same.begin ip
      exact ⟨_, by rw [Limiter.call, permitted], after⟩
  | failed ip =>
      obtain ⟨rfl, rfl⟩ := Prod.mk.inj (Option.some.inj called)
      obtain ⟨failure, after⟩ := same.failed ip
      exact ⟨_, by rw [Limiter.call, failure], after⟩
  | finish ip =>
      obtain ⟨rfl, rfl⟩ := Prod.mk.inj (Option.some.inj called)
      exact ⟨_, rfl, same.finish ip⟩

theorem Same.permits_left (same : Same now l l') (ip : IpAddr) : Same now (l.permits ip now).2 l' := by
  by_cases enabled : l.perMinute = 0
  · simp only [Limiter.permits, enabled, ↓reduceIte]
    exact same
  · rw [permits_eq enabled]
    exact same.touch _

end Same

section Keeps
variable {l : Limiter} {ideal : Ideal} {now later : Nat}

/-- A bucket the limiter does not have is one the other has full, and not warned of. -/
structure Keeps (now : Nat) (l : Limiter) (ideal : Ideal) : Prop where
  sound : Sound l now
  perMinute : l.perMinute = ideal.perMinute
  pending : l.pending = ideal.pending
  past : ∀ key, (ideal.buckets key).since ≤ now
  shown : ∀ key, (ideal.buckets key).refill l.capacity now =
    (shown l key now).getD ⟨l.capacity, now, false⟩

theorem Keeps.capacity (keeps : Keeps now l ideal) : ideal.capacity = l.capacity := by
  rw [Ideal.capacity, Limiter.capacity, keeps.perMinute]

theorem Keeps.wait (keeps : Keeps now l ideal) (le : now ≤ later) : Keeps later l ideal where
  sound := keeps.sound.wait le
  perMinute := keeps.perMinute
  pending := keeps.pending
  past key := (keeps.past key).trans le
  shown key := by
    rw [shown_wait keeps.sound le, ← refill_refill (capacity_nonneg l) (keeps.past key) le, keeps.shown]
    cases Server.shown l key now with
    | none => exact refill_full (capacity_nonneg l) now later
    | some bucket => rfl

theorem Keeps.refilled (keeps : Keeps now l ideal) (key : IpAddr) :
    (ideal.buckets key).refill ideal.capacity now = l.account key now := by
  rw [keeps.capacity, keeps.shown, account_shown]

theorem Keeps.swept (keeps : Keeps now l ideal) : Keeps now (swept l now) ideal := by
  unfold Server.swept
  split_ifs
  · refine ⟨sweep_sound keeps.sound, keeps.perMinute, keeps.pending, keeps.past, ?_⟩
    intro key
    show (ideal.buckets key).refill l.capacity now = (Server.shown (l.sweep now) key now).getD _
    rw [shown_sweep keeps.sound, keeps.shown]
    cases stored : Server.shown l key now with
    | none => rfl
    | some bucket =>
        simp only [Option.getD_some, Option.filter_some, decide_eq_true_eq]
        split_ifs with partly
        · rfl
        · -- What the sweep dropped was full, and a refill to full forgets the warning.
          obtain ⟨old, -, rfl⟩ := Option.map_eq_some_iff.mp stored
          have full := not_lt.mp partly
          refine Bucket.ext (le_antisymm (refill_le_capacity old _ _) full) rfl ?_
          show (if l.capacity ≤ (old.refill l.capacity now).tokens then false else old.warned) = false
          rw [if_pos full]
  · exact keeps

theorem Keeps.update (keeps : Keeps now l ideal) {l' : Limiter} {key : IpAddr} {bucket : Bucket}
    (sound : Sound l' now) (perMinute : l'.perMinute = l.perMinute) (pending : l'.pending = l.pending)
    (since : bucket.since = now)
    (others : ∀ other, key ≠ other → Server.shown l' other now = Server.shown l other now)
    (mine : bucket.refill l.capacity now = (Server.shown l' key now).getD ⟨l.capacity, now, false⟩) :
    Keeps now l' { ideal with buckets := Function.update ideal.buckets key bucket } := by
  have capacity : l'.capacity = l.capacity := by rw [Limiter.capacity, Limiter.capacity, perMinute]
  refine ⟨sound, perMinute.trans keeps.perMinute, pending.trans keeps.pending, ?_, ?_⟩
  · intro other
    by_cases same : other = key
    · subst same
      simp [since]
    · simpa [same] using keeps.past other
  · intro other
    by_cases same : other = key
    · subst same
      simpa [capacity] using mine
    · have differ : key ≠ other := fun equal => same equal.symm
      simpa [same, capacity, others other differ] using keeps.shown other

theorem Keeps.charge (keeps : Keeps now l ideal) (key : IpAddr) :
    Keeps now (l.charge key now).2
      { ideal with buckets := Function.update ideal.buckets key (charged (l.account key now)).2 } := by
  have shown (other : IpAddr) : Server.shown (l.charge key now).2 other now = _ := shown_charge key other
  have sound : Sound (l.charge key now).2 now := charge_sound keeps.sound
  rw [charge_charged] at shown sound ⊢
  refine keeps.update sound rfl rfl ?_ ?_ ?_
  · rw [charged_since]
    rfl
  · intro other differ
    rw [shown, if_neg differ]
  · rw [shown, if_pos rfl]
    rfl

theorem Keeps.permits (keeps : Keeps now l ideal) (ip : IpAddr) :
    (l.permits ip now).1 = (ideal.permits ip now).1 ∧
      Keeps now (l.permits ip now).2 (ideal.permits ip now).2 := by
  unfold Ideal.permits
  by_cases enabled : l.perMinute = 0
  · have enabled' := keeps.perMinute.symm.trans enabled
    simp only [Limiter.permits, enabled, enabled', ↓reduceIte]
    exact ⟨trivial, keeps⟩
  · have enabled' : ideal.perMinute ≠ 0 := keeps.perMinute ▸ enabled
    rw [permits_eq enabled, if_neg enabled']
    dsimp only
    rw [keeps.refilled, level_account, pendingOf, keeps.pending]
    refine ⟨rfl, keeps.update (touch_sound keeps.sound) rfl rfl rfl ?_ ?_⟩
    · intro other _
      exact shown_touch keeps.sound _ other
    · rw [shown_touch keeps.sound, ← keeps.shown, ← keeps.refilled, keeps.capacity]
      exact refill_refill (capacity_nonneg l) (keeps.past _) le_rfl

theorem Keeps.pend (keeps : Keeps now l ideal) (pending : ExtTreeMap IpAddr UInt32) :
    Keeps now { l with pending } { ideal with pending } :=
  ⟨⟨keeps.sound.past, keeps.sound.nonneg, keeps.sound.bounded⟩, keeps.perMinute, rfl, keeps.past,
    keeps.shown⟩

theorem Keeps.begin (keeps : Keeps now l ideal) (ip : IpAddr) :
    (l.begin ip now).1 = (ideal.begin ip now).1 ∧
      Keeps now (l.begin ip now).2 (ideal.begin ip now).2 := by
  obtain ⟨permitted, after⟩ := keeps.permits ip
  unfold Limiter.begin Ideal.begin
  generalize l.permits ip now = result at permitted after ⊢
  generalize ideal.permits ip now = result' at permitted after ⊢
  obtain ⟨permitted, l⟩ := result
  obtain ⟨_, ideal⟩ := result'
  obtain rfl := permitted
  have after : Keeps now l ideal := after
  dsimp only
  by_cases begun : permitted ∧ l.perMinute ≠ 0
  · rw [if_pos begun, if_pos (after.perMinute ▸ begun), after.pending]
    exact ⟨rfl, after.pend _⟩
  · rw [if_neg begun, if_neg (after.perMinute ▸ begun)]
    exact ⟨rfl, after⟩

theorem Keeps.finish (keeps : Keeps now l ideal) (ip : IpAddr) :
    Keeps now (l.finish ip) (ideal.finish ip) := by
  unfold Limiter.finish Ideal.finish
  rw [keeps.pending]
  cases ideal.pending[key ip]? with
  | none => exact keeps
  | some pending =>
      dsimp only
      split_ifs
      · exact keeps.pend _
      · exact keeps.pend _

theorem ideal_failed (enabled : ideal.perMinute ≠ 0) (ip : IpAddr) :
    ideal.failed ip now =
      ((charged ((ideal.buckets (key ip)).refill ideal.capacity now)).1, { ideal with
        buckets := Function.update ideal.buckets (key ip)
          (charged ((ideal.buckets (key ip)).refill ideal.capacity now)).2 }) := by
  unfold Ideal.failed charged
  dsimp only
  rw [if_neg enabled]
  split_ifs <;> rfl

theorem Keeps.charge_failed (keeps : Keeps now l ideal) (enabled : ideal.perMinute ≠ 0) (ip : IpAddr) :
    (l.charge (key ip) now).1 = (ideal.failed ip now).1 ∧
      Keeps now (l.charge (key ip) now).2 (ideal.failed ip now).2 := by
  rw [ideal_failed enabled, keeps.refilled]
  refine ⟨?_, keeps.charge (key ip)⟩
  rw [charge_charged]

theorem Keeps.failed (keeps : Keeps now l ideal) (ip : IpAddr) (tracked : (l.failed ip now).1 ≠ .untracked) :
    (l.failed ip now).1 = (ideal.failed ip now).1 ∧
      Keeps now (l.failed ip now).2 (ideal.failed ip now).2 := by
  rw [failed_eq] at tracked ⊢
  split_ifs at tracked ⊢ with disabled
  · rw [Ideal.failed, if_pos (keeps.perMinute.symm.trans disabled)]
    exact ⟨rfl, keeps⟩
  · exact absurd rfl tracked
  · exact keeps.swept.charge_failed (keeps.perMinute ▸ disabled) ip
  · exact keeps.charge_failed (keeps.perMinute ▸ disabled) ip

theorem Keeps.call (keeps : Keeps now l ideal) (op : Op) {out : Answer} {next : Limiter}
    (called : l.call now op = some (out, next)) (tracked : out ≠ .failed .untracked) :
    ∃ next', ideal.call now op = some (out, next') ∧ Keeps now next next' := by
  cases op with
  | permits ip =>
      obtain ⟨rfl, rfl⟩ := Prod.mk.inj (Option.some.inj called)
      obtain ⟨permitted, after⟩ := keeps.permits ip
      exact ⟨_, by rw [Ideal.call, permitted], after⟩
  | begin ip =>
      obtain ⟨rfl, rfl⟩ := Prod.mk.inj (Option.some.inj called)
      obtain ⟨permitted, after⟩ := keeps.begin ip
      exact ⟨_, by rw [Ideal.call, permitted], after⟩
  | failed ip =>
      obtain ⟨rfl, rfl⟩ := Prod.mk.inj (Option.some.inj called)
      obtain ⟨failure, after⟩ := keeps.failed ip fun untracked => tracked (by rw [untracked])
      exact ⟨_, by rw [Ideal.call, failure], after⟩
  | finish ip =>
      obtain ⟨rfl, rfl⟩ := Prod.mk.inj (Option.some.inj called)
      exact ⟨_, rfl, keeps.finish ip⟩

theorem keeps_new (perMinute : UInt32) : Keeps 0 (Limiter.new perMinute) (Ideal.new perMinute) where
  sound := ⟨by simp [Limiter.new], by simp [Limiter.new], by simp [Limiter.new]⟩
  perMinute := rfl
  pending := rfl
  past _ := le_rfl
  shown key := by
    have absent : Server.shown (Limiter.new perMinute) key 0 = none := by simp [Server.shown, Limiter.new]
    rw [absent]
    exact refill_full (capacity_nonneg (Limiter.new perMinute)) 0 0

end Keeps

section Armed
variable {l : Limiter} {now later : Nat} {k : IpAddr}

/-- A key that was warned of and has not been full since. -/
structure Armed (k : IpAddr) (now : Nat) (l : Limiter) : Prop where
  sound : Sound l now
  enabled : l.perMinute ≠ 0
  warned : ∃ bucket, shown l k now = some bucket ∧ bucket.warned = true

def Full (k : IpAddr) (now : Nat) (l : Limiter) : Prop :=
  ∃ bucket, shown l k now = some bucket ∧ bucket.tokens = l.capacity

theorem refill_warned {bucket : Bucket} {capacity : ℚ} :
    (bucket.refill capacity now).warned = true ↔
      (bucket.refill capacity now).tokens < capacity ∧ bucket.warned = true := by
  show (if capacity ≤ (bucket.refill capacity now).tokens then false else bucket.warned) = true ↔ _
  split_ifs with full
  · simp [full]
  · simp [not_le.mp full]

theorem refill_now {bucket : Bucket} {capacity : ℚ} (since : bucket.since = now)
    (partly : bucket.tokens < capacity) : bucket.refill capacity now = bucket := by
  have tokens : (bucket.refill capacity now).tokens = bucket.tokens := by
    rw [refill_tokens, since, Nat.sub_self, asSecs, Nat.cast_zero, zero_div]
    exact refilled_zero partly.le
  refine Bucket.ext tokens since.symm ?_
  show (if capacity ≤ (bucket.refill capacity now).tokens then false else bucket.warned) = _
  rw [tokens, if_neg (not_le.mpr partly)]

theorem shown_partly {bucket : Bucket} (found : shown l k now = some bucket) (warned : bucket.warned = true) :
    bucket.tokens < l.capacity := by
  obtain ⟨stored, -, rfl⟩ := Option.map_eq_some_iff.mp found
  exact (refill_warned.mp warned).1

theorem Armed.wait (armed : Armed k now l) (le : now ≤ later) : Armed k later l ∨ Full k later l := by
  obtain ⟨bucket, found, warned⟩ := armed.warned
  have found_later := shown_wait armed.sound le k
  rw [found, Option.map_some] at found_later
  by_cases partly : (bucket.refill l.capacity later).tokens < l.capacity
  · exact .inl ⟨armed.sound.wait le, armed.enabled, _, found_later, refill_warned.mpr ⟨partly, warned⟩⟩
  · exact .inr ⟨_, found_later, le_antisymm (refill_le_capacity _ _ _) (not_lt.mp partly)⟩

theorem Armed.touch (armed : Armed k now l) (key : IpAddr) : Armed k now (l.touch key now) :=
  ⟨touch_sound armed.sound, armed.enabled, by rw [shown_touch armed.sound]; exact armed.warned⟩

theorem Armed.pend (armed : Armed k now l) (pending : ExtTreeMap IpAddr UInt32) :
    Armed k now { l with pending } :=
  ⟨⟨armed.sound.past, armed.sound.nonneg, armed.sound.bounded⟩, armed.enabled, armed.warned⟩

theorem Armed.swept (armed : Armed k now l) : Armed k now (swept l now) := by
  unfold Server.swept
  split_ifs
  · obtain ⟨bucket, found, warned⟩ := armed.warned
    refine ⟨sweep_sound armed.sound, armed.enabled, bucket, ?_, warned⟩
    rw [shown_sweep armed.sound, found, Option.filter_some, if_pos]
    exact decide_eq_true (shown_partly found warned)
  · exact armed

theorem one_le_capacity (enabled : l.perMinute ≠ 0) : 1 ≤ l.capacity := by
  have positive : 1 ≤ l.perMinute.toNat := by
    by_contra none
    exact enabled (UInt32.toNat_inj.mp (by simpa using none))
  rw [capacity]
  exact_mod_cast positive

theorem armed_charge (sound : Sound l now) (enabled : l.perMinute ≠ 0)
    (warned : (charged (l.account k now)).2.warned = true) : Armed k now (l.charge k now).2 := by
  have partly : (charged (l.account k now)).2.tokens < l.capacity := by
    rw [charged_tokens, level_account]
    have one := one_le_capacity enabled
    have bounded := level_le_capacity l k now
    exact max_lt (by linarith) (by linarith)
  refine ⟨charge_sound sound, ?_, _, ?_, warned⟩
  · rw [charge_charged]
    exact enabled
  · have since : (charged (l.account k now)).2.since = now := charged_since _
    rw [shown_charge, if_pos rfl, refill_now since partly]

theorem charged_of_warned {bucket : Bucket} (warned : bucket.warned = true) :
    charged bucket = (.counted, { bucket with tokens := max (bucket.tokens - 1) 0 }) := by
  simp [charged, warned]

theorem warned_of_nowLimited {bucket : Bucket} (limited : (charged bucket).1 = .nowLimited) :
    (charged bucket).2.warned = true := by
  unfold charged at limited ⊢
  dsimp only at limited ⊢
  split_ifs at limited ⊢
  rfl

theorem Armed.charge (armed : Armed k now l) (key : IpAddr) :
    Armed k now (l.charge key now).2 ∧ (key = k → (l.charge key now).1 ≠ .nowLimited) := by
  obtain ⟨bucket, found, warned⟩ := armed.warned
  by_cases same : key = k
  · subst same
    have account : l.account key now = bucket := by rw [account_shown, found, Option.getD_some]
    refine ⟨armed_charge armed.sound armed.enabled ?_, fun _ => ?_⟩
    · rw [account, charged_of_warned warned]
      exact warned
    · rw [charge_charged, account, charged_of_warned warned]
      exact Failure.noConfusion
  · refine ⟨⟨charge_sound armed.sound, ?_, bucket, ?_, warned⟩, fun equal => absurd equal same⟩
    · rw [charge_charged]
      exact armed.enabled
    · rw [shown_charge, if_neg same, found]

theorem Armed.failed (armed : Armed k now l) (ip : IpAddr) :
    Armed k now (l.failed ip now).2 ∧ (key ip = k → (l.failed ip now).1 ≠ .nowLimited) := by
  have room := armed.swept
  rw [failed_eq]
  split_ifs with disabled
  · exact ⟨armed, fun _ => Failure.noConfusion⟩
  · refine ⟨⟨⟨room.sound.past, room.sound.nonneg, room.sound.bounded⟩, room.enabled, room.warned⟩, fun _ => ?_⟩
    exact Failure.noConfusion
  · exact room.charge _
  · exact armed.charge _

theorem armed_of_nowLimited (sound : Sound l now) {ip : IpAddr} (limited : (l.failed ip now).1 = .nowLimited) :
    Armed (key ip) now (l.failed ip now).2 := by
  rw [failed_eq] at limited ⊢
  split_ifs at limited ⊢ with disabled crowded full
  · have room : Sound (Server.swept l now) now := by
      unfold Server.swept
      split_ifs
      · exact sweep_sound sound
      · exact sound
    have enabled : (Server.swept l now).perMinute ≠ 0 := by
      unfold Server.swept
      split_ifs <;> exact disabled
    rw [charge_charged] at limited
    exact armed_charge room enabled (warned_of_nowLimited limited)
  · rw [charge_charged] at limited
    exact armed_charge sound disabled (warned_of_nowLimited limited)

theorem Armed.permits (armed : Armed k now l) (ip : IpAddr) : Armed k now (l.permits ip now).2 := by
  rw [permits_eq armed.enabled]
  exact armed.touch _

theorem Armed.call (armed : Armed k now l) (op : Op) {out : Answer} {next : Limiter}
    (called : l.call now op = some (out, next)) :
    Armed k now next ∧ ¬ (out = .failed .nowLimited ∧ ∃ ip, op = .failed ip ∧ key ip = k) := by
  cases op with
  | permits ip =>
      obtain ⟨rfl, rfl⟩ := Prod.mk.inj (Option.some.inj called)
      exact ⟨armed.permits ip, by rintro ⟨_, _, ⟨⟩, _⟩⟩
  | begin ip =>
      obtain ⟨rfl, rfl⟩ := Prod.mk.inj (Option.some.inj called)
      refine ⟨?_, by rintro ⟨_, _, ⟨⟩, _⟩⟩
      have after := armed.permits ip
      unfold Limiter.begin
      dsimp only
      split_ifs
      · exact after.pend _
      · exact after
  | failed ip =>
      obtain ⟨rfl, rfl⟩ := Prod.mk.inj (Option.some.inj called)
      obtain ⟨after, never⟩ := armed.failed ip
      refine ⟨after, ?_⟩
      rintro ⟨limited, _, ⟨⟩, same⟩
      exact never same (Answer.failed.inj limited)
  | finish ip =>
      obtain ⟨rfl, rfl⟩ := Prod.mk.inj (Option.some.inj called)
      refine ⟨?_, by rintro ⟨_, _, ⟨⟩, _⟩⟩
      unfold Limiter.finish
      cases l.pending[key ip]? with
      | none => exact armed
      | some pending =>
          dsimp only
          split_ifs
          · exact armed.pend _
          · exact armed.pend _

end Armed

section Runs
variable {l : Limiter} {now : Nat}

theorem call_sound (sound : Sound l now) (op : Op) {out : Answer} {next : Limiter}
    (called : l.call now op = some (out, next)) : Sound next now := by
  have same : Same now l l := ⟨sound, sound, rfl, rfl, rfl, fun _ => rfl⟩
  obtain ⟨_, -, after⟩ := same.call op called
  exact after.sound

theorem full_between {start : Nat} (sound : Sound l start) {calls : List (Nat × Op)}
    (after : ∀ timed ∈ calls, start ≤ timed.1) (ascending : Timed.Ascending calls)
    {outs : List Answer} {last : Limiter} (ran : Timed.run call l calls = some (outs, last))
    {i j now later : Nat} {ip ip' : IpAddr} (less : i < j)
    (first : calls[i]? = some (now, .failed ip)) (second : calls[j]? = some (later, .failed ip'))
    (same : key ip = key ip') (limited : outs[i]? = some (.failed .nowLimited))
    (again : outs[j]? = some (.failed .nowLimited)) :
    ∃ n, i < n ∧ n ≤ j ∧ ∃ moment op given mid, calls[n]? = some (moment, op) ∧
      Timed.run call l (calls.take n) = some (given, mid) ∧ Full (key ip) moment mid := by
  obtain ⟨before, mid, out, next, ran_before, called, ran_i, ran_after, given⟩ := Timed.run_at ran first
  obtain ⟨bound, at_i⟩ := List.getElem?_eq_some_iff.mp first
  have split : calls = calls.take i ++ (now, .failed ip) :: calls.drop (i + 1) := by
    rw [← at_i, ← List.drop_eq_getElem_cons bound, List.take_append_drop]
  have ascending_split := ascending
  rw [split] at ascending_split
  obtain ⟨ascending_before, ascending_rest, apart⟩ := List.pairwise_append.mp ascending_split
  obtain ⟨later_after, ascending_after⟩ := List.pairwise_cons.mp ascending_rest
  have sound_mid : Sound mid now := by
    refine Timed.run_invariant (fun now l => Sound l now) (fun _ _ _ le sound => sound.wait le)
      (fun _ op _ _ _ sound called => call_sound sound op called) sound ?_ ascending_before ran_before
      (after _ (List.mem_of_getElem? first)) fun timed member => apart timed member _ List.mem_cons_self
    exact fun timed member => after timed (List.mem_of_mem_take member)
  have armed : Armed (key ip) now next := by
    obtain ⟨answer, rfl⟩ := Prod.mk.inj (Option.some.inj called)
    obtain rfl := Option.some.inj (limited.symm.trans given)
    exact armed_of_nowLimited sound_mid (Answer.failed.inj answer)
  -- From the first warning on, the second is an answer the key cannot get before it was full.
  obtain ⟨d, rfl⟩ := Nat.exists_eq_add_of_lt less
  have second_after : (calls.drop (i + 1))[d]? = some (later, .failed ip') := by
    rw [List.getElem?_drop, ← second]
    congr 1
    omega
  have again_after : (outs.drop (i + 1))[d]? = some (.failed .nowLimited) := by
    rw [List.getElem?_drop, ← again]
    congr 1
    omega
  obtain ⟨n, le, moment, op, given, mid, at_n, ran_n, full⟩ :=
    Timed.run_breaks (Armed (key ip)) (Full (key ip))
      (fun op out => out = .failed .nowLimited ∧ ∃ other, op = .failed other ∧ key other = key ip)
      (fun _ _ _ le armed => armed.wait le) (fun _ op _ _ _ armed called => armed.call op called) armed
      later_after ascending_after ran_after second_after again_after ⟨rfl, ip', rfl, same.symm⟩
  refine ⟨i + 1 + n, by omega, by omega, moment, op, before ++ [out] ++ given, mid, ?_, ?_, full⟩
  · rw [← at_n, List.getElem?_drop]
  · rw [List.take_add]
    exact Timed.run_append.mpr ⟨_, next, given, ran_i, ran_n, rfl⟩

end Runs

section Keys

theorem key_mapped (bits : BitVec 32) : key (.v6 (0xffff#96 ++ bits)) = key (.v4 bits) := by
  have value : (0xffff#96 ++ bits : BitVec (96 + 32)).toNat = 0xffff * 2 ^ 32 + bits.toNat := by
    rw [BitVec.toNat_append, ← Nat.shiftLeft_add_eq_or_of_lt bits.isLt, Nat.shiftLeft_eq]
    rfl
  have high : (0xffff#96 ++ bits : BitVec (96 + 32)) >>> 32 = 0xffff#128 := by
    apply BitVec.eq_of_toNat_eq
    rw [BitVec.toNat_ushiftRight, value, Nat.shiftRight_eq_div_pow]
    have := bits.isLt
    simp only [BitVec.toNat_ofNat]
    omega
  have low : (0xffff#96 ++ bits : BitVec (96 + 32)).setWidth 32 = bits := by
    apply BitVec.eq_of_toNat_eq
    rw [BitVec.toNat_setWidth, value]
    have := bits.isLt
    omega
  have canonical : (IpAddr.v6 (0xffff#96 ++ bits)).toCanonical = (IpAddr.v4 bits).toCanonical :=
    (if_pos high).trans (congrArg IpAddr.v4 low)
  unfold key
  rw [canonical]

theorem key_prefix {bits bits' : BitVec 128} (same : bits >>> 64 = bits' >>> 64)
    (native : bits >>> 32 ≠ 0xffff#128) (native' : bits' >>> 32 ≠ 0xffff#128) :
    key (.v6 bits) = key (.v6 bits') := by
  have masked : bits &&& (BitVec.allOnes 128 <<< 64) = bits' &&& (BitVec.allOnes 128 <<< 64) := by
    apply BitVec.eq_of_getLsbD_eq
    intro i bound
    by_cases low : i < 64
    · simp only [BitVec.getLsbD_and, BitVec.getLsbD_shiftLeft, low, decide_true, Bool.not_true,
        Bool.and_false, Bool.false_and]
    · have bit := congrArg (fun bits : BitVec 128 => bits.getLsbD (i - 64)) same
      simp only [BitVec.getLsbD_ushiftRight, Nat.add_sub_cancel' (not_lt.mp low)] at bit
      simp [bit]
  simp only [key, IpAddr.toCanonical, native, native', ↓reduceIte, masked]
/-- One operation, for two addresses that share a key. -/
inductive Interchangeable : Op → Op → Prop
  | permits {ip ip' : IpAddr} (same : key ip = key ip') : Interchangeable (.permits ip) (.permits ip')
  | begin {ip ip' : IpAddr} (same : key ip = key ip') : Interchangeable (.begin ip) (.begin ip')
  | failed {ip ip' : IpAddr} (same : key ip = key ip') : Interchangeable (.failed ip) (.failed ip')
  | finish {ip ip' : IpAddr} (same : key ip = key ip') : Interchangeable (.finish ip) (.finish ip')

theorem Interchangeable.call {op op' : Op} (interchangeable : Interchangeable op op') (l : Limiter) (now : Nat) :
    l.call now op = l.call now op' := by
  cases interchangeable with
  | permits same => simp only [Limiter.call, Limiter.permits, same]
  | begin same => simp only [Limiter.call, Limiter.begin, Limiter.permits, same]
  | failed same => simp only [Limiter.call, Limiter.failed, same]
  | finish same => simp only [Limiter.call, Limiter.finish, same]

end Keys

section Permits

theorem same_new (perMinute : UInt32) : Same 0 (Limiter.new perMinute) (Limiter.new perMinute) where
  sound := (keeps_new perMinute).sound
  sound' := (keeps_new perMinute).sound
  perMinute := rfl
  pending := rfl
  lastSweep := rfl
  shown _ := rfl

theorem extra_permits (perMinute : UInt32) {marked : List (Bool × Nat × Op)} {outs : List Answer}
    (ascending : Timed.Ascending (marked.map (·.2)))
    (quiet : ∀ timed ∈ marked, timed.1 = true → ∃ ip, timed.2.2 = .permits ip)
    (answered : Timed.answers call (Limiter.new perMinute) (marked.map (·.2)) = some outs) :
    Timed.answers call (Limiter.new perMinute) (Timed.kept marked) =
      some (Timed.unmarked (marked.map (·.1)) outs) := by
  obtain ⟨last, ran⟩ := Timed.answers_eq_some.mp answered
  refine Timed.run_skips Same (fun op => ∃ ip, op = .permits ip) (fun _ _ _ _ le same => same.wait le)
    (fun _ op _ _ _ _ same called => same.call op called) ?_ (same_new perMinute)
    (fun _ _ => Nat.zero_le _) ascending quiet ran
  rintro now op l l' out next same ⟨ip, rfl⟩ called
  obtain ⟨-, rfl⟩ := Prod.mk.inj (Option.some.inj called)
  exact same.permits_left ip

end Permits

/-- A limiter that drops the buckets that are full, and never has to turn an address away, answers as
one that keeps them all. -/
theorem as_unbounded (perMinute : UInt32) {calls : List (Nat × Op)} (ascending : Timed.Ascending calls)
    {outs : List Answer} (answered : Timed.answers call (Limiter.new perMinute) calls = some outs)
    (tracked : .failed .untracked ∉ outs) :
    Timed.answers Ideal.call (Ideal.new perMinute) calls = some outs ∧
    (∀ marked : List (Bool × Nat × Op), Timed.Ascending (marked.map (·.2)) →
      (∀ timed ∈ marked, timed.1 = true → ∃ ip, timed.2.2 = .permits ip) →
      (marked.map (·.2) = calls →
        Timed.answers call (Limiter.new perMinute) (Timed.kept marked) =
          some (Timed.unmarked (marked.map (·.1)) outs)) ∧
      (Timed.kept marked = calls →
        (Timed.answers call (Limiter.new perMinute) (marked.map (·.2))).map
          (Timed.unmarked (marked.map (·.1))) = some outs)) ∧
    (∀ others : List (Nat × Op),
      List.Forall₂ (fun timed other => timed.1 = other.1 ∧ Interchangeable timed.2 other.2) calls others →
      Timed.answers call (Limiter.new perMinute) others = some outs) ∧
    (∀ bits : BitVec 32, key (.v6 (0xffff#96 ++ bits)) = key (.v4 bits)) ∧
    (∀ bits bits' : BitVec 128, bits >>> 64 = bits' >>> 64 → bits >>> 32 ≠ 0xffff#128 →
      bits' >>> 32 ≠ 0xffff#128 → key (.v6 bits) = key (.v6 bits')) ∧
    ∀ (i j now later : Nat) (ip ip' : IpAddr), i < j → calls[i]? = some (now, .failed ip) →
      calls[j]? = some (later, .failed ip') → key ip = key ip' →
      outs[i]? = some (.failed .nowLimited) → outs[j]? = some (.failed .nowLimited) →
      ∃ n, i < n ∧ n ≤ j ∧ ∃ moment op given l, calls[n]? = some (moment, op) ∧
        Timed.run call (Limiter.new perMinute) (calls.take n) = some (given, l) ∧ Full (key ip) moment l := by
  obtain ⟨last, ran⟩ := Timed.answers_eq_some.mp answered
  have keeps := keeps_new perMinute
  refine ⟨?_, ?_, ?_, key_mapped, fun _ _ => key_prefix, ?_⟩
  · refine Timed.run_follows Keeps (· ≠ .failed .untracked) (fun _ _ _ _ le keeps => keeps.wait le)
      (fun _ op _ _ _ _ keeps called allowed => keeps.call op called allowed) keeps
      (fun _ _ => Nat.zero_le _) ascending ran ?_
    rintro out member rfl
    exact tracked member
  · intro marked ordered quiet
    refine ⟨?_, ?_⟩
    · rintro rfl
      exact extra_permits perMinute ordered quiet answered
    · rintro rfl
      have returns (l : Limiter) (now : Nat) (op : Op) : ∃ out next, l.call now op = some (out, next) := by
        cases op <;> exact ⟨_, _, rfl⟩
      obtain ⟨longer, answered_longer⟩ :=
        Timed.exists_answers returns (Limiter.new perMinute) (marked.map (·.2))
      rw [answered_longer, Option.map_some, ← answered]
      exact (extra_permits perMinute ordered quiet answered_longer).symm
  · intro others interchangeable
    rw [← answered]
    refine (Timed.answers_congr (interchangeable.imp ?_) _).symm
    rintro ⟨now, op⟩ ⟨_, op'⟩ ⟨rfl, same⟩ l
    exact same.call l now
  · intro i j now later ip ip' less first second same limited again
    exact full_between keeps.sound (fun _ _ => Nat.zero_le _) ascending ran less first second same limited again

/-- Emptied, and emptied again after a minute in which it filled up. -/
theorem as_unbounded_twice :
    Timed.answers Ideal.call (Ideal.new 1)
      [(0, .failed (.v4 1)), (1, .permits (.v4 1)), (60000000000, .failed (.v6 (0xffff#96 ++ 1#32)))] =
        some [.failed .nowLimited, .permits false, .failed .nowLimited] := by
  refine (as_unbounded 1 ?_ ?_ ?_).1
  · simp [Timed.Ascending]
  · decide +kernel
  · decide

end Hawse.Proof.Server
