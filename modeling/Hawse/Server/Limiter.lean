import Hawse.Net

namespace Hawse.Server
open Std

namespace Limiter

-- Moments are in nanoseconds.
def window : ℚ := 60
def maxTracked : Nat := 16384
def sweepEvery : Nat := 1000000000

/-- `Duration::as_secs_f64`, exactly. -/
def asSecs (duration : Nat) : ℚ := duration / 1000000000

inductive Failure
  | counted
  | nowLimited
  | untracked
  | disabled
deriving DecidableEq

@[ext]
structure Bucket where
  tokens : ℚ
  /-- The source's `at`. -/
  since : Nat
  warned : Bool
deriving DecidableEq

def Bucket.refill (bucket : Bucket) (capacity : ℚ) (now : Nat) : Bucket :=
  let elapsed := asSecs (now - bucket.since)
  let tokens := min (bucket.tokens + capacity * elapsed / window) capacity
  { tokens, since := now, warned := if capacity ≤ tokens then false else bucket.warned }

def key (ip : IpAddr) : IpAddr :=
  match ip.toCanonical with
  | .v6 v6 => .v6 (v6 &&& (BitVec.allOnes 128 <<< 64))
  | .v4 v4 => .v4 v4

end Limiter

open Limiter

structure Limiter where
  perMinute : UInt32
  buckets : ExtTreeMap IpAddr Bucket
  pending : ExtTreeMap IpAddr UInt32
  fullWarned : Bool
  lastSweep : Option Nat

namespace Limiter

def new (perMinute : UInt32) : Limiter where
  perMinute
  buckets := ∅
  pending := ∅
  fullWarned := false
  lastSweep := none

def capacity (l : Limiter) : ℚ := l.perMinute.toNat

def touch (l : Limiter) (key : IpAddr) (now : Nat) : Limiter :=
  { l with buckets := l.buckets.modify key (·.refill l.capacity now) }

def permits (l : Limiter) (ip : IpAddr) (now : Nat) : Bool × Limiter :=
  if l.perMinute = 0 then (true, l)
  else
    let key := key ip
    let l := l.touch key now
    let tokens := (l.buckets[key]?.map (·.tokens)).getD l.capacity
    let pending := l.pending[key]?.getD 0
    (decide (1 ≤ tokens - pending.toNat), l)

def begin (l : Limiter) (ip : IpAddr) (now : Nat) : Bool × Limiter :=
  let (permitted, l) := l.permits ip now
  if permitted ∧ l.perMinute ≠ 0 then
    (permitted, { l with pending := l.pending.insert (key ip) (l.pending[key ip]?.getD 0 + 1) })
  else (permitted, l)

/-- The source's `end`. -/
def finish (l : Limiter) (ip : IpAddr) : Limiter :=
  match l.pending[key ip]? with
  | some pending =>
      let left := pending - 1
      if left = 0 then { l with pending := l.pending.erase (key ip) }
      else { l with pending := l.pending.insert (key ip) left }
  | none => l

def sweep (l : Limiter) (now : Nat) : Limiter :=
  let buckets := l.buckets.filterMap fun _ bucket =>
    let bucket := bucket.refill l.capacity now
    if bucket.tokens < l.capacity then some bucket else none
  { l with
    lastSweep := some now
    buckets
    fullWarned := if buckets.size < maxTracked / 2 then false else l.fullWarned }

def sweepDue (l : Limiter) (now : Nat) : Bool :=
  match l.lastSweep with
  | none => true
  | some last => sweepEvery ≤ now - last

def account (l : Limiter) (key : IpAddr) (now : Nat) : Bucket :=
  (l.buckets[key]?.getD ⟨l.capacity, now, false⟩).refill l.capacity now

def charge (l : Limiter) (key : IpAddr) (now : Nat) : Failure × Limiter :=
  let bucket := l.account key now
  let bucket := { bucket with tokens := max (bucket.tokens - 1) 0 }
  if 1 ≤ bucket.tokens ∨ bucket.warned then
    (.counted, { l with buckets := l.buckets.insert key bucket })
  else
    (.nowLimited, { l with buckets := l.buckets.insert key { bucket with warned := true } })

def failed (l : Limiter) (ip : IpAddr) (now : Nat) : Failure × Limiter :=
  if l.perMinute = 0 then (.disabled, l)
  else
    let key := key ip
    if key ∉ l.buckets ∧ maxTracked ≤ l.buckets.size then
      let l := if l.sweepDue now then l.sweep now else l
      if maxTracked ≤ l.buckets.size then (.untracked, { l with fullWarned := true })
      else l.charge key now
    else l.charge key now

inductive Op
  | permits (ip : IpAddr)
  | begin (ip : IpAddr)
  | failed (ip : IpAddr)
  | finish (ip : IpAddr)

inductive Answer
  | permits (permitted : Bool)
  | begin (permitted : Bool)
  | failed (failure : Failure)
  | finish
deriving DecidableEq

/-- Every call returns. -/
def call (l : Limiter) (now : Nat) : Op → Option (Answer × Limiter)
  | .permits ip => some (.permits (l.permits ip now).1, (l.permits ip now).2)
  | .begin ip => some (.begin (l.begin ip now).1, (l.begin ip now).2)
  | .failed ip => some (.failed (l.failed ip now).1, (l.failed ip now).2)
  | .finish ip => some (.finish, l.finish ip)

end Limiter
end Hawse.Server
