import Hawse.Lib.System
import Mathlib.Data.Rat.Defs

namespace Hawse.Client
open Lib

structure Backoff where
  failures : UInt32
deriving DecidableEq

namespace Backoff

-- Durations are in seconds, rationals where the source has `f64`.
def durationMax : ℚ := (2 ^ 64 - 1) + 999999999 / 1000000000

def saturatingMul (duration : ℚ) (n : Nat) : ℚ := min (duration * n) durationMax

/-- `Duration::mul_f64` panics where the product is no duration. -/
def mulF64 (duration factor : ℚ) : Option ℚ :=
  if 0 ≤ duration * factor ∧ duration * factor ≤ durationMax then some (duration * factor) else none

def first : ℚ := 1

def cap : ℚ := 30

def healthy : ℚ := 60

def default : Backoff := ⟨0⟩

/-- `2u32.saturating_pow`. -/
def power (failures : UInt32) : Nat := min (2 ^ failures.toNat) (2 ^ 32 - 1)

/-- `saturating_add(1)`. -/
def another (failures : UInt32) : UInt32 := if failures.toNat = 2 ^ 32 - 1 then failures else failures + 1

def next (this : Backoff) (lasted unit : ℚ) : Option (ℚ × Backoff) :=
  let failures := if healthy ≤ lasted then 0 else this.failures
  let step := min (saturatingMul first (power failures)) cap
  (mulF64 step (1 / 2 + 1 / 2 * unit)).map fun wait => (wait, ⟨another failures⟩)

/-- A session that failed: how long it was up if it was welcomed, and the draw its retry takes. -/
structure Failure where
  welcomed : Option ℚ
  unit : ℚ

def Failure.lasted (failure : Failure) : ℚ := failure.welcomed.getD 0

/-- A turn of `Client::run`'s loop: a failure it retries, or one of its returns. -/
inductive Turn
  | failed (failure : Failure)
  | returned

/-- The waits of a run, and the ladder it is left with. -/
def run : Backoff → List Turn → Option (List ℚ × Backoff)
  | backoff, [] | backoff, .returned :: _ => some ([], backoff)
  | backoff, .failed failure :: turns => do
      let (wait, backoff) ← backoff.next failure.lasted failure.unit
      let (waits, backoff) ← run backoff turns
      some (wait :: waits, backoff)

/-! ## Two clients of one key -/

inductive Side
  | one
  | other
deriving DecidableEq

def Side.rival : Side → Side
  | .one => .other
  | .other => .one

/-- A client from some moment on: its ladder, the wait it took last, and its failures since. -/
structure Rival where
  backoff : Backoff
  wait : ℚ
  failed : Nat

def Rival.fail (this : Rival) (failure : Failure) : Option Rival :=
  (this.backoff.next failure.lasted failure.unit).map fun (wait, backoff) => ⟨backoff, wait, this.failed + 1⟩

/-- A session of either ends by the time the other, which it superseded, is back. -/
def Superseded (s : Side → Rival) (side : Side) (failure : Failure) : Prop :=
  failure.lasted ≤ (s side.rival).wait

/-- Either side's failures, in any order. -/
def rivals : System (Side → Rival) (Side × Failure) where
  initial s := ∀ side, (s side).wait ≤ cap ∧ (s side).failed = 0
  step s event t :=
    Superseded s event.1 event.2 ∧ 0 ≤ event.2.unit ∧ event.2.unit ≤ 1 ∧
      ∃ rival, (s event.1).fail event.2 = some rival ∧ t = Function.update s event.1 rival

end Backoff
end Hawse.Client
