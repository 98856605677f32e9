import Hawse.Client.Services
import Hawse.Lib.System

namespace Hawse.Client
open Lib
open Std (ExtTreeMap)

namespace Registry

-- A `Notified` is the number of `notify_waiters` calls there had been when it was made.
inductive Waiting
  | starting
  | looking (changed : Nat)
  | parked (changed : Nat)
  | found (bound : UdpLocal)
  | elapsed
deriving DecidableEq

/-- A `wait_for`, and where in its loop it is. -/
structure Waiter where
  id : UInt16
  stage : Waiting
deriving DecidableEq

end Registry

/-- `changed` is its `Notify`, as the number of `notify_waiters` calls, and `inserting` the inserts
that have written and not notified yet. -/
structure Registry where
  services : ExtTreeMap UInt16 UdpLocal
  changed : Nat
  inserting : Nat
  cancelled : List UdpLocal
  waiters : List Registry.Waiter

namespace Registry

inductive Event
  | write (bound : UdpLocal)
  | notify
  | remove (id : UInt16)
  | clear
  | waitFor (id : UInt16)
  | turn (i : Nat)
  | elapse (i : Nat)
deriving DecidableEq

def empty : Registry := ⟨∅, 0, 0, [], []⟩

def move (this : Registry) (i : Nat) (waiter : Waiter) (stage : Waiting) : Registry :=
  { this with waiters := this.waiters.set i ⟨waiter.id, stage⟩ }

/-- The next thing a `wait_for` does, `none` while it is parked with nothing delivered or once it is over. -/
def turn (this : Registry) (waiter : Waiter) : Option Waiting :=
  match waiter.stage with
  | .starting => some (.looking this.changed)
  | .looking changed =>
      match this.services[waiter.id]? with
      | some bound => some (.found bound)
      | none => some (.parked changed)
  | .parked changed => if changed < this.changed then some .starting else none
  | .found _ | .elapsed => none

def next (this : Registry) : Event → Option Registry
  | .write bound =>
      some { this with services := this.services.insert bound.id bound, inserting := this.inserting + 1 }
  | .notify =>
      if 0 < this.inserting then some { this with changed := this.changed + 1, inserting := this.inserting - 1 }
      else none
  | .remove id =>
      some { this with
        services := this.services.erase id, cancelled := this.cancelled ++ this.services[id]?.toList }
  | .clear => some { this with services := ∅ }
  | .waitFor id => some { this with waiters := this.waiters ++ [⟨id, .starting⟩] }
  | .turn i => do
      let waiter ← this.waiters[i]?
      (this.turn waiter).map (this.move i waiter)
  | .elapse i =>
      match this.waiters[i]? with
      | some ⟨id, .parked _⟩ => some { this with waiters := this.waiters.set i ⟨id, .elapsed⟩ }
      | _ => none

end Registry

def registry : System Registry Registry.Event where
  initial this := this = .empty
  step this event after := this.next event = some after

end Hawse.Client
