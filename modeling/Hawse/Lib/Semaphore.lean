import Mathlib.Tactic

namespace Hawse.Lib

/-- A counting semaphore that gives what is released to whoever waits longest. -/
structure Semaphore (ι : Type*) where
  permits : Nat
  waiters : List ι

namespace Semaphore
variable {ι : Type*} [DecidableEq ι] (this : Semaphore ι)

def tryAcquire : Option (Semaphore ι) :=
  if 0 < this.permits then some { this with permits := this.permits - 1 } else none

/-- Whether the permit is there at once; else the caller is in the queue. -/
def acquire (i : ι) : Bool × Semaphore ι :=
  if 0 < this.permits then (true, { this with permits := this.permits - 1 })
  else (false, { this with waiters := this.waiters ++ [i] })

/-- With the waiter whose turn it is. -/
def release : Option ι × Semaphore ι :=
  match this.waiters with
  | [] => (none, { this with permits := this.permits + 1 })
  | i :: waiters => (some i, { this with waiters := waiters })

def withdraw (i : ι) : Semaphore ι := { this with waiters := this.waiters.erase i }

end Semaphore
end Hawse.Lib
