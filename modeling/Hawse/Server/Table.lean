import Hawse.Lib.System
import Hawse.Net

namespace Hawse.Server
open Std (ExtTreeMap ExtTreeSet)

/-- An entry of `by_age`, which is in the order of these pairs. -/
@[ext]
structure Age where
  used : Nat
  session : UInt32
deriving DecidableEq

instance : Ord Age := ⟨compareLex (compareOn Age.used) (compareOn Age.session)⟩

instance : Std.TransOrd Age :=
  inferInstanceAs (Std.TransCmp (compareLex (compareOn Age.used) (compareOn Age.session)))

instance : Std.LawfulEqOrd Age where
  eq_of_compare same := by
    obtain ⟨used, session⟩ := compareLex_eq_eq.mp same
    exact Age.ext (Std.LawfulEqOrd.eq_of_compare used) (Std.LawfulEqOrd.eq_of_compare session)

namespace SessionTable

structure Entry where
  visitor : SocketAddr
  used : Nat

structure Inbound where
  session : UInt32
  fresh : Bool
  evicted : Bool
deriving DecidableEq

end SessionTable

open SessionTable

structure SessionTable where
  cap : Nat
  idle : Nat
  next : UInt32
  byVisitor : ExtTreeMap SocketAddr UInt32
  bySession : ExtTreeMap UInt32 Entry
  byAge : ExtTreeSet Age

namespace SessionTable

def new (cap idle : Nat) : SessionTable := ⟨cap, idle, 0, ∅, ∅, ∅⟩

def touch (this : SessionTable) (session : UInt32) (now : Nat) : SessionTable :=
  match this.bySession[session]? with
  | none => this
  | some entry =>
      { this with
        bySession := this.bySession.insert session { entry with used := now }
        byAge := (this.byAge.erase ⟨entry.used, session⟩).insert ⟨now, session⟩ }

def remove (this : SessionTable) (session : UInt32) : SessionTable :=
  match this.bySession[session]? with
  | none => this
  | some entry =>
      { this with
        bySession := this.bySession.erase session
        byVisitor := this.byVisitor.erase entry.visitor
        byAge := this.byAge.erase ⟨entry.used, session⟩ }

def evictOldest (this : SessionTable) : Bool × SessionTable :=
  match this.byAge.min? with
  | none => (false, this)
  | some age => (true, this.remove age.session)

def claimLoop (this : SessionTable) : Nat → Option (UInt32 × SessionTable)
  | 0 => none
  | turns + 1 =>
      let id := this.next
      let this := { this with next := this.next + 1 }
      if this.bySession.contains id then this.claimLoop turns else some (id, this)

/-- One of any `len + 1` ids in a row is free, as long as there are that many. -/
def claimId (this : SessionTable) : Option (UInt32 × SessionTable) :=
  this.claimLoop (this.bySession.size + 1)

def inbound (this : SessionTable) (visitor : SocketAddr) (now : Nat) :
    Option (Inbound × SessionTable) :=
  match this.byVisitor[visitor]? with
  | some session => some (⟨session, false, false⟩, this.touch session now)
  | none =>
      let (evicted, this) := if this.cap ≤ this.bySession.size then this.evictOldest else (false, this)
      match this.claimId with
      | none => none
      | some (session, this) =>
          some (⟨session, true, evicted⟩,
            { this with
              byVisitor := this.byVisitor.insert visitor session
              bySession := this.bySession.insert session ⟨visitor, now⟩
              byAge := this.byAge.insert ⟨now, session⟩ })

def outbound (this : SessionTable) (session : UInt32) (now : Nat) : Option SocketAddr × SessionTable :=
  match this.bySession[session]? with
  | none => (none, this)
  | some entry => (some entry.visitor, this.touch session now)

def sweepLoop (now : Nat) : Nat → SessionTable → Nat × SessionTable
  | 0, this => (0, this)
  | turns + 1, this =>
      match this.byAge.min? with
      | none => (0, this)
      | some age =>
          if now - age.used < this.idle then (0, this)
          else
            let (removed, this) := sweepLoop now turns (this.remove age.session)
            (removed + 1, this)

/-- Each turn takes the first of `by_age` away. -/
def sweep (this : SessionTable) (now : Nat) : Nat × SessionTable := sweepLoop now this.byAge.size this

inductive Op
  | inbound (visitor : SocketAddr)
  | outbound (session : UInt32)
  | sweep

inductive Answer
  | inbound (seen : Inbound)
  | outbound (visitor : Option SocketAddr)
  | sweep (removed : Nat)
deriving DecidableEq

def call (this : SessionTable) (now : Nat) : Op → Option (Answer × SessionTable)
  | .inbound visitor => (this.inbound visitor now).map fun (seen, next) => (.inbound seen, next)
  | .outbound session => some (.outbound (this.outbound session now).1, (this.outbound session now).2)
  | .sweep => some (.sweep (this.sweep now).1, (this.sweep now).2)

end SessionTable

def sessionTable (cap idle : Nat) : Lib.System SessionTable (Nat × SessionTable.Op) where
  initial this := this = .new cap idle
  step this timed next := ∃ answer, this.call timed.1 timed.2 = some (answer, next)
end Hawse.Server
