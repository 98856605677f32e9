import Hawse.Lib.System
import Hawse.Panel

namespace Hawse
open Std (ExtTreeMap)

namespace Counts

instance : Add Counts where
  add this other := ⟨this.opened + other.opened, this.visitors + other.visitors, this.down + other.down,
    this.up + other.up, this.datagramsDown + other.datagramsDown, this.datagramsUp + other.datagramsUp,
    this.dropped + other.dropped⟩

instance : Zero Counts := ⟨.default⟩

end Counts

namespace Client.Traffic
open Lib

abbrev Totals := ExtTreeMap String Counts

def figures (totals : Totals) (service : String) : Counts := totals[service]?.getD .default

/-- `*totals.entry(service).or_default() += counts`. -/
def addTo (totals : Totals) (service : String) (counts : Counts) : Totals :=
  totals.insert service (figures totals service + counts)

/-- An `Open`, or the place of one that has dropped. -/
structure Guard where
  service : String
  alive : Bool
deriving DecidableEq

/-- One client of the loop in `run`: its meters and the guards made from them. `copied` is what the loop read
of each meter once the client had finished, and `late` the services of the guards made (`true`) and dropped
after that. -/
structure Turn where
  meters : Totals
  guards : List Guard
  copied : Totals
  late : List (String × Bool)

def Turn.new : Turn := ⟨∅, [], ∅, []⟩

/-- Where the loop is. `copying` goes through the snapshot of the client that has finished. -/
inductive Stage
  | ready
  | running
  | copying (left : List String)
  | stopped
deriving DecidableEq

/-- What the status reads: the client whose `Traffic` it is, and what was carried when it started. -/
structure Shown where
  traffic : Option Nat
  carried : Totals

structure State where
  turns : List Turn
  carried : Totals
  shown : Shown
  stage : Stage

def State.init : State := ⟨[], ∅, ⟨none, ∅⟩, .ready⟩

inductive Event
  | start
  | meter (i : Nat) (service : String)
  | opens (i : Nat) (service : String)
  | drops (i guard : Nat)
  -- Bytes and datagrams, which leave the connections as they are.
  | carries (i : Nat) (service : String) (down up datagramsDown datagramsUp dropped : Nat)
  | finish
  | read
  | copied (again : Bool)
deriving DecidableEq

/-- Whether the loop has yet to read a service of the client it is on. -/
def Stage.unread (stage : Stage) (service : String) : Bool :=
  match stage with
  | .running => true
  | .copying left => left.contains service
  | _ => false

namespace State

def unread (this : State) (i : Nat) (service : String) : Bool :=
  i + 1 = this.turns.length && this.stage.unread service

/-- Every service's totals, as `serve_status` sums them. -/
def totals (this : State) : Totals :=
  let snapshot := match this.shown.traffic.bind (this.turns[·]?) with
    | some turn => turn.meters.toList
    | none => []
  snapshot.foldl (fun totals entry => addTo totals entry.1 entry.2) this.shown.carried

/-- The next client, shown with what is carried in one change. -/
def start (this : State) : State :=
  { this with turns := this.turns ++ [.new], shown := ⟨some this.turns.length, this.carried⟩, stage := .running }

/-- `Traffic::meter`, which makes a meter the first time it is asked for. -/
def make (this : State) (i : Nat) (turn : Turn) (service : String) : State :=
  if service ∈ turn.meters then this
  else { this with turns := this.turns.set i { turn with meters := turn.meters.insert service .default } }

/-- One service of the snapshot, into what is carried. -/
def copy (this : State) (turn : Turn) (service : String) (left : List String) : State :=
  let counts := figures turn.meters service
  { this with
    turns := this.turns.set (this.turns.length - 1) { turn with copied := turn.copied.insert service counts }
    carried := addTo this.carried service counts
    stage := .copying left }

def noted (this : State) (i : Nat) (turn : Turn) (service : String) (opened : Bool) : List (String × Bool) :=
  if this.unread i service then turn.late else turn.late ++ [(service, opened)]

end State

def next (s : State) : Event → Option State
  | .start =>
      if s.stage = .ready then some s.start else none
  | .meter i service => do
      let turn ← s.turns[i]?
      -- The snapshot reads under the lock that a new meter is written under.
      match s.stage with
      | .copying _ => if i + 1 = s.turns.length then none else some (s.make i turn service)
      | _ => some (s.make i turn service)
  | .opens i service => do
      let turn ← s.turns[i]?
      let counts ← turn.meters[service]?
      some { s with turns := s.turns.set i { turn with
        meters := turn.meters.insert service
          { counts with opened := counts.opened + 1, visitors := counts.visitors + 1 }
        guards := turn.guards ++ [⟨service, true⟩]
        late := s.noted i turn service true } }
  | .drops i g => do
      let turn ← s.turns[i]?
      let guard ← turn.guards[g]?
      let counts ← turn.meters[guard.service]?
      if guard.alive then
        some { s with turns := s.turns.set i { turn with
          meters := turn.meters.insert guard.service { counts with opened := counts.opened - 1 }
          guards := turn.guards.set g { guard with alive := false }
          late := s.noted i turn guard.service false } }
      else none
  | .carries i service down up datagramsDown datagramsUp dropped => do
      let turn ← s.turns[i]?
      let counts ← turn.meters[service]?
      some { s with turns := s.turns.set i { turn with
        meters := turn.meters.insert service (counts + ⟨0, 0, down, up, datagramsDown, datagramsUp, dropped⟩) } }
  | .finish => do
      let turn ← s.turns.getLast?
      if s.stage = .running then some { s with stage := .copying turn.meters.keys } else none
  | .read => do
      let turn ← s.turns.getLast?
      match s.stage with
      | .copying (service :: left) => some (s.copy turn service left)
      | _ => none
  | .copied again => if s.stage = .copying [] then some { s with stage := if again then .ready else .stopped } else none

def system : System State Event where
  initial s := s = .init
  step s event t := next s event = some t

end Client.Traffic
end Hawse
