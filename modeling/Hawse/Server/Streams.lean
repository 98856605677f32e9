import Hawse.Lib.Semaphore
import Hawse.Lib.System
import Hawse.Transport.Tcp

namespace Hawse.Server.Streams
open Lib

def saturatingAdd (a b : UInt32) : UInt32 := .ofNat (min (a.toNat + b.toNat) (2 ^ 32 - 1))

def streamsInEffect (limits : Limits) : UInt32 :=
  min limits.streamsPerClient (saturatingAdd Transport.Tuning.client.maxStreams 1)

/-- `Shared::streams`. -/
def budget (cfg : ServerConfig) : Nat := (streamsInEffect cfg.limits).toNat - 1

/-- A visitor's task of a TCP listener, or the `bulk` of a UDP service. -/
inductive Owner
  | visitor
  | bulk
deriving DecidableEq

/-- `granted`: its turn in the semaphore's queue came, and its `acquire` has not been polled since.
`delivered`: the driver has answered, and its `open_bi` has not been polled since. -/
inductive Stage
  | waiting
  | granted
  | admitted
  | opening
  | delivered
  | holding (send recv : Bool)
  | ended
deriving DecidableEq

/-- `cancelled` is the token of its service; `taken` and `returned` count its permits. -/
structure Task where
  owner : Owner
  cancelled : Bool
  stage : Stage
  taken : Nat
  returned : Nat
deriving DecidableEq

/-- The session's budget and its tasks. `abandoned` are the requests that cancelled openings left with
the driver, `refused` the visitors turned away. -/
structure State where
  streams : Semaphore Nat
  tasks : List Task
  abandoned : Nat
  refused : Nat

inductive Event
  -- A visitor is accepted, by an address the service's allow list permits or not.
  | accept (permitted : Bool)
  | localAddrFails (i : Nat)
  | serveUdp
  | poll (i : Nat)
  | openBi (i : Nat)
  | opened (i : Nat) (ok : Bool)
  | receive (i : Nat)
  -- A header that cannot be written, a pump or a drain that ends, a finish: whatever drops a half.
  | dropSend (i : Nat)
  | dropRecv (i : Nat)
  | release (i : Nat)
  | unbind (i : Nat)
  -- The `select!` of a cancelled service takes that branch, with its request sent to the driver or not.
  | cancel (i : Nat) (sent : Bool)
  | drive
  | close
deriving DecidableEq

def init (cfg : ServerConfig) : State := ⟨⟨budget cfg, []⟩, [], 0, 0⟩

/-- What a task that has its permit does next. -/
def turn (kind : TransportKind) (task : Task) : Event → Option Stage
  | .localAddrFails _ => if task.owner = .visitor ∧ task.stage = .admitted then some (.holding false false) else none
  | .poll _ => if task.stage = .granted then some .admitted else none
  | .openBi _ => if task.stage = .admitted then some .opening else none
  | .opened _ ok =>
      if task.stage = .opening then
        some (if ok then match kind with
            | .quic => .holding true true
            | .tcp => .delivered
          else .holding false false)
      else none
  | .receive _ => if task.stage = .delivered then some (.holding true true) else none
  | .dropSend _ =>
      match task.stage with
      | .holding true recv => some (.holding false recv)
      | _ => none
  | .dropRecv _ =>
      match task.stage with
      | .holding send true => some (.holding send false)
      | _ => none
  | _ => none

namespace State

def move (this : State) (i : Nat) (task : Task) (stage : Stage) : State :=
  { this with tasks := this.tasks.set i { task with stage := stage } }

/-- A permit goes to the waiter whose turn it is, or back. -/
def release (this : State) : State :=
  match this.streams.release with
  | (none, streams) => { this with streams := streams }
  | (some i, streams) =>
      { this with
        streams := streams
        tasks := this.tasks.modify i fun task => { task with stage := .granted, taken := task.taken + 1 } }

def giveBack (this : State) (i : Nat) (task : Task) : State :=
  release { this with tasks := this.tasks.set i { task with stage := .ended, returned := task.returned + 1 } }

/-- The branch of a cancelled token: it is polled beside the acquire, the opening and the frame's write. -/
def cancel (this : State) (kind : TransportKind) (i : Nat) (sent : Bool) : Option State := do
  let task ← this.tasks[i]?
  if task.owner = .bulk ∧ task.cancelled then
    match task.stage with
    | .waiting => some { this.move i task .ended with streams := this.streams.withdraw i }
    | .granted => some (this.giveBack i task)
    | .opening =>
        -- On QUIC nothing is opened for a future that is dropped. The TCP driver opens for every request it has.
        let left := if kind = .tcp ∧ sent then 1 else 0
        some { this.move i task (.holding false false) with abandoned := this.abandoned + left }
    | .admitted | .delivered => some (this.move i task (.holding false false))
    | _ => none
  else none

end State

def next (kind : TransportKind) (s : State) (event : Event) : Option State :=
  match event with
  | .accept permitted =>
      if permitted then
        match s.streams.tryAcquire with
        | none => some { s with refused := s.refused + 1 }
        | some streams => some { s with streams := streams, tasks := s.tasks ++ [⟨.visitor, false, .admitted, 1, 0⟩] }
      else some s
  | .serveUdp =>
      match s.streams.acquire s.tasks.length with
      | (true, streams) => some { s with streams := streams, tasks := s.tasks ++ [⟨.bulk, false, .admitted, 1, 0⟩] }
      | (false, streams) => some { s with streams := streams, tasks := s.tasks ++ [⟨.bulk, false, .waiting, 0, 0⟩] }
  | .release i => do
      let task ← s.tasks[i]?
      if task.stage = .holding false false then some (s.giveBack i task) else none
  | .unbind i => do
      let task ← s.tasks[i]?
      if task.owner = .bulk then some { s with tasks := s.tasks.set i { task with cancelled := true } } else none
  | .cancel i sent => s.cancel kind i sent
  -- The stream of an abandoned request goes to nobody, and is dropped as the driver finds that.
  | .drive => if 0 < s.abandoned then some { s with abandoned := s.abandoned - 1 } else none
  | .close => some { s with abandoned := 0 }
  | .localAddrFails i | .poll i | .openBi i | .opened i _ | .receive i | .dropSend i | .dropRecv i => do
      let task ← s.tasks[i]?
      let stage ← turn kind task event
      some (s.move i task stage)

def system (cfg : ServerConfig) (kind : TransportKind) : System State Event where
  initial s := s = init cfg
  step s event t := next kind s event = some t

end Hawse.Server.Streams
