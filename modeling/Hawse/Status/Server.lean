import Hawse.Server.Watch

namespace Hawse.Status
open Hawse.Server Hawse.Server.Watched
open Std (ExtTreeMap)

namespace Keeper

structure Session where
  transport : TransportKind
  agent : String
  since : Nat
  services : ExtTreeMap String (IpAddr × Port)

structure Attempt where
  key : PublicKey
  remote : SocketAddr
  times : Nat
  last : Nat
deriving DecidableEq

end Keeper

open Keeper

/-- What the server's events have said so far, by the name of the client. -/
structure Keeper where
  sessions : ExtTreeMap String Keeper.Session
  ended : ExtTreeMap String Nat
  knocks : List Attempt

structure Bind where
  name : String
  bind : IpAddr
  port : Port
deriving DecidableEq

inductive Presence
  | connected (remote : SocketAddr) (transport : Option TransportKind) (agent : Option String)
      (up : Option Nat) (services : List Bind)
  | notConnected (last : Option Nat)
deriving DecidableEq

def Presence.isConnected : Presence → Bool
  | .connected .. => true
  | .notConnected _ => false

structure ClientEntry where
  name : String
  presence : Presence
deriving DecidableEq

structure Knock where
  key : PublicKey
  remote : SocketAddr
  times : Nat
  last : Nat
deriving DecidableEq

structure ServerStatus where
  listen : SocketAddr
  tcpFallback : Bool
  up : Nat
  clients : List ClientEntry
  unknownKeys : List Knock

/-- `Duration::as_secs`. -/
def asSecs (nanos : Nat) : Nat := nanos / 1000000000

namespace Keeper

def knocksMax : Nat := 16

def default : Keeper := ⟨∅, ∅, []⟩

def listed (services : ExtTreeMap String (IpAddr × Port)) : List Bind :=
  services.toList.map fun (name, bind, port) => ⟨name, bind, port⟩

def knocked (this : Keeper) (key : PublicKey) : Nat :=
  ((this.knocks.find? (·.key = key)).map (·.times)).getD 0

def apply (this : Keeper) (event : Event) (now : Nat) : Keeper :=
  match event with
  | .connected client _ transport agent =>
      { this with sessions := this.sessions.insert client ⟨transport, agent, now, ∅⟩ }
  | .bound client service bind port =>
      match this.sessions[client]? with
      | none => this
      | some session =>
          let services := session.services.insert service (bind, port)
          { this with sessions := this.sessions.insert client { session with services } }
  | .unbound client service _ =>
      match this.sessions[client]? with
      | none => this
      | some session =>
          let services := session.services.erase service
          { this with sessions := this.sessions.insert client { session with services } }
  | .ended client => { this with ended := this.ended.insert client now }
  | .denied key remote =>
      { this with knocks :=
          (⟨key, remote, this.knocked key + 1, now⟩ :: this.knocks.eraseP (·.key = key)).take knocksMax }

def presence (this : Keeper) (live : List (PublicKey × SocketAddr)) (now : Nat) (key : PublicKey)
    (name : String) : Presence :=
  match live.find? (·.1 = key) with
  | some (_, remote) =>
      let session := this.sessions[name]?
      .connected remote (session.map (·.transport)) (session.map (·.agent))
        (session.map fun session => asSecs (now - session.since))
        ((session.map fun session => listed session.services).getD [])
  | none => .notConnected (this.ended[name]?.map fun ended => asSecs (now - ended))

def entry (this : Keeper) (live : List (PublicKey × SocketAddr)) (now : Nat) (client : PublicKey × Grant) :
    ClientEntry :=
  ⟨client.2.name, this.presence live now client.1 client.2.name⟩

def snapshot (this : Keeper) (policy : Policy) (live : List (PublicKey × SocketAddr)) (listen : SocketAddr)
    (tcpFallback : Bool) (up now : Nat) : ServerStatus where
  listen := listen
  tcpFallback := tcpFallback
  up := asSecs up
  clients := (policy.byKey.toList.map (this.entry live now)).mergeSort (·.name ≤ ·.name)
  unknownKeys := this.knocks.map fun attempt =>
    ⟨attempt.key, attempt.remote, attempt.times, asSecs (now - attempt.last)⟩

end Keeper

/-- A server, and the task that keeps its events. `queue` holds those told and not applied yet, and
`applied` those that are, with when. -/
structure Monitor where
  server : Watched
  queue : List Told
  applied : List (Told × Nat)
  keeper : Keeper
  now : Nat

namespace Monitor

def start (now : Nat) : Monitor := ⟨.new, [], [], .default, now⟩

inductive Event
  | server (act : Watched.Act)
  | apply
  | tick (elapsed : Nat)

def step [Ipnet] (policy : Policy) (this : Monitor) : Event → Option Monitor
  | .server act => do
      let (server, told) ← this.server.step policy act
      some { this with server, queue := this.queue ++ told.toList }
  | .apply =>
      match this.queue with
      | [] => none
      | told :: queue =>
          some { this with
            queue
            applied := this.applied ++ [(told, this.now)]
            keeper := this.keeper.apply told.event this.now }
  | .tick elapsed => some { this with now := this.now + elapsed }

def Event.Real (this : Monitor) : Event → Prop
  | .server act => act.Real this.server
  | _ => True

/-- Every event told so far, in order. -/
def told (this : Monitor) : List Told := this.applied.map (·.1) ++ this.queue

end Monitor

def monitor [Ipnet] (policy : Policy) : Lib.System Monitor Monitor.Event where
  initial this := ∃ now, this = .start now
  step this event next := event.Real this ∧ this.step policy event = some next

end Hawse.Status
