import Hawse.Allow
import Hawse.Lib.System
import Hawse.Server.Ports

namespace Hawse.Server
open Std (ExtTreeMap)

structure Grant where
  name : String
  ports : List PortRange
  bind : IpAddr
  allow : List IpNet
deriving DecidableEq

def Grant.allows (grant : Grant) (port : Port) : Bool := grant.ports.any (·.contains port)

structure Policy where
  byKey : ExtTreeMap PublicKey Grant

def Policy.lookup (policy : Policy) (key : PublicKey) : Option Grant := policy.byKey[key]?

/-- A bound service, with what the task it stops was started on: the address of its socket, whom it
admits, and whether its packets carry the visitor. -/
structure BoundService where
  id : UInt16
  port : Port
  fixed : Bool
  addr : IpAddr
  allow : AllowList
  proxyProtocol : Bool
deriving DecidableEq

structure Session where
  key : PublicKey
  grant : Grant
  services : ExtTreeMap String BoundService
  lastId : UInt16

namespace Session

def new (key : PublicKey) (grant : Grant) : Session := ⟨key, grant, ∅, 0⟩

/-- `u16::checked_add` of one. -/
def nextId (lastId : UInt16) : Option UInt16 := if lastId = 65535 then none else some (lastId + 1)

def usedEveryId : String := "this session has used every service id, and a new one starts over"

section
variable [Ipnet]

def check (this : Session) (service : String) (allow : List IpNet) :
    Except ServerMessage (AllowList × UInt16) :=
  match Name.validate service with
  | .error _ => .error (.bindFailed service .badName)
  | .ok () =>
      if this.services.contains service then .error (.bindFailed service .inUse)
      else
        match AllowList.effective allow this.grant.allow with
        | none => .error (.bindFailed service .notGranted)
        | some allow =>
            match nextId this.lastId with
            | none => .error (.shutdown usedEveryId)
            | some id => .ok (allow, id)

def bound (this : Session) (service : String) (port : Port) (fixed : Bool) (allow : AllowList)
    (id : UInt16) (proxyProtocol : Bool) : ServerMessage × Session :=
  (.bound service id port.number this.grant.bind,
    { this with
      lastId := id
      services := this.services.insert service
        ⟨id, port, fixed, this.grant.bind, allow, proxyProtocol⟩ })

/-- `opened` is what `open` returns, when it is called. -/
def bind (this : Session) (service : String) (port : Option UInt16) (allow : List IpNet)
    (proxyProtocol : Bool) (opened : Except BindFailure Port) : ServerMessage × Session :=
  match this.check service allow with
  | .error reply => (reply, this)
  | .ok (allow, id) =>
      match opened with
      | .error reason => (.bindFailed service reason, this)
      | .ok opened => this.bound service opened port.isSome allow id proxyProtocol

end

def unbind (this : Session) (service : String) : Option Port × Session :=
  (this.services[service]?.map (·.port), { this with services := this.services.erase service })

def unauthorized : String := "this key is no longer authorized on the server"

def grantChanged : String := "this client's grant changed on the server"

def lost (this : Session) : List String :=
  (this.services.toList.filter fun (_, bound) => bound.fixed && !this.grant.allows bound.port).map (·.1)

def unbindAll (this : Session) (services : List String) : Session :=
  services.foldl (fun this service => (this.unbind service).2) this

def regrant (this : Session) (policy : Policy) : List ServerMessage × Session :=
  match policy.lookup this.key with
  | none => ([.shutdown unauthorized], this)
  | some grant =>
      if (grant.name, grant.bind, grant.allow) ≠ (this.grant.name, this.grant.bind, this.grant.allow)
      then ([.shutdown grantChanged], this)
      else
        let this := { this with grant }
        (this.lost.map (.bindFailed · .notGranted), this.unbindAll this.lost)

def claim (grant : Grant) (kind : Kind) (fixed : Option UInt16) (ports : PortAllocator) :
    Except BindFailure Port × PortAllocator :=
  match fixed with
  | some number =>
      let port : Port := ⟨number, kind⟩
      if !grant.allows port then (.error .notGranted, ports)
      else
        match ports.claim port with
        | (.ok (), ports) => (.ok port, ports)
        | (.error reason, ports) => (.error reason, ports)
  | none =>
      match ports.claimDynamic kind with
      | (some port, ports) => (.ok port, ports)
      | (none, ports) => (.error .inUse, ports)

end Session

/-- Where a run of `open` is: about to claim, claimed and asking the host for a socket, or out of
its loop and giving back what the host refused. -/
inductive Opening
  | claiming
  | binding (port : Port)
  | leaving (outcome : Except BindFailure Port)

structure Walk where
  kind : Kind
  fixed : Option UInt16
  refused : List Port
  stage : Opening

namespace Walk

def start (kind : Kind) (fixed : Option UInt16) : Walk := ⟨kind, fixed, [], .claiming⟩

def claim (this : Walk) (grant : Grant) (ports : PortAllocator) : Walk × PortAllocator :=
  match Session.claim grant this.kind this.fixed ports with
  | (.ok port, ports) => ({ this with stage := .binding port }, ports)
  | (.error reason, ports) => ({ this with stage := .leaving (.error reason) }, ports)

def host (this : Walk) (port : Port) (accepts : Bool) : Walk :=
  if accepts then { this with stage := .leaving (.ok port) }
  else
    { this with
      refused := this.refused ++ [port]
      stage := if this.fixed.isSome then .leaving (.error .inUse) else .claiming }

/-- A step of the walk, with the allocator as the other sessions leave it and any answer of the
host. -/
inductive Step (grant : Grant) : Walk → Walk → Prop
  | claim (this : Walk) (ports : PortAllocator) (claiming : this.stage = .claiming) :
      Step grant this (this.claim grant ports).1
  | host (this : Walk) (port : Port) (accepts : Bool) (binding : this.stage = .binding port) :
      Step grant this (this.host port accepts)
  | release (this : Walk) (outcome : Except BindFailure Port) (port : Port) (refused : List Port)
      (leaving : this.stage = .leaving outcome) (some_left : this.refused = port :: refused) :
      Step grant this { this with refused }

def Opens (grant : Grant) (kind : Kind) (fixed : Option UInt16) (outcome : Except BindFailure Port) :
    Prop :=
  ∃ this : Walk, Relation.ReflTransGen (Step grant) (start kind fixed) this ∧
    this.stage = .leaving outcome ∧ this.refused = []

end Walk

/-- The loop of `serve`. `policy` is what the server's reloads last published, and `changed` that
the session has not taken it up. -/
structure Serve where
  session : Session
  policy : Policy
  changed : Bool
  pending : List ServerMessage
  nonce : UInt64
  ended : Bool

namespace Serve
variable [Ipnet]

inductive Event
  | reload (policy : Policy)
  | pop
  | ping
  | regrant (pending : List ServerMessage)
  | heard (msg : ClientMessage) (opened : Except BindFailure Port)
  | stop

def stop (this : Serve) : Serve :=
  { this with session := this.session.unbindAll this.session.services.keys, ended := true }

def reply (this : Serve) (msg : ServerMessage) : Serve :=
  match msg with
  | .shutdown _ => this.stop
  | _ => this

/-- A turn of the loop, and what it sent. A map's order is any, so `regrant` is given the order its
messages came in. -/
def step (this : Serve) : Event → Option (Option ServerMessage × Serve)
  | .reload policy => some (none, { this with policy, changed := true })
  | .pop =>
      match this.pending.getLast? with
      | none => none
      | some msg => some (some msg, { this with pending := this.pending.dropLast }.reply msg)
  | .ping => some (some (.ping (this.nonce + 1)), { this with nonce := this.nonce + 1 })
  | .regrant pending =>
      if this.changed ∧ this.pending = [] ∧ pending.Perm (this.session.regrant this.policy).1 then
        some (none, { this with
          session := (this.session.regrant this.policy).2, changed := false, pending })
      else none
  | .heard msg opened =>
      if this.pending = [] then
        match msg with
        | .bind service _ port allow proxyProtocol =>
            let (msg, session) := this.session.bind service port allow proxyProtocol opened
            some (some msg, { this with session }.reply msg)
        | .unbind service => some (none, { this with session := (this.session.unbind service).2 })
        | .ping nonce => some (some (.pong nonce), this)
        | .pong _ => some (none, this)
        | .hello _ _ => some (none, this.stop)
      else none
  | .stop => some (none, this.stop)

def start (key : PublicKey) (grant : Grant) (policy : Policy) : Serve where
  session := .new key grant
  policy := policy
  changed := false
  pending := []
  nonce := 0
  ended := false

/-- What `open` returned is what it can return under the session's grant. -/
def Event.Real (this : Serve) : Event → Prop
  | .heard (.bind _ kind port _ _) opened => Walk.Opens this.session.grant kind port opened
  | _ => True

end Serve

def serve [Ipnet] (key : PublicKey) (grant : Grant) : Lib.System Serve Serve.Event where
  initial this := ∃ policy, policy.lookup key = some grant ∧ this = Serve.start key grant policy
  step this event next :=
    this.ended = false ∧ event.Real this ∧ ∃ sent, this.step event = some (sent, next)

end Hawse.Server
