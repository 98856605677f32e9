import Hawse.Proto.Msg

namespace Hawse.Client
open Std (ExtTreeMap)

structure Expose where
  localAddr : String
  port : PortRequest
  allow : List IpNet
  proxyProtocol : Bool
deriving DecidableEq

def bind (service : String) (expose : Expose) : ClientMessage :=
  match expose.port with
  | .any kind => .bind service kind none expose.allow expose.proxyProtocol
  | .fixed port => .bind service port.kind (some port.number) expose.allow expose.proxyProtocol

/-- Whether a service of one map, with the settings it has there, has to be unbound or bound anew
because of the other map or of `retry`. -/
def differs (retry : Finset String) (other : ExtTreeMap String Expose) (service : String)
    (expose : Expose) : Bool :=
  service ∈ retry ∨ other[service]? ≠ some expose

def rebind (exposed next : ExtTreeMap String Expose) (retry : Finset String) : List ClientMessage :=
  ((exposed.toList.filter fun (service, expose) => differs retry next service expose).map
      fun (service, _) => .unbind service) ++
    (next.toList.filter fun (service, expose) => differs retry exposed service expose).map
      fun (service, expose) => bind service expose

structure Services where
  exposed : ExtTreeMap String Expose
  ids : ExtTreeMap String UInt16
  failed : Finset String
  unanswered : ExtTreeMap String Nat

namespace Services

def new (exposed : ExtTreeMap String Expose) : Services where
  exposed := exposed
  ids := ∅
  failed := ∅
  unanswered := exposed.map fun _ _ => 1

def left (this : Services) (service : String) : Nat := this.unanswered[service]?.getD 0

def answered (this : Services) (service : String) : Bool × Services :=
  let left := this.left service - 1
  (left = 0, { this with unanswered := this.unanswered.insert service left })

def asked (this : Services) (service : String) : Services :=
  { this with unanswered := this.unanswered.insert service (this.left service + 1) }

end Services

structure Target where
  service : String
  localAddr : String
  proxyProtocol : Bool
deriving DecidableEq

structure UdpLocal where
  service : String
  id : UInt16
  localAddr : String
  proxy : Option SocketAddr
deriving DecidableEq

inductive ClientError
  | shutdown (reason : String)
  | protocol (got : String)
deriving DecidableEq

def listenerAddr (bound : IpAddr) (dialed : SocketAddr) (port : UInt16) : SocketAddr :=
  let ip := if bound.isUnspecified then dialed.ip else bound
  ⟨ip.toCanonical, port⟩

structure State where
  services : Services
  targets : ExtTreeMap UInt16 Target
  udp : ExtTreeMap UInt16 UdpLocal

namespace State

def new (exposed : ExtTreeMap String Expose) : State := ⟨.new exposed, ∅, ∅⟩

def forget (this : State) : Option UInt16 → State
  | none => this
  | some id => { this with targets := this.targets.erase id, udp := this.udp.erase id }

/-- `self.forget(services.ids.remove(service))`. -/
def forgetService (this : State) (service : String) : State :=
  { this.forget this.services.ids[service]? with
    services := { this.services with ids := this.services.ids.erase service } }

def registerBound (this : State) (service : String) (id : UInt16) (expose : Expose)
    (listener : SocketAddr) : State :=
  match expose.port.kind with
  | .udp =>
      { this with
        udp := this.udp.insert id ⟨service, id, expose.localAddr,
          if expose.proxyProtocol then some listener else none⟩ }
  | .tcp =>
      { this with
        targets := this.targets.insert id ⟨service, expose.localAddr, expose.proxyProtocol⟩ }

/-- What `reexpose` does for each message it returns. -/
def tell (this : State) : ClientMessage → State
  | .unbind service => this.forgetService service
  | .bind service _ _ _ _ => { this with services := this.services.asked service }
  | _ => this

def reexpose (this : State) (next : ExtTreeMap String Expose) : List ClientMessage × State :=
  let msgs := rebind this.services.exposed next this.services.failed
  let told := msgs.foldl tell { this with services := { this.services with failed := ∅ } }
  (msgs, { told with services := { told.services with exposed := next } })

def takeUp (this : State) (service : String) (id : UInt16) (expose : Expose)
    (listener : SocketAddr) : State :=
  let forgotten := this.forget this.services.ids[service]?
  let services := { this.services with
    failed := this.services.failed.erase service, ids := this.services.ids.insert service id }
  { forgotten with services }.registerBound service id expose listener

def heard (this : State) (remote : SocketAddr) (msg : ServerMessage) :
    Except ClientError (Option ClientMessage) × State :=
  match msg with
  | .bound service id port address =>
      let (last, services) := this.services.answered service
      let this := { this with services }
      match services.exposed[service]?.filter fun _ => last with
      | none => (.ok none, this)
      | some expose => (.ok none, this.takeUp service id expose (listenerAddr address remote port))
  | .bindFailed service _ =>
      let (last, services) := this.services.answered service
      let this := { this with services }
      if !last then (.ok none, this)
      else
        let this := this.forgetService service
        (.ok none, { this with services :=
          { this.services with failed := insert service this.services.failed } })
  | .ping nonce => (.ok (some (.pong nonce)), this)
  | .pong _ => (.ok none, this)
  | .shutdown reason => (.error (.shutdown (printable reason)), this)
  | .welcome _ _ | .denied _ _ => (.error (.protocol "a second greeting"), this)

end State

/-- The loop of `serve`, from where it starts to turn. `wanted` is what the client's reloads last
published, and `changed` that the session has not taken it up. -/
structure Serve where
  state : State
  wanted : ExtTreeMap String Expose
  changed : Bool
  pending : List ClientMessage
  nonce : UInt64

namespace Serve

def new (exposed : ExtTreeMap String Expose) : Serve := ⟨.new exposed, exposed, false, [], 0⟩

def greeting (exposed : ExtTreeMap String Expose) : List ClientMessage :=
  exposed.toList.map fun (service, expose) => bind service expose

inductive Event
  | reload (expose : ExtTreeMap String Expose)
  | pop
  | changed
  | ping
  | heard (msg : ServerMessage)

def step (remote : SocketAddr) (this : Serve) :
    Event → Option (Except ClientError (Option ClientMessage) × Serve)
  | .reload wanted => some (.ok none, { this with wanted, changed := true })
  | .pop =>
      match this.pending with
      | [] => none
      | msg :: pending => some (.ok (some msg), { this with pending })
  | .changed =>
      if this.changed then
        let (msgs, state) := this.state.reexpose this.wanted
        some (.ok none, { this with state, changed := false, pending := this.pending ++ msgs })
      else none
  | .ping => some (.ok (some (.ping (this.nonce + 1))), { this with nonce := this.nonce + 1 })
  | .heard msg =>
      let (reply, state) := this.state.heard remote msg
      some (reply, { this with state })

end Serve
end Hawse.Client
