import Hawse.Server.Claim
import Hawse.Server.Reload

namespace Hawse.Server

namespace Watched

/-- What a server tells whoever watches it. -/
inductive Event
  | connected (client : String) (remote : SocketAddr) (transport : TransportKind) (agent : String)
  | bound (client service : String) (bind : IpAddr) (port : Port)
  | unbound (client service : String) (port : Port)
  | ended (client : String)
  | denied (key : PublicKey) (remote : SocketAddr)
deriving DecidableEq

/-- An event, and which of the server's sessions told it, if one did. -/
structure Told where
  teller : Option Nat
  event : Event
deriving DecidableEq

end Watched

open Watched

/-- A session of `session::run` from the stake of its claim on. Before its welcome there is only its
grant, so its `session` is a new one. -/
structure Greeted where
  remote : SocketAddr
  transport : TransportKind
  agent : String
  session : Session

namespace Greeted

def name (this : Greeted) : String := this.session.grant.name

def connected (this : Greeted) : Event := .connected this.name this.remote this.transport this.agent

def bind [Ipnet] (this : Greeted) (service : String) (port : Option UInt16) (allow : List IpNet)
    (proxyProtocol : Bool) (opened : Except BindFailure Port) : Greeted × Option Event :=
  let (reply, session) := this.session.bind service port allow proxyProtocol opened
  ({ this with session },
    match reply with
    | .bound service _ _ _ =>
        session.services[service]?.map fun bound => .bound session.grant.name service bound.addr bound.port
    | _ => none)

def unbind (this : Greeted) (service : String) : Greeted × Option Event :=
  let (port, session) := this.session.unbind service
  ({ this with session }, port.map (.unbound session.grant.name service ·))

/-- `unbind_quietly`, of every service. -/
def unbindAll (this : Greeted) : Greeted :=
  { this with session := this.session.unbindAll this.session.services.keys }

end Greeted

/-- The sessions of a server under one policy. `greeted` has one for each of the `runs`. -/
structure Watched where
  claims : Claims
  greeted : List Greeted

namespace Watched

def new : Watched := ⟨.new, []⟩

inductive Act
  | stake (key : PublicKey) (remote : SocketAddr) (transport : TransportKind) (agent : String)
  | claim (event : Claims.Event)
  | bind (run : Nat) (service : String) (kind : Kind) (port : Option UInt16) (allow : List IpNet)
      (proxyProtocol : Bool) (opened : Except BindFailure Port)
  | unbind (run : Nat) (service : String)
  | denied (key : PublicKey) (remote : SocketAddr)

def update (this : Watched) (i : Nat) (greeted : Greeted) : Watched :=
  { this with greeted := this.greeted.set i greeted }

/-- `Sessions::live`. -/
def live (this : Watched) : List (PublicKey × SocketAddr) :=
  this.claims.sessions.toList.filterMap fun (key, i) => this.greeted[i]?.map fun greeted => (key, greeted.remote)

def serving (this : Watched) (i : Nat) : Option Greeted := do
  let run ← this.claims.runs[i]?
  if run.stage = .serving then this.greeted[i]? else none

/-- What a session that came one step on has to tell, and what it leaves of itself. -/
def passed (this : Watched) : Claims.Event → Watched × Option Told
  | .welcome i true => (this, this.greeted[i]?.map fun greeted => ⟨some i, greeted.connected⟩)
  | .superseded i | .ended i =>
      match this.greeted[i]? with
      | none => (this, none)
      | some greeted => (this.update i greeted.unbindAll, some ⟨some i, .ended greeted.name⟩)
  | _ => (this, none)

def step [Ipnet] (policy : Policy) (this : Watched) : Act → Option (Watched × Option Told)
  | .stake key remote transport agent => do
      let grant ← policy.lookup key
      some (⟨this.claims.stake key, this.greeted ++ [⟨remote, transport, agent, .new key grant⟩]⟩, none)
  | .claim (.stake _) => none
  | .claim event => do
      let claims ← this.claims.step event
      some ({ this with claims }.passed event)
  | .bind i service _ port allow proxyProtocol opened => do
      let greeted ← this.serving i
      let (greeted, event) := greeted.bind service port allow proxyProtocol opened
      some (this.update i greeted, event.map (⟨some i, ·⟩))
  | .unbind i service => do
      let greeted ← this.serving i
      let (greeted, event) := greeted.unbind service
      some (this.update i greeted, event.map (⟨some i, ·⟩))
  | .denied key remote =>
      if policy.lookup key = none then some (this, some ⟨none, .denied key remote⟩) else none

/-- What `open` returned is what it can return under the session's grant. -/
def Act.Real (this : Watched) : Act → Prop
  | .bind i _ kind port _ _ opened =>
      ∀ greeted, this.greeted[i]? = some greeted → Walk.Opens greeted.session.grant kind port opened
  | _ => True

end Watched
end Hawse.Server
