import Hawse.Client.Services
import Hawse.Server.Session

namespace Hawse

/-- One session: its two loops, and what the control stream carries each way, oldest first. -/
structure Control where
  client : Client.Serve
  server : Server.Serve
  toServer : List ClientMessage
  toClient : List ServerMessage
  ended : Bool

namespace Control
variable [Ipnet]

inductive Event
  | client (event : Client.Serve.Event)
  | server (event : Server.Serve.Event)

def deliver (this : Control) : Event → Option Control
  | .client (.heard msg) =>
      if this.toClient.head? = some msg then some { this with toClient := this.toClient.tail } else none
  | .server (.heard msg _) =>
      if this.toServer.head? = some msg then some { this with toServer := this.toServer.tail } else none
  | _ => some this

def turn (remote : SocketAddr) (this : Control) : Event → Option Control
  | .client event =>
      match this.client.step remote event with
      | none => none
      | some (.error _, client) => some { this with client, ended := true }
      | some (.ok sent, client) => some { this with client, toServer := this.toServer ++ sent.toList }
  | .server event =>
      match this.server.step event with
      | none => none
      | some (sent, server) =>
          some { this with server, toClient := this.toClient ++ sent.toList, ended := server.ended }

def step (remote : SocketAddr) (this : Control) (event : Event) : Option Control :=
  match this.deliver event with
  | none => none
  | some this => this.turn remote event

theorem step_server {remote : SocketAddr} {this next : Control} {event : Server.Serve.Event}
    (stepped : this.step remote (.server event) = some next) :
    (∃ msg opened, event = .heard msg opened) ∨
      (∀ msg opened, event ≠ .heard msg opened) ∧ this.turn remote (.server event) = some next := by
  cases event with
  | heard msg opened => exact .inl ⟨msg, opened, rfl⟩
  | reload | pop | ping | regrant | stop => exact .inr ⟨by rintro _ _ ⟨⟩, stepped⟩

def Event.Real (this : Control) : Event → Prop
  | .server event => event.Real this.server
  | .client _ => True

def start (exposed : Std.ExtTreeMap String Client.Expose) (key : PublicKey) (grant : Server.Grant)
    (policy : Server.Policy) : Control where
  client := .new exposed
  server := .start key grant policy
  toServer := Client.Serve.greeting exposed
  toClient := []
  ended := false

structure AtRest (this : Control) : Prop where
  running : this.ended = false
  toServer : this.toServer = []
  toClient : this.toClient = []
  clientPending : this.client.pending = []
  serverPending : this.server.pending = []
  clientTaken : this.client.changed = false
  serverTaken : this.server.changed = false

end Control

def control [Ipnet] (remote : SocketAddr) (key : PublicKey) : Lib.System Control Control.Event where
  initial this := ∃ exposed grant policy, policy.lookup key = some grant ∧
    this = Control.start exposed key grant policy
  step this event next :=
    this.ended = false ∧ event.Real this ∧ this.step remote event = some next

end Hawse
