import Hawse.Client.Services
import Hawse.Lib.System

namespace Hawse.Client
open Std (ExtTreeMap)

/-- A session with any server that answers every bind once and in order, and grants an id once. What
the server sends goes with the number of the bind it answers, among the binds for its service. The
last three fields keep track: what binds the client has queued and the settings each was made from,
how many of a service's the server has handled, and which of them an id was granted to. -/
structure Stream where
  client : Serve
  toServer : List ClientMessage
  toClient : List (Option Nat × ServerMessage)
  ended : Bool
  queued : List (String × Expose)
  handled : String → Nat
  granted : UInt16 → Option (String × Nat)

namespace Stream

def bindOf : ClientMessage → Option String
  | .bind service _ _ _ _ => some service
  | _ => none

def answerOf : ServerMessage → Option String
  | .bound service _ _ _ => some service
  | .bindFailed service _ => some service
  | _ => none

def made (wanted : ExtTreeMap String Expose) (msgs : List ClientMessage) : List (String × Expose) :=
  msgs.filterMap fun msg => (bindOf msg).bind fun service => wanted[service]?.map (service, ·)

/-- The settings of the binds queued for `service`, the first bind's first. -/
def settings (service : String) (queued : List (String × Expose)) : List Expose :=
  queued.filterMap fun (other, expose) => if other = service then some expose else none

/-- Besides turns of the client's loop, the server answers the bind it hears next, drops another
message it hears, or sends what no bind asked for. -/
inductive Event
  | turn (event : Serve.Event)
  | answer (reply : ServerMessage)
  | skip
  | send (msg : ServerMessage)

def deliver (this : Stream) : Serve.Event → Option Stream
  | .heard msg =>
      match this.toClient with
      | [] => none
      | (_, next) :: toClient => if next = msg then some { this with toClient } else none
  | _ => some this

def queues (this : Stream) : Serve.Event → List (String × Expose)
  | .changed => made this.client.wanted (this.client.state.reexpose this.client.wanted).1
  | _ => []

def turn (remote : SocketAddr) (this : Stream) (event : Serve.Event) : Option Stream :=
  match this.client.step remote event with
  | none => none
  | some (.error _, client) => some { this with client, ended := true }
  | some (.ok sent, client) =>
      some { this with
        client
        toServer := this.toServer ++ sent.toList
        queued := this.queued ++ this.queues event }

def answer (this : Stream) (service : String) : ServerMessage → Option Stream
  | .bound other id port address =>
      if other = service ∧ this.granted id = none then
        some { this with
          toClient := this.toClient ++ [(some (this.handled service), .bound service id port address)]
          handled := Function.update this.handled service (this.handled service + 1)
          granted := Function.update this.granted id (some (service, this.handled service)) }
      else none
  | .bindFailed other reason =>
      if other = service then
        some { this with
          toClient := this.toClient ++ [(some (this.handled service), .bindFailed service reason)]
          handled := Function.update this.handled service (this.handled service + 1) }
      else none
  | _ => none

def step (remote : SocketAddr) (this : Stream) : Event → Option Stream
  | .turn event =>
      match this.deliver event with
      | none => none
      | some this => this.turn remote event
  | .answer reply =>
      match this.toServer with
      | [] => none
      | msg :: toServer =>
          match bindOf msg with
          | none => none
          | some service => { this with toServer }.answer service reply
  | .skip =>
      match this.toServer with
      | [] => none
      | msg :: toServer => if bindOf msg = none then some { this with toServer } else none
  | .send msg =>
      match msg with
      | .bound _ _ _ _ => none
      | msg => some { this with toClient := this.toClient ++ [(none, msg)] }

def start (exposed : ExtTreeMap String Expose) : Stream where
  client := .new exposed
  toServer := Serve.greeting exposed
  toClient := []
  ended := false
  queued := exposed.toList
  handled _ := 0
  granted _ := none

def Unanswered (this : Stream) (service : String) : Prop :=
  (∃ msg ∈ this.toServer ++ this.client.pending, bindOf msg = some service) ∨
    ∃ sent ∈ this.toClient, sent.1.isSome ∧ answerOf sent.2 = some service

/-- Not the hearing of a refusal of `service` that nothing asked for, with a bind for it unanswered. -/
def Timely (service : String) (this : Stream) (event : Event) : Prop :=
  ∀ reason, event = .turn (.heard (.bindFailed service reason)) →
    this.toClient.head? = some (none, .bindFailed service reason) → ¬ this.Unanswered service

end Stream

def stream (remote : SocketAddr) : Lib.System Stream Stream.Event where
  initial this := ∃ exposed, this = Stream.start exposed
  step this event next := this.ended = false ∧ this.step remote event = some next

end Hawse.Client
