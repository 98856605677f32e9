import Hawse.Client.Backoff
import Hawse.Client.Session
import Hawse.Heartbeat
import Hawse.Status.Client

namespace Hawse.Client
open Std (ExtTreeMap)

-- Instants are in nanoseconds.
def answered (msg : ServerMessage) (pinged : Option (UInt64 × Nat)) (now : Nat) : Option Nat :=
  match msg, pinged with
  | .pong nonce, some (sent, asked) => if nonce = sent then some (now - asked) else none
  | _, _ => none

/-- What `heard` tells of an answer. -/
def State.told (this : State) : ServerMessage → Option Event
  | .bound service _ port _ =>
      let (last, services) := this.services.answered service
      (services.exposed[service]?.filter fun _ => last).map fun expose => .bound service ⟨port, expose.port.kind⟩
  | .bindFailed service reason =>
      if (this.services.answered service).1 then some (.bindFailed service reason) else none
  | _ => none

/-- `classify`, with what the cause says. -/
def cause (chain : SessionError → String) (error : SessionError) : Cause :=
  match classify error with
  | .shutdown reason => .shutdown reason
  | .unresponsive => .unresponsive
  | .denied => .denied
  | .transport => .transport (chain error)
  | .config => .config (chain error)

namespace Run

-- The Hello a client greets with, and `error::chain`.
structure Setting where
  hello : ClientMessage
  chain : SessionError → String

structure Session where
  remote : SocketAddr
  transport : TransportKind
  serve : Serve

/-- Where `Client::run` is: before `serve`, in its greeting, in its loop, behind the loop until it has
hung up, or in the wait for the next try. -/
inductive Phase
  | dialing
  | greeting (session : Session) (asked : Nat)
  | asking (session : Session) (left : List ClientMessage)
  | serving (session : Session) (pinged : Option (UInt64 × Nat)) (lastHeard : Nat)
  | ending (outcome : Except SessionError Unit)
  | waiting (wake : Nat)
  | returned

def Session.publish (this : Session) (expose : ExtTreeMap String Expose) : Session :=
  { this with serve := { this.serve with wanted := expose, changed := true } }

def Phase.publish (expose : ExtTreeMap String Expose) : Phase → Phase
  | .greeting session asked => .greeting (session.publish expose) asked
  | .asking session left => .asking (session.publish expose) left
  | .serving session pinged lastHeard => .serving (session.publish expose) pinged lastHeard
  | phase => phase

/-- `expose` is what the reloads last published, `welcomed` when the server accepted the session, and
`events` what was emitted and when. -/
structure State where
  phase : Phase
  cancelled : Bool
  expose : ExtTreeMap String Expose
  backoff : Backoff
  welcomed : Option Nat
  now : Nat
  events : List (Event × Nat)

inductive Input
  | pass (time : Nat)
  | cancel
  | reload (expose : ExtTreeMap String Expose)
  | dialed (done : Except SessionError (SocketAddr × TransportKind))
  -- Whether the Hello goes out, and what comes back for it.
  | greeted (written : Bool) (reply : Option ServerMessage)
  | asked (written : Bool)
  | turn (event : Serve.Event) (written : Bool)
  -- The loop's ends that no message brings about.
  | broke (error : SessionError)
  | stopped
  -- With the draw of the next wait.
  | left (unit : ℚ)
  | woke

namespace State
variable (this : State)

def start (expose : ExtTreeMap String Expose) (now : Nat) : State :=
  ⟨.dialing, false, expose, .default, none, now, []⟩

/-- The channel has room, and the status is told at once. -/
def emit (event : Event) : State := { this with events := this.events ++ [(event, this.now)] }

def enter (phase : Phase) : State := { this with phase }

-- The backoff counts in seconds.
def lasted : ℚ := ((this.welcomed.map (this.now - ·)).getD 0 : Nat) / 1000000000

def nanos (wait : ℚ) : Nat := (round (wait * 1000000000)).toNat

def greet [Postcard] (setting : Setting) (session : Session) (asked : Nat) (written : Bool)
    (reply : Option ServerMessage) : State :=
  match sendMsg setting.hello written, reply with
  | .error error, _ => this.enter (.ending (.error error))
  | .ok (), some (.welcome agent name) =>
      ({ this with welcomed := some this.now }.enter (.asking session (Serve.greeting session.serve.state.services.exposed))).emit
        (.connected session.remote session.transport (printable name) (printable agent) (this.now - asked))
  | .ok (), some (.denied _ key) => (this.enter (.ending (.error .denied))).emit (.denied key)
  | .ok (), some _ => this.enter (.ending (.error (.heard (.protocol "another message"))))
  | .ok (), none => this.enter (.ending (.error .controlClosed))

def tellings (session : Session) (pinged : Option (UInt64 × Nat)) : Serve.Event → List Event
  | .heard msg =>
      (answered msg pinged this.now).toList.map Event.roundTrip ++ (session.serve.state.told msg).toList
  | _ => []

def turn [Postcard] (session : Session) (pinged : Option (UInt64 × Nat)) (lastHeard : Nat) (event : Serve.Event)
    (written : Bool) : Option State := do
  let (done, serve) ← session.serve.turn session.remote written event
  let told := (this.tellings session pinged event).foldl emit this
  match done with
  | .error error => some (told.enter (.ending (.error error)))
  | .ok () =>
      some (told.enter (.serving { session with serve }
        (match event with | .ping => some (serve.nonce, this.now) | _ => pinged)
        (match event with | .heard _ => this.now | _ => lastHeard)))

/-- What `run` makes of a session that failed. -/
def failed (setting : Setting) (error : SessionError) (unit : ℚ) : Option State :=
  if this.cancelled then some (this.enter .returned)
  else if retries error then do
    let (wait, backoff) ← this.backoff.next this.lasted unit
    some (({ this with backoff }.enter (.waiting (this.now + nanos wait))).emit
      (.disconnected (cause setting.chain error) (some (nanos wait))))
  else some ((this.enter .returned).emit (.disconnected (cause setting.chain error) none))

def step [Postcard] (setting : Setting) : Input → Option State
  | .pass time => some { this with now := this.now + time }
  | .cancel => some { this with cancelled := true }
  | .reload expose => some { this with expose, phase := this.phase.publish expose }
  | .dialed done =>
      match this.phase, done with
      | .dialing, .ok (remote, transport) =>
          some (this.enter (.greeting ⟨remote, transport, .new this.expose⟩ this.now))
      | .dialing, .error error => some (this.enter (.ending (.error error)))
      | _, _ => none
  | .greeted written reply =>
      match this.phase with
      | .greeting session asked => some (this.greet setting session asked written reply)
      | _ => none
  | .asked written =>
      match this.phase with
      | .asking session [] => some (this.enter (.serving session none this.now))
      | .asking session (msg :: left) =>
          match sendMsg msg written with
          | .error error => some (this.enter (.ending (.error error)))
          | .ok () => some (this.enter (.asking session left))
      | _ => none
  | .turn event written =>
      match this.phase, event with
      | .serving _ _ _, .reload _ => none
      | .serving session pinged lastHeard, event => this.turn session pinged lastHeard event written
      | _, _ => none
  | .broke error =>
      match this.phase, error with
      | .serving _ _ _, .controlClosed => some (this.enter (.ending (.error .controlClosed)))
      | .serving _ _ _, .transport => some (this.enter (.ending (.error .transport)))
      | .serving _ _ lastHeard, .unresponsive =>
          if lastHeard + Heartbeat.pongDeadline ≤ this.now then some (this.enter (.ending (.error .unresponsive))) else none
      | _, _ => none
  | .stopped =>
      if this.cancelled then
        match this.phase with
        | .dialing | .waiting _ => some (this.enter .returned)
        | .serving _ _ _ => some (this.enter (.ending (.ok ())))
        | _ => none
      else none
  | .left unit =>
      match this.phase with
      | .ending (.ok ()) => some (this.enter .returned)
      | .ending (.error error) => this.failed setting error unit
      | _ => none
  | .woke =>
      match this.phase with
      | .waiting wake =>
          if wake ≤ this.now then
            some (if this.cancelled then this.enter .returned else { this with welcomed := none }.enter .dialing)
          else none
      | _ => none

end State

/-- `Client::run`, over whatever the server and the network do. -/
def client [Postcard] (setting : Setting) : Lib.System State Input where
  initial this := ∃ expose now, this = .start expose now
  step this input next := this.step setting input = some next

end Run
end Hawse.Client
