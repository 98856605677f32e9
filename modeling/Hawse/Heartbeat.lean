import Hawse.Lib.System

namespace Hawse.Heartbeat

/-! Times are in nanoseconds. -/

def pingEvery : Nat := 15000000000

def pongDeadline : Nat := 45000000000

inductive Side
  | client
  | server
deriving DecidableEq

def Side.other : Side → Side
  | .client => .server
  | .server => .client

inductive Msg
  | welcome
  | ping (nonce : Nat)
  | pong (nonce : Nat)
  | other
deriving DecidableEq

/-- Where a session's task is: the client waits for its welcome and then asks for its services, and
from then on each is in a turn's `select!`, in the send that ends a turn, or, on the server, waiting
for an unbound port to be given back. -/
inductive Stage
  | greeting
  | asking (since : Nat) (binds : Nat)
  | selecting
  | sending
  | freeing
  | ended (unresponsive : Bool)
deriving DecidableEq

structure Loop where
  lastHeard : Nat
  /-- When the ping interval next ticks. -/
  tick : Nat
  nonce : Nat
  stage : Stage

def Loop.replying (this : Loop) : Option Msg → Loop
  | some _ => { this with stage := .sending }
  | none => { this with stage := .selecting }

/-- `flight` is what is on the control stream to a side, oldest first, with when it was sent. -/
structure State where
  now : Nat
  loop : Side → Loop
  flight : Side → List (Nat × Msg)

namespace State
variable (this : State)

def set (side : Side) (loop : Loop) : State := { this with loop := Function.update this.loop side loop }

/-- What a side sends is on its way from when it starts to send it. -/
def send (side : Side) (msg : Option Msg) : State :=
  { this with
    flight := Function.update this.flight side.other (this.flight side.other ++ (msg.map fun msg => (this.now, msg)).toList) }

def take (side : Side) (rest : List (Nat × Msg)) : State := { this with flight := Function.update this.flight side rest }

end State

/-- What a message may be answered with. A `Bind` the server hears is answered; anything else of
`other` is or is not. -/
def Answers : Msg → Option Msg → Prop
  | .ping nonce, reply => reply = some (.pong nonce)
  | .pong _, reply => reply = none
  | .other, reply => reply = none ∨ reply = some .other
  | .welcome, _ => False

inductive Event
  | pass (time : Nat)
  | welcomed (binds : Nat)
  | asked
  | began
  | ping (side : Side)
  | turn (side : Side) (reply : Option Msg)
  | heard (side : Side) (reply : Option Msg)
  | unbinds
  | freed
  | sent (side : Side)
  | expires (side : Side)
  | leaves (side : Side)

inductive Step : State → Event → State → Prop
  | pass {s : State} (time : Nat) : Step s (.pass time) { s with now := s.now + time }
  | welcomed {s : State} {sentAt : Nat} {rest : List (Nat × Msg)} (binds : Nat) : (s.loop .client).stage = .greeting →
      s.flight .client = (sentAt, .welcome) :: rest →
      Step s (.welcomed binds) ((s.take .client rest).set .client ⟨s.now, s.now, 0, .asking s.now binds⟩)
  | asked {s : State} {since binds : Nat} : (s.loop .client).stage = .asking since (binds + 1) →
      Step s .asked ((s.send .client (some .other)).set .client { s.loop .client with stage := .asking since binds })
  | began {s : State} {since : Nat} : (s.loop .client).stage = .asking since 0 →
      Step s .began (s.set .client ⟨s.now, s.now + pingEvery, 0, .selecting⟩)
  -- The interval counts on from a tick it is hardly late for, and otherwise from now, as `Delay` says.
  | ping {s : State} (side : Side) {tick : Nat} : (s.loop side).stage = .selecting → (s.loop side).tick ≤ s.now →
      (tick = (s.loop side).tick + pingEvery ∨ tick = s.now + pingEvery) →
      Step s (.ping side) ((s.send side (some (.ping ((s.loop side).nonce + 1)))).set side
        { s.loop side with tick, nonce := (s.loop side).nonce + 1, stage := .sending })
  -- What a reload left to say, a policy or a set of services taken up, a stream accepted.
  | turn {s : State} (side : Side) (reply : Option Msg) : (s.loop side).stage = .selecting →
      (reply = none ∨ reply = some .other) →
      Step s (.turn side reply) ((s.send side reply).set side ((s.loop side).replying reply))
  | heard {s : State} (side : Side) {sentAt : Nat} {msg : Msg} {rest : List (Nat × Msg)} (reply : Option Msg) :
      (s.loop side).stage = .selecting → s.flight side = (sentAt, msg) :: rest → Answers msg reply →
      Step s (.heard side reply)
        (((s.take side rest).send side reply).set side ({ s.loop side with lastHeard := s.now }.replying reply))
  | unbinds {s : State} {sentAt : Nat} {rest : List (Nat × Msg)} : (s.loop .server).stage = .selecting →
      s.flight .server = (sentAt, .other) :: rest →
      Step s .unbinds ((s.take .server rest).set .server { s.loop .server with lastHeard := s.now, stage := .freeing })
  | freed {s : State} : (s.loop .server).stage = .freeing →
      Step s .freed (s.set .server { s.loop .server with stage := .selecting })
  | sent {s : State} (side : Side) : (s.loop side).stage = .sending →
      Step s (.sent side) (s.set side { s.loop side with stage := .selecting })
  | expires {s : State} (side : Side) : (s.loop side).stage = .selecting ∨ (s.loop side).stage = .sending →
      (s.loop side).lastHeard + pongDeadline ≤ s.now →
      Step s (.expires side) (s.set side { s.loop side with stage := .ended true })
  -- Every other end: told to stop, the stream closed or failed, a message that may not be sent.
  | leaves {s : State} (side : Side) : (∀ unresponsive, (s.loop side).stage ≠ .ended unresponsive) →
      Step s (.leaves side) (s.set side { s.loop side with stage := .ended false })

/-- From the server's welcome, with its first ping due at once. What the client has heard of counts
only from `began` on. -/
def start (now : Nat) : State where
  now := now
  loop
    | .client => ⟨now, now, 0, .greeting⟩
    | .server => ⟨now, now, 0, .selecting⟩
  flight
    | .client => [(now, .welcome)]
    | .server => []

def Stage.InLoop (stage : Stage) : Prop := stage = .selecting ∨ stage = .sending ∨ stage = .freeing

def Stage.Ended (stage : Stage) : Prop := ∃ unresponsive, stage = .ended unresponsive

/-- How quick a session is: its client sends its binds within `asks`, a ping goes out within `late`
of its tick, and what a side sends is heard within `delay`, for as long as both are there. -/
structure Quick where
  asks : Nat
  late : Nat
  delay : Nat

structure Quick.Meets (quick : Quick) (s : State) : Prop where
  asks : ∀ since binds, (s.loop .client).stage = .asking since binds → s.now ≤ since + quick.asks
  late : ∀ side, (s.loop side).stage.InLoop → s.now ≤ (s.loop side).tick + quick.late
  delay : ∀ side, ¬ (s.loop side).stage.Ended → ¬ (s.loop side.other).stage.Ended →
    ∀ sent ∈ s.flight side, s.now ≤ sent.1 + quick.delay

/-- A session that is as quick at every moment. -/
def heartbeat (quick : Quick) : Lib.System State Event where
  initial s := ∃ now, s = start now
  step s event t := Step s event t ∧ quick.Meets t

end Hawse.Heartbeat
