import Hawse.Server.Limiter
import Hawse.Server.Watch

namespace Hawse.Server

/-- Why a connection is closed. -/
inductive CloseReason
  | shutdown
  | superseded
  | denied
  | noKey
  | noHello
  | badHello
  | duplicateHello
  | unresponsive
  | peerLeft
  | controlClosed
deriving DecidableEq

namespace Door

def tcpHandshakes : Nat := 256

/-- In nanoseconds. -/
def acceptBackoff : Nat := 100000000

def enfile : Int := 23
def emfile : Int := 24

/-- `errno` is the error's number, if it has one. -/
def outOfDescriptors (errno : Option Int) : Bool := errno = some enfile ∨ errno = some emfile

/-- How far the task of a connection has come, up to the stake of its session's claim. -/
inductive Stage
  | handshaking
  /-- `session::run`, before the Hello. -/
  | greeting (key : PublicKey) (stranger : Bool)
  | denied (key : PublicKey)
  | known (key : PublicKey) (grant : Grant) (agent : String)
  | closed (reason : Option CloseReason)
deriving DecidableEq

/-- The policy has not named its key yet, nor has it gone. -/
def Stage.unknown : Stage → Bool
  | .handshaking | .greeting _ _ | .denied _ => true
  | .known _ _ _ | .closed _ => false

/-- `unproven` is whether it has its `Unproven` still. It was accepted over TCP or over QUIC, there
with an address that was `validated` before its handshake or not. -/
structure Conn where
  tcp : Bool
  validated : Bool
  remote : SocketAddr
  peerKey : Option PublicKey
  stage : Stage
  unproven : Bool
  failures : Nat

def Conn.new (tcp validated : Bool) (remote : SocketAddr) : Conn := ⟨tcp, validated, remote, none, .handshaking, tcp, 0⟩

structure Setting where
  quicRetry : Bool
  tcpFallback : Bool
  policy : Policy
  authFailuresPerMinute : UInt32

/-- `Server::serve` and the tasks it spawns. `accepting` is whether its TCP arm has a slot and waits
for a connection; `failures` are the calls of `auth_failed`, newest first. -/
structure State where
  running : Bool
  cancelled : Bool
  policy : Policy
  limiter : Limiter
  handshakes : Nat
  accepting : Bool
  resumeTcp : Option Nat
  conns : List Conn
  failures : List (IpAddr × Nat)
  events : List Watched.Event
  now : Nat

inductive Event
  | pass (time : Nat)
  | reload (policy : Policy)
  | cancel
  | stop
  | incoming (remote : SocketAddr) (validated : Bool)
  | acquire
  | accepted (remote : SocketAddr)
  | acceptFailed (errno : Option Int)
  /-- With the key the peer proved, if it did prove one. -/
  | handshake (i : Nat) (done : Option (Option PublicKey))
  /-- What the control stream begins with, if there is one in time. -/
  | hello (i : Nat) (hello : Option (Option ClientMessage))
  | lingered (i : Nat)
  | shutdown (i : Nat)

namespace State
variable (this : State)

def start (setting : Setting) (now : Nat) : State :=
  ⟨true, false, setting.policy, .new setting.authFailuresPerMinute, tcpHandshakes, false, none, [], [], [], now⟩

/-- Another arm is taken, which drops the TCP arm with its slot. -/
def dropArm : State := if this.accepting then { this with accepting := false, handshakes := this.handshakes + 1 } else this

def put (i : Nat) (conn : Conn) : State := { this with conns := this.conns.set i conn }

def authFailed (ip : IpAddr) : State :=
  { this with limiter := (this.limiter.failed ip this.now).2, failures := (ip, this.now) :: this.failures }

/-- The drop of what the connection has of an `Unproven`. -/
def letGo (conn : Conn) : State :=
  if conn.unproven then { this with limiter := this.limiter.finish conn.remote.ip, handshakes := this.handshakes + 1 }
  else this

def close (i : Nat) (conn : Conn) (reason : Option CloseReason) : State :=
  (this.letGo conn).put i { conn with stage := .closed reason, unproven := false }

/-- A failure that counts, and then the end. -/
def fail (i : Nat) (conn : Conn) (reason : Option CloseReason) : State :=
  (this.authFailed conn.remote.ip).close i { conn with failures := conn.failures + 1 } reason

/-- `admit`, which drops the slot with a no. -/
def admitConn (remote : SocketAddr) : State :=
  let (begun, limiter) := this.limiter.begin remote.ip this.now
  if begun then { this with limiter, accepting := false, conns := this.conns ++ [.new true true remote] }
  else { this with limiter, accepting := false, handshakes := this.handshakes + 1 }

def greet (i : Nat) (conn : Conn) (key : PublicKey) (stranger : Bool) : Option (Option ClientMessage) → State
  | none => if stranger then this.fail i conn (some .noHello) else this.close i conn (some .noHello)
  | some (some (.hello _ agent)) =>
      match this.policy.lookup key with
      | none =>
          { this.authFailed conn.remote.ip with events := this.events ++ [Watched.Event.denied key conn.remote] }.put i
            { conn with stage := .denied key, failures := conn.failures + 1 }
      | some grant => (this.letGo conn).put i { conn with stage := .known key grant (printable agent), unproven := false }
  | some _ => if stranger then this.fail i conn (some .badHello) else this.close i conn (some .badHello)

def step (setting : Setting) : Event → Option State
  | .pass time => some { this with now := this.now + time }
  | .reload policy => some { this with policy }
  | .cancel => some { this with cancelled := true }
  | .stop => if this.running then some { this.dropArm with running := false } else none
  | .incoming remote validated =>
      if this.running then
        let (permitted, limiter) := this.limiter.permits remote.ip this.now
        let this := { this.dropArm with limiter }
        if !permitted ∨ (setting.quicRetry ∧ !validated) then some this
        else some { this with conns := this.conns ++ [.new false validated remote] }
      else none
  | .acquire =>
      if this.running ∧ setting.tcpFallback ∧ !this.accepting ∧ 0 < this.handshakes ∧ this.resumeTcp.all (· ≤ this.now) then
        some { this with accepting := true, handshakes := this.handshakes - 1 }
      else none
  | .accepted remote => if this.accepting then some ({ this with resumeTcp := none }.admitConn remote) else none
  | .acceptFailed errno =>
      if this.accepting then
        some { this.dropArm with
          resumeTcp := if outOfDescriptors errno then some (this.now + acceptBackoff) else this.resumeTcp }
      else none
  | .handshake i done => do
      let conn ← this.conns[i]?
      if conn.stage = .handshaking then
        match done with
        -- A forged source would limit the address it names.
        | none => some (if conn.tcp ∨ conn.validated then this.fail i conn none else this.close i conn none)
        | some none => some (this.fail i conn (some .noKey))
        | some (some key) =>
            some (this.put i
              { conn with peerKey := some key, stage := .greeting key (this.policy.lookup key).isNone })
      else none
  | .hello i hello => do
      let conn ← this.conns[i]?
      match conn.stage with
      | .greeting key stranger => some (this.greet i conn key stranger hello)
      | _ => none
  | .lingered i => do
      let conn ← this.conns[i]?
      match conn.stage with
      | .denied _ => some (this.close i conn (some .denied))
      | _ => none
  | .shutdown i => do
      let conn ← this.conns[i]?
      match conn.stage with
      | .greeting _ _ => if this.cancelled then some (this.close i conn (some .shutdown)) else none
      | _ => none

end State
end Door

def door (setting : Door.Setting) : Lib.System Door.State Door.Event where
  initial this := ∃ now, this = .start setting now
  step this event next := this.step setting event = some next

end Hawse.Server
