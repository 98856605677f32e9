import Hawse.Client.Services
import Hawse.Proto.Packet
import Hawse.Pump

namespace Hawse.Tunnel
open Pump
open Client (Target)

def unknownService : UInt32 := 0x10

def localRefused : UInt32 := 0x11

def unexpectedStream : UInt32 := 0x13

structure StreamHeader where
  serviceId : UInt16
  visitor : SocketAddr
  listener : SocketAddr

/-! ## A pump at one end of a stream -/

/-- A pump, and how many of the bytes the other end's stream took have come to it. -/
structure Joined (Err : Type) where
  pump : State Err
  arrived : Nat

namespace Joined
variable {Err : Type} (this : Joined Err)

def start (socket : List UInt8) : Joined Err := ⟨.start socket [], 0⟩

/-- Whether the stream is at its end: the other end finished it, and all it took has come. -/
def AtEnd (peer : Option Upward) (lost : Bool) : Prop :=
  lost = false ∧ ∃ up, peer = some up ∧ up.finishing = true ∧ up.reset = none ∧ this.arrived = up.taken.length

/-- Bytes on their way come to the stream, at most `n + 1` of them. -/
def arrive (peer : Option Upward) (n : Nat) : Option (Joined Err) :=
  match peer with
  | none => none
  | some up =>
      if this.arrived < up.taken.length then
        let down := this.pump.down
        let came := (up.taken.drop this.arrived).take (n + 1)
        some ⟨{ this.pump with down := { down with source := down.source ++ came } }, this.arrived + came.length⟩
      else none

end Joined

/-! ## The two tasks -/

/-- The task a listener spawns for a visitor. -/
inductive Visit (Err : Type)
  | opening
  | heading
  | pumping (side : Joined Err)
  | aborted

/-- `serve_stream` and `visitor::serve`. What has been written of the greeting stands before what is
left of it. -/
inductive Serve (Err : Type)
  | reading
  | found (header : StreamHeader)
  | connecting (header : StreamHeader) (target : Target)
  | greeting (header : StreamHeader) (target : Target) (written rest : List UInt8)
  | pumping (header : StreamHeader) (target : Target) (side : Joined Err)
  | refused (code : UInt32)

def Visit.sends {Err : Type} : Visit Err → Option Upward
  | .pumping side => some side.pump.up
  | _ => none

def Serve.sends {Err : Type} : Serve Err → Option Upward
  | .pumping _ _ side => some side.pump.up
  | _ => none

def greeting (header : StreamHeader) (target : Target) : List UInt8 :=
  if target.proxyProtocol then Proxy.v2Tcp header.visitor header.listener else []

structure State (Err : Type) where
  server : Visit Err
  client : Serve Err
  lost : Bool

/-- How the awaits of either task resolve, and what the connection under them does. `found` is what
`targets` has for the service, and `greets k` a write of at most `k + 1` bytes. -/
inductive Event (Err : Type)
  | opened
  | openFails
  | headed
  | headFails
  | server (event : Pump.Event Err)
  | toServer (n : Nat)
  | read
  | readFails
  | found (target : Option Target)
  | connected
  | connectFails
  | greets (k : Nat)
  | greetFails
  | client (event : Pump.Event Err)
  | toClient (n : Nat)
  | lose

/-- What the two tasks are given. -/
structure Setting where
  send : SendHalf
  serverBuffer : Nat
  clientBuffer : Nat
  header : StreamHeader
  /-- What the visitor sends before its EOF, and the local service before its. -/
  visitor : List UInt8
  service : List UInt8

def greet {Err : Type} (setting : Setting) (header : StreamHeader) (target : Target) (written : List UInt8) :
    List UInt8 → Serve Err
  | [] => .pumping header target (.start setting.service)
  | rest => .greeting header target written rest

/-- A step of a pump; it reads an end only where there is one. -/
inductive Pumps {Err : Type} (send : SendHalf) (buffer : Nat) (peer : Option Upward) (lost : Bool) :
    Joined Err → Pump.Event Err → Joined Err → Prop
  | step {side : Joined Err} {event : Pump.Event Err} {next : Pump.State Err} :
      side.pump.step send buffer event = some next →
      (∀ k, event = .down (.read k) → side.pump.down.source = [] → side.AtEnd peer lost) →
      Pumps send buffer peer lost side event ⟨next, side.arrived⟩

inductive Step {Err : Type} (setting : Setting) : State Err → Event Err → State Err → Prop
  | opened {s : State Err} : s.server = .opening → Step setting s .opened { s with server := .heading }
  | openFails {s : State Err} : s.server = .opening → Step setting s .openFails { s with server := .aborted }
  | headed {s : State Err} : s.server = .heading →
      Step setting s .headed { s with server := .pumping (.start setting.visitor) }
  | headFails {s : State Err} : s.server = .heading → Step setting s .headFails { s with server := .aborted }
  | server {s : State Err} {side next : Joined Err} {event : Pump.Event Err} : s.server = .pumping side →
      Pumps setting.send setting.serverBuffer s.client.sends s.lost side event next →
      Step setting s (.server event) { s with server := .pumping next }
  | toServer {s : State Err} {side next : Joined Err} {n : Nat} : s.server = .pumping side → s.lost = false →
      side.arrive s.client.sends n = some next → Step setting s (.toServer n) { s with server := .pumping next }
  | read {s : State Err} {side : Joined Err} : s.client = .reading → s.server = .pumping side → s.lost = false →
      Step setting s .read { s with client := .found setting.header }
  | readFails {s : State Err} : s.client = .reading →
      Step setting s .readFails { s with client := .refused unexpectedStream }
  | found {s : State Err} {header : StreamHeader} {target : Target} : s.client = .found header →
      Step setting s (.found (some target)) { s with client := .connecting header target }
  | unknown {s : State Err} {header : StreamHeader} : s.client = .found header →
      Step setting s (.found none) { s with client := .refused unknownService }
  | connected {s : State Err} {header : StreamHeader} {target : Target} : s.client = .connecting header target →
      Step setting s .connected { s with client := greet setting header target [] (greeting header target) }
  | connectFails {s : State Err} {header : StreamHeader} {target : Target} : s.client = .connecting header target →
      Step setting s .connectFails { s with client := .refused localRefused }
  | greets {s : State Err} {header : StreamHeader} {target : Target} {written rest : List UInt8} {k : Nat} :
      s.client = .greeting header target written rest →
      Step setting s (.greets k)
        { s with client := greet setting header target (written ++ rest.take (k + 1)) (rest.drop (k + 1)) }
  | greetFails {s : State Err} {header : StreamHeader} {target : Target} {written rest : List UInt8} :
      s.client = .greeting header target written rest →
      Step setting s .greetFails { s with client := .refused localRefused }
  | client {s : State Err} {header : StreamHeader} {target : Target} {side next : Joined Err} {event : Pump.Event Err} :
      s.client = .pumping header target side →
      Pumps setting.send setting.clientBuffer s.server.sends s.lost side event next →
      Step setting s (.client event) { s with client := .pumping header target next }
  | toClient {s : State Err} {header : StreamHeader} {target : Target} {side next : Joined Err} {n : Nat} :
      s.client = .pumping header target side → s.lost = false → side.arrive s.server.sends n = some next →
      Step setting s (.toClient n) { s with client := .pumping header target next }
  | lose {s : State Err} : Step setting s .lose { s with lost := true }

/-- One visitor's connection, from the listener that accepted it to the local service. The stream
between keeps the order of what it takes and ends only where it was finished, as either transport's
does; it may be lost at any time. -/
def tunnel {Err : Type} (setting : Setting) : Lib.System (State Err) (Event Err) where
  initial s := s = ⟨.opening, .reading, false⟩
  step := Step setting

/-! ## What the two ends see -/

/-- The end's socket was read to its EOF, and the stream finished. -/
def Finished (peer : Option Upward) : Prop := ∃ up, peer = some up ∧ up.finishing = true

/-- The application behind the socket is given an end, or the socket is let go of without a reset. -/
def Joined.Ends {Err : Type} (this : Joined Err) : Prop :=
  this.pump.down.stage = .shutdown ∨ this.pump.down.stage = .done ∨
    this.pump.outcome ≠ .running ∧ this.pump.socketAborted = false

namespace State
variable {Err : Type} (this : State Err)

def visitorGot : List UInt8 :=
  match this.server with
  | .pumping side => side.pump.down.taken
  | _ => []

def VisitorEnds : Prop := ∃ side, this.server = .pumping side ∧ side.Ends

def serviceGot : List UInt8 :=
  match this.client with
  | .greeting _ _ written _ => written
  | .pumping header target side => greeting header target ++ side.pump.down.taken
  | _ => []

def ServiceEnds : Prop := ∃ header target side, this.client = .pumping header target side ∧ side.Ends

/-- The client refused the visitor, or its pump was over before the service's end was read. -/
def Broken : Prop :=
  (∃ code, this.client = .refused code) ∨
    ∃ header target side, this.client = .pumping header target side ∧ side.pump.outcome ≠ .running ∧
      side.pump.up.finishing = false

/-- What the local service of `target` is to get of the visitor. -/
def Promised (setting : Setting) (target : Target) : List UInt8 := greeting setting.header target ++ setting.visitor

def target : Option Target :=
  match this.client with
  | .connecting _ target | .greeting _ target _ _ | .pumping _ target _ => some target
  | _ => none

end State
end Hawse.Tunnel
