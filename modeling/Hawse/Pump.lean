import Hawse.Lib.System

namespace Hawse.Pump

def aborted : UInt32 := 0x12

structure Stats where
  toStream : Nat
  toSocket : Nat
deriving DecidableEq

inductive PumpError (Err : Type)
  | socket (err : Err)
  | stream (err : Err)

inductive SendHalf
  | quic
  | tcp

inductive ToStream
  | reading
  | writing (rest : List UInt8)
  | flushing
  | finishing
  | done
deriving DecidableEq

def ToStream.write (send : SendHalf) : List UInt8 → ToStream
  | [] => match send with
      | .quic => .reading
      | .tcp => .flushing
  | rest => .writing rest

/-- `to_stream` and the two ends it copies between: what the socket has left before its EOF, and
what the stream has taken, whether it was told to finish and what it was reset with. -/
structure Upward where
  stage : ToStream
  total : Nat
  fromLocal : Nat
  /-- `ResetOnDrop` still holds the send half. -/
  guarded : Bool
  source : List UInt8
  taken : List UInt8
  finishing : Bool
  reset : Option UInt32

/-- How the await of an `Upward` resolves. `read k` and `takes k` are of at most `k + 1` bytes. -/
inductive Upward.Event (Err : Type)
  | read (k : Nat)
  | readFails (err : Err)
  | takes (k : Nat)
  | writeFails (err : Err)
  | flushed
  | finished (result : Except Err Unit)

def Upward.step {Err : Type} (send : SendHalf) (up : Upward) :
    Upward.Event Err → Option (Except (PumpError Err) Upward)
  | .read k =>
      if up.stage = .reading then
        let chunk := up.source.take (k + 1)
        if chunk.length = 0 then
          -- The guard lets go of the send half, and `finish` is polled at once.
          some (.ok { up with stage := .finishing, guarded := false, finishing := true })
        else
          some (.ok { up with
            stage := .writing chunk
            total := up.total + chunk.length
            fromLocal := up.fromLocal + chunk.length
            source := up.source.drop (k + 1) })
      else none
  | .readFails err => if up.stage = .reading then some (.error (.socket err)) else none
  | .takes k =>
      match up.stage with
      | .writing rest =>
          some (.ok { up with
            stage := .write send (rest.drop (k + 1))
            taken := up.taken ++ rest.take (k + 1) })
      | _ => none
  | .writeFails err =>
      match up.stage with
      | .writing _ | .flushing => some (.error (.stream err))
      | _ => none
  | .flushed => if up.stage = .flushing then some (.ok { up with stage := .reading }) else none
  | .finished _ => if up.stage = .finishing then some (.ok { up with stage := .done }) else none

def Upward.drop (up : Upward) : Upward :=
  if up.guarded then { up with guarded := false, reset := some aborted } else up

inductive ToSocket
  | reading
  | writing (rest : List UInt8)
  | shutdown
  | done
deriving DecidableEq

def ToSocket.write : List UInt8 → ToSocket
  | [] => .reading
  | rest => .writing rest

structure Downward where
  stage : ToSocket
  total : Nat
  towardLocal : Nat
  source : List UInt8
  taken : List UInt8

inductive Downward.Event (Err : Type)
  | read (k : Nat)
  | readFails (err : Err)
  | takes (k : Nat)
  | writeFails (err : Err)
  | shutdown (result : Except Err Unit)

def Downward.step {Err : Type} (buffer : Nat) (down : Downward) :
    Downward.Event Err → Option (Except (PumpError Err) Downward)
  | .read k =>
      if down.stage = .reading then
        let chunk := down.source.take (min (k + 1) buffer)
        if chunk.length = 0 then some (.ok { down with stage := .shutdown })
        else
          some (.ok { down with
            stage := .writing chunk
            total := down.total + chunk.length
            towardLocal := down.towardLocal + chunk.length
            source := down.source.drop (min (k + 1) buffer) })
      else none
  | .readFails err => if down.stage = .reading then some (.error (.stream err)) else none
  | .takes k =>
      match down.stage with
      | .writing rest =>
          some (.ok { down with
            stage := .write (rest.drop (k + 1))
            taken := down.taken ++ rest.take (k + 1) })
      | _ => none
  | .writeFails err =>
      match down.stage with
      | .writing _ => some (.error (.socket err))
      | _ => none
  | .shutdown _ => if down.stage = .shutdown then some (.ok { down with stage := .done }) else none

inductive Outcome (Err : Type)
  | running
  | dropped
  | returned (result : Except (PumpError Err) Stats)

structure State (Err : Type) where
  up : Upward
  down : Downward
  finished : Bool
  /-- What the drop of `AbortOnDrop` did to the socket. -/
  socketAborted : Bool
  outcome : Outcome Err

inductive Event (Err : Type)
  | up (event : Upward.Event Err)
  | down (event : Downward.Event Err)
  | drop

namespace State
variable {Err : Type}

def leave (this : State Err) (outcome : Outcome Err) : State Err :=
  { this with up := this.up.drop, socketAborted := !this.finished, outcome }

def join (this : State Err) : State Err :=
  if this.up.stage = .done ∧ this.down.stage = .done then
    { this with finished := true }.leave (.returned (.ok ⟨this.up.total, this.down.total⟩))
  else this

def step (send : SendHalf) (buffer : Nat) (this : State Err) (event : Event Err) :
    Option (State Err) :=
  match this.outcome, event with
  | .running, .up event =>
      match this.up.step send event with
      | none => none
      | some (.error err) => some (this.leave (.returned (.error err)))
      | some (.ok up) => some { this with up }.join
  | .running, .down event =>
      match this.down.step buffer event with
      | none => none
      | some (.error err) => some (this.leave (.returned (.error err)))
      | some (.ok down) => some { this with down }.join
  | .running, .drop => some (this.leave .dropped)
  | _, _ => none

/-- At the first await. `try_join!` polls `to_stream` first, so the guard is there before a poll
returns. -/
def start (socket stream : List UInt8) : State Err where
  up :=
    { stage := .reading, total := 0, fromLocal := 0, guarded := true, source := socket, taken := []
      finishing := false, reset := none }
  down := { stage := .reading, total := 0, towardLocal := 0, source := stream, taken := [] }
  finished := false
  socketAborted := false
  outcome := .running

end State

/-- A pump between a socket that sends `socket` before its EOF and a stream that sends `stream`,
with the two directions' awaits resolved in any order and any way. -/
def pump {Err : Type} (send : SendHalf) (buffer : Nat) (socket stream : List UInt8) :
    Lib.System (State Err) (Event Err) where
  initial this := this = State.start socket stream
  step this event next := this.step send buffer event = some next

end Hawse.Pump
