import Hawse.Lib.System
import Hawse.Proto.Msg

namespace Hawse.Server
open Std

namespace Claims

/-- How far `session::run` has come, from the stake of its claim on. The drop of a claim is two
steps: `done` fires before the lock is taken. -/
inductive Stage
  | staked (previous : Option Nat)
  | waiting (previous : Nat)
  | welcoming
  | serving
  | leaving
  | dropping
  | gone
deriving DecidableEq

/-- A session and its `Live`. -/
structure Run where
  key : PublicKey
  stage : Stage
  cancelled : Bool
  done : Bool
deriving DecidableEq

end Claims

open Claims

/-- The sessions of a server in the order they staked their claims. A place in `runs` stands for the
`Arc` of that session's `Live`. -/
structure Claims where
  runs : List Run
  sessions : ExtTreeMap PublicKey Nat

namespace Claims

def new : Claims := ⟨[], ∅⟩

inductive Event
  | stake (key : PublicKey)
  | supersede (run : Nat)
  | woken (run : Nat)
  | elapsed (run : Nat)
  | shutdown (run : Nat)
  | welcome (run : Nat) (sent : Bool)
  | superseded (run : Nat)
  | ended (run : Nat)
  | done (run : Nat)
  | giveUp (run : Nat)
deriving DecidableEq

def update (this : Claims) (i : Nat) (run : Run) : Claims := { this with runs := this.runs.set i run }

def cancel (this : Claims) (i : Nat) : Claims :=
  { this with runs := this.runs.modify i fun run => { run with cancelled := true } }

def stake (this : Claims) (key : PublicKey) : Claims where
  runs := this.runs ++ [⟨key, .staked this.sessions[key]?, false, false⟩]
  sessions := this.sessions.insert key this.runs.length

def giveUp (this : Claims) (i : Nat) (key : PublicKey) : Claims :=
  if this.sessions[key]? = some i then { this with sessions := this.sessions.erase key } else this

def step (this : Claims) : Event → Option Claims
  | .stake key => some (this.stake key)
  | .supersede i => do
      let run ← this.runs[i]?
      match run.stage with
      | .staked none => some (this.update i { run with stage := .welcoming })
      | .staked (some previous) =>
          some ((this.update i { run with stage := .waiting previous }).cancel previous)
      | _ => none
  | .woken i => do
      let run ← this.runs[i]?
      match run.stage with
      | .waiting previous =>
          let live ← this.runs[previous]?
          if live.done then some (this.update i { run with stage := .welcoming }) else none
      | _ => none
  | .elapsed i => do
      let run ← this.runs[i]?
      match run.stage with
      | .waiting _ => some (this.update i { run with stage := .welcoming })
      | _ => none
  | .shutdown i => do
      let run ← this.runs[i]?
      match run.stage with
      | .waiting _ => some (this.update i { run with stage := .leaving })
      | _ => none
  | .welcome i sent => do
      let run ← this.runs[i]?
      if run.stage = .welcoming then
        some (this.update i { run with stage := if sent then .serving else .leaving })
      else none
  | .superseded i => do
      let run ← this.runs[i]?
      if run.stage = .serving ∧ run.cancelled then some (this.update i { run with stage := .leaving })
      else none
  | .ended i => do
      let run ← this.runs[i]?
      if run.stage = .serving then some (this.update i { run with stage := .leaving }) else none
  | .done i => do
      let run ← this.runs[i]?
      if run.stage = .leaving then some (this.update i { run with stage := .dropping, done := true })
      else none
  | .giveUp i => do
      let run ← this.runs[i]?
      if run.stage = .dropping then
        some ((this.update i { run with stage := .gone }).giveUp i run.key)
      else none

end Claims

def claims : Lib.System Claims Claims.Event where
  initial this := this = .new
  step this event next := this.step event = some next

/-- No session waits out `SUPERSEDE_WAIT`, and none is stopped by a shutdown before it was welcomed. -/
def claimsUndisturbed : Lib.System Claims Claims.Event :=
  claims.restrict fun _ event => ∀ run, event ≠ .elapsed run ∧ event ≠ .shutdown run

end Hawse.Server
