import Hawse.Panel

namespace Hawse.Status
open Terminal
open Std (ExtTreeMap)

inductive LinkStatus
  | connecting
  | up (transport : TransportKind) (roundTripMs up : Nat) (agent : String)
  | down (down retryIn : Nat) (cause : String)
deriving DecidableEq

inductive Answer
  | pending
  | bound (port : Port)
  | refused (reason : BindFailure)
deriving DecidableEq

structure ServiceStatus where
  name : String
  localAddr : String
  port : PortRequest
  answer : Answer
  counts : Counts

structure ClientStatus where
  server : String
  up : Nat
  link : LinkStatus
  services : List ServiceStatus

/-- Why a session ended, as the log says it. -/
def reason : Client.Cause → String
  | .shutdown why => "server ended the session: " ++ why
  | .unresponsive => "server stopped answering"
  | .denied => "this machine's key is not authorized on the server"
  | .transport reason => reason
  | .config reason => reason

/-- What the client's events have said so far. -/
structure Model where
  link : Link
  agent : String
  cause : String
  answers : ExtTreeMap String Answer

namespace Model

def default : Model := ⟨.connecting, "", "", ∅⟩

def apply (this : Model) (event : Client.Event) (now : Nat) : Model :=
  match event with
  | .connected _ transport _ agent roundTrip =>
      { this with link := .up transport roundTrip now, agent, answers := ∅ }
  | .roundTrip latest => { this with link := this.link.measured latest }
  | .bound service port => { this with answers := this.answers.insert service (.bound port) }
  | .bindFailed service reason => { this with answers := this.answers.insert service (.refused reason) }
  | .denied _ => this
  | .disconnected cause retryIn => { this with link := this.link.lost retryIn now, cause := reason cause }

def linked (this : Model) (now : Nat) : LinkStatus :=
  match this.link with
  | .connecting => .connecting
  | .up transport roundTrip since =>
      .up transport (min (roundTrip / 1000000) (2 ^ 64 - 1)) ((now - since) / 1000000000) this.agent
  | .down since retryAt => .down ((now - since) / 1000000000) ((retryAt - now) / 1000000000) this.cause
  | .stopped => .down 0 0 this.cause

def snapshot (this : Model) (cfg : ClientConfig) (totals : ExtTreeMap String Counts) (up now : Nat) :
    ClientStatus where
  server := cfg.server
  up := up / 1000000000
  link := this.linked now
  services := cfg.expose.toList.map fun (name, expose) =>
    ⟨name, expose.localAddr, expose.port, this.answers[name]?.getD .pending, totals[name]?.getD .default⟩

end Model

/-- A client's panel and its status, with the config in force that both are shown with. A reload that
changes more than `[expose.*]` leaves the client `reconnecting` until another takes its place. -/
structure Shown where
  cfg : ClientConfig
  reconnecting : Bool
  panel : Panel.State
  model : Model

namespace Shown

def start (cfg : ClientConfig) : Shown := ⟨cfg, false, .default, .default⟩

inductive Input
  | event (event : Client.Event) (now : Nat)
  | reload (new : ClientConfig)
  | restart
  | sample (totals : ExtTreeMap String Counts) (elapsed : Nat)
  | recount (totals : ExtTreeMap String Counts)

def step (line : Client.Event → Option String) (this : Shown) : Input → Shown
  | .event event now =>
      { this with panel := (this.panel.apply line event now this.cfg).2, model := this.model.apply event now }
  | .reload new =>
      -- A client on its way out is waited for before the next reload is read.
      if this.reconnecting then this
      else { this with cfg := new, reconnecting := this.cfg.needsReconnect new }
  | .restart =>
      if this.reconnecting then
        { this with reconnecting := false, panel := this.panel.renew, model := .default }
      else this
  | .sample totals elapsed => { this with panel := this.panel.sample totals elapsed }
  | .recount totals => { this with panel := this.panel.recount totals }

def run (line : Client.Event → Option String) (cfg : ClientConfig) (inputs : List Input) : Shown :=
  inputs.foldl (step line) (.start cfg)

end Shown
end Hawse.Status
