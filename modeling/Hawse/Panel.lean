import Hawse.Config

namespace Hawse
open Std (ExtTreeMap)

namespace Client

/-- `DisconnectCause`, with what it says of itself. -/
inductive Cause
  | shutdown (why : String)
  | unresponsive
  | denied
  | transport (reason : String)
  | config (reason : String)
deriving DecidableEq

-- Times are in nanoseconds.
inductive Event
  | connected (remote : SocketAddr) (transport : TransportKind) (name agent : String) (roundTrip : Nat)
  | bound (service : String) (port : Port)
  | bindFailed (service : String) (reason : BindFailure)
  | denied (key : PublicKey)
  | disconnected (cause : Cause) (retryIn : Option Nat)
  | roundTrip (roundTrip : Nat)
deriving DecidableEq

end Client

namespace Terminal

inductive Link
  | connecting
  | up (transport : TransportKind) (roundTrip since : Nat)
  | down (since retryAt : Nat)
  | stopped
deriving DecidableEq

inductive Row
  | bound (port : Port) (open' down up : Nat)
  | refused (reason : BindFailure)
deriving DecidableEq

def Link.measured (this : Link) (latest : Nat) : Link :=
  match this with
  | .up transport _ since => .up transport latest since
  | other => other

def Link.lost (this : Link) (retryIn : Option Nat) (now : Nat) : Link :=
  match retryIn, this with
  | some wait, .down since _ => .down since (now + wait)
  | some wait, _ => .down now (now + wait)
  | none, _ => .stopped

def repeats (shown : Option PublicKey) : Client.Event → Bool × Option PublicKey
  | .denied key => (shown = some key, some key)
  | .connected _ _ _ _ _ => (false, none)
  | _ => (false, shown)

end Terminal

structure Counts where
  opened : Nat
  visitors : Nat
  down : Nat
  up : Nat
  datagramsDown : Nat
  datagramsUp : Nat
  dropped : Nat
deriving DecidableEq

def Counts.default : Counts := ⟨0, 0, 0, 0, 0, 0, 0⟩

namespace Panel
open Terminal

inductive Answer
  | bound (port : Port)
  | refused (reason : BindFailure)
deriving DecidableEq

structure State where
  link : Link
  answers : ExtTreeMap String (Client.Expose × Answer)
  figures : ExtTreeMap String Counts
  counted : ExtTreeMap String Counts
  outage : Option Client.Cause
  denied : Option PublicKey

def perSecond (now before elapsed : Nat) : Nat :=
  min ((now - before) * 1000 / max (elapsed / 1000000) 1) (2 ^ 64 - 1)

namespace State

def default : State := ⟨.connecting, ∅, ∅, ∅, none, none⟩

def answer (this : State) (cfg : ClientConfig) (service : String) (answer : Answer) : State :=
  match cfg.expose[service]? with
  | none => this
  | some expose => { this with answers := this.answers.insert service (expose, answer) }

/-- `line` is `terminal::event`, what is printed of an event. -/
def apply (line : Client.Event → Option String) (this : State) (event : Client.Event) (now : Nat)
    (cfg : ClientConfig) : Option String × State :=
  let (again, denied) := repeats this.denied event
  let this := { this with denied }
  match event with
  | .connected _ transport _ _ roundTrip =>
      (line event, { this with link := .up transport roundTrip now, outage := none, answers := ∅ })
  | .roundTrip latest => (line event, { this with link := this.link.measured latest })
  | .bound service port => (line event, this.answer cfg service (.bound port))
  | .bindFailed service reason => (line event, this.answer cfg service (.refused reason))
  | .denied _ => (if again then none else line event, this)
  | .disconnected cause retryIn =>
      let this := { this with link := this.link.lost retryIn now }
      if retryIn.isSome ∧ this.outage = some cause then (none, this)
      else (line event, { this with outage := some cause })

/-- The figures of one service, from its totals at the last sample. -/
def sampled (this : State) (elapsed : Nat) (service : String) (now : Counts) : Counts :=
  let before := this.counted[service]?.getD .default
  { Counts.default with
    opened := now.opened
    down := perSecond now.down before.down elapsed
    up := perSecond now.up before.up elapsed }

def sample (this : State) (totals : ExtTreeMap String Counts) (elapsed : Nat) : State :=
  { this with figures := totals.map fun service now => this.sampled elapsed service now, counted := totals }

def recount (this : State) (totals : ExtTreeMap String Counts) : State :=
  { this with figures := totals.toList.foldl (fun figures (service, now) =>
      figures.insert service { figures[service]?.getD .default with opened := now.opened }) this.figures }

def row (this : State) (service : String) : Answer → Row
  | .refused reason => .refused reason
  | .bound port =>
      let counts := this.figures[service]?.getD .default
      .bound port counts.opened counts.down counts.up

def rows (this : State) (cfg : ClientConfig) : ExtTreeMap String Row :=
  this.answers.filterMap fun service (expose, answer) =>
    if cfg.expose[service]? = some expose then some (this.row service answer) else none

/-- What `show` leaves of it for a new client. -/
def renew (this : State) : State := { this with link := .connecting, counted := ∅, figures := ∅ }

end State
end Panel
end Hawse
