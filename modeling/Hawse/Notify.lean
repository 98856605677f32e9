import Mathlib.Data.Finset.Card
import Hawse.Status.Client
import Hawse.Status.Server
import Hawse.Terminal

namespace Hawse.Notify
open Std (ExtTreeMap)

/-- The status line last sent, and all that was sent, oldest first. -/
structure Status where
  sent : String
  datagrams : List String

def Status.ready (line : String) : Status := ⟨line, ["READY=1\nSTATUS=" ++ line]⟩

def Status.shows (this : Status) (line : String) : Status :=
  if line ≠ this.sent then ⟨line, this.datagrams ++ ["STATUS=" ++ line]⟩ else this

/-! ## A client's -/

inductive Link
  | connecting
  | up (transport : TransportKind)
  | down (why : String)
  | stopped (why : String)
deriving DecidableEq

structure Client where
  link : Link
  answers : ExtTreeMap String (Client.Expose × Bool)

/-- How many of the services that were answered for are bound. -/
def counted (bound all : Nat) : String :=
  let noun := if all = 1 then "service" else "services"
  if all = 0 then ""
  else if all = bound then ", " ++ toString all ++ " " ++ noun ++ " bound"
  else ", " ++ toString bound ++ " of " ++ toString all ++ " " ++ noun ++ " bound"

def connectedOver (transport : TransportKind) : String := "connected over " ++ String.ofList (Terminal.transportName transport)

namespace Client
variable (this : Client)

def default : Client := ⟨.connecting, ∅⟩

def answer (cfg : ClientConfig) (service : String) (bound : Bool) : Client :=
  match cfg.expose[service]? with
  | none => this
  | some expose => { this with answers := this.answers.insert service (expose, bound) }

def apply (event : Hawse.Client.Event) (cfg : ClientConfig) : Client :=
  match event with
  | .connected _ transport _ _ _ => ⟨.up transport, ∅⟩
  | .bound service _ => this.answer cfg service true
  | .bindFailed service _ => this.answer cfg service false
  | .disconnected cause retryIn =>
      { this with link := if retryIn.isSome then .down (Status.reason cause) else .stopped (Status.reason cause) }
  | .denied _ | .roundTrip _ => this

def answered (cfg : ClientConfig) : List Bool :=
  (this.answers.toList.filter fun given => cfg.expose[given.1]? = some given.2.1).map (·.2.2)

def line (cfg : ClientConfig) : String :=
  match this.link with
  | .connecting => "connecting"
  | .up transport => connectedOver transport ++ counted ((this.answered cfg).countP id) (this.answered cfg).length
  | .down why => "disconnected: " ++ why ++ ", retrying"
  | .stopped why => "stopped: " ++ why

end Client

/-- What `log` keeps, beside the panel and the status of the same client, where all three take in each
input before the next comes. -/
structure Log where
  shown : Status.Shown
  client : Client
  status : Status

namespace Log
open Status.Shown

def start (cfg : ClientConfig) : Log := ⟨.start cfg, .default, .ready "connecting"⟩

def heard (this : Log) : Input → Client
  | .event event _ => this.client.apply event this.shown.cfg
  | .restart => if this.shown.reconnecting then .default else this.client
  | .reload _ | .sample _ _ | .recount _ => this.client

def step (line : Hawse.Client.Event → Option String) (this : Log) (input : Input) : Log :=
  let shown := this.shown.step line input
  let client := this.heard input
  ⟨shown, client, this.status.shows (client.line shown.cfg)⟩

def run (line : Hawse.Client.Event → Option String) (cfg : ClientConfig) (inputs : List Input) : Log :=
  inputs.foldl (step line) (.start cfg)

end Log

def isBound : Terminal.Row → Bool
  | .bound _ _ _ _ => true
  | .refused _ => false

/-- What the panel and `hawse status` have on the screen, said in one line: the panel's link, its
rows, and why the status says the link was lost. -/
def sentence (shown : Status.Shown) : String :=
  let rows := (shown.panel.rows shown.cfg).toList
  match shown.panel.link with
  | .connecting => "connecting"
  | .up transport _ _ => connectedOver transport ++ counted (rows.countP (isBound ·.2)) rows.length
  | .down _ _ => "disconnected: " ++ shown.model.cause ++ ", retrying"
  | .stopped => "stopped: " ++ shown.model.cause

/-- What is on the screen after each of the inputs. -/
def sentences (line : Hawse.Client.Event → Option String) (shown : Status.Shown) : List Status.Shown.Input → List String
  | [] => []
  | input :: inputs => sentence (shown.step line input) :: sentences line (shown.step line input) inputs

/-- The datagrams of a status that stood at each of these lines in turn. -/
def announced : List String → List String
  | [] => []
  | first :: rest => ("READY=1\nSTATUS=" ++ first) :: rest.map ("STATUS=" ++ ·)

/-! ## A server's -/

/-- `listen` as it is displayed. -/
structure Server where
  listen : String
  sessions : ExtTreeMap String Nat

namespace Server
open Hawse.Server
variable (this : Server)

def new (listen : String) : Server := ⟨listen, ∅⟩

/-- `none` where the subtraction overflows. -/
def apply : Watched.Event → Option Server
  | .connected client _ _ _ =>
      some { this with sessions := this.sessions.insert client (this.sessions[client]?.getD 0 + 1) }
  | .ended client =>
      match this.sessions[client]? with
      | none => some this
      | some 0 => none
      | some 1 => some { this with sessions := this.sessions.erase client }
      | some (left + 1) => some { this with sessions := this.sessions.insert client left }
  | .bound _ _ _ _ | .unbound _ _ _ | .denied _ _ => some this

def named : Nat := 3

def line : String :=
  let count := this.sessions.size
  let clients :=
    if count = 0 then "no clients connected"
    else
      let noun := if count = 1 then "client" else "clients"
      let more := if count - named = 0 then "" else " and " ++ toString (count - named) ++ " more"
      toString count ++ " " ++ noun ++ ": " ++ ", ".intercalate (this.sessions.keys.take named) ++ more
  "listening on " ++ this.listen ++ ", " ++ clients

/-- `serve`, once it has read all of these, with none skipped: its receiver never lags behind. -/
def read (this : Server) : List Watched.Told → Option Server
  | [] => some this
  | told :: more => (this.apply told.event).bind fun next => next.read more

def serves (server : Watched) (name : String) (i : Nat) : Bool := (server.serving i).any (·.name == name)

/-- How many sessions the server has for the client. -/
def standing (server : Watched) (name : String) : Nat :=
  ((Finset.range server.greeted.length).filter fun i => serves server name i).card

/-- The line for the clients of these names. -/
def roll (listen : String) (names : List String) : String := "listening on " ++ listen ++ ", " ++
  match names with
  | [] => "no clients connected"
  | [one] => "1 client: " ++ one
  | [one, two] => "2 clients: " ++ one ++ ", " ++ two
  | [one, two, three] => "3 clients: " ++ one ++ ", " ++ two ++ ", " ++ three
  | one :: two :: three :: more =>
      toString (more.length + 3) ++ " clients: " ++ one ++ ", " ++ two ++ ", " ++ three ++ " and " ++
        toString more.length ++ " more"

end Server
end Hawse.Notify
