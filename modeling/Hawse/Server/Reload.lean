import Hawse.Config
import Hawse.Server.Shared

namespace Hawse.Server
open Std (ExtTreeMap)

def Policy.fromConfig (cfg : ServerConfig) : Policy where
  byKey := cfg.clients.toList.foldl (fun byKey (name, policy) =>
    byKey.insert policy.key ⟨name, policy.ports, policy.bind.getD cfg.bind, policy.allow⟩) ∅

/-- What `is_file` and a read find at a path. -/
inductive OnDisk
  | absent
  | unreadable
  | text (content : String)

structure Located where
  file : String
  /-- The source's `exists`. -/
  present : Bool
deriving DecidableEq

inductive LoadError
  | read (path : String)
  | parse (message : String)
  | invalid (error : ConfigError)
deriving DecidableEq

section Load
variable (parse : String → Except String ServerConfig) (disk : String → OnDisk)

def locate (file : String) : Located :=
  ⟨file, match disk file with | .absent => false | _ => true⟩

def readServer (file : String) : Except LoadError ServerConfig :=
  match disk file with
  | .absent => .ok .default
  | .unreadable => .error (.read file)
  | .text content => (parse content).mapError .parse

/-- `config_file::load_server` of a named file. `parse` is the TOML crate's. -/
def loadServer [Ipv6Net] (file : String) : Except LoadError (ServerConfig × Located) := do
  let cfg ← readServer parse disk file
  match cfg.validate with
  | .error error => .error (.invalid error)
  | .ok () => .ok (cfg, locate disk file)

def load [Ipv6Net] (file : String) (listen : Option SocketAddr) : Except LoadError (ServerConfig × Located) := do
  let (cfg, located) ← loadServer parse disk file
  match listen with
  | some listen => .ok ({ cfg with listen }, located)
  | none => .ok (cfg, located)

end Load

def reloaded [Ipv6Net] (started new : ServerConfig) : Except ConfigError Policy := do
  let inForce := { started with clients := new.clients, bind := new.bind }
  inForce.validate
  .ok (.fromConfig inForce)

/-- A server that reloads its config. `policy` is what the sessions watch, and `greeted` are those
that have looked their grant up in it and are not welcomed yet. -/
structure Running where
  started : ServerConfig
  policy : Policy
  greeted : List (PublicKey × Grant)
  shared : Shared

namespace Running

-- A validated listen port is not 0, so it is the one the endpoint is bound on.
def start (cfg : ServerConfig) : Running where
  started := cfg
  policy := .fromConfig cfg
  greeted := []
  shared := .new cfg.dynamicPorts.toPortSpan cfg.listen.port

inductive Event
  | reload (new : ServerConfig)
  | lookup (key : PublicKey)
  | welcome (place : Nat)
  | regrant (slot : Nat)
  | session (event : Shared.Event)

def step [Ipnet] [Ipv6Net] (this : Running) : Event → Option Running
  | .reload new =>
      match reloaded this.started new with
      | .ok policy => some { this with policy }
      | .error _ => some this
  | .lookup key => do
      let grant ← this.policy.lookup key
      some { this with greeted := (key, grant) :: this.greeted }
  | .welcome place => do
      let (key, grant) ← this.greeted[place]?
      let shared ← this.shared.step (.welcome key grant)
      some { this with shared, greeted := this.greeted.eraseIdx place }
  | .regrant slot => do
      let shared ← this.shared.step (.regrant slot this.policy)
      some { this with shared }
  | .session (.welcome _ _) => none
  | .session (.regrant _ _) => none
  | .session event => do
      let shared ← this.shared.step event
      some { this with shared }

end Running

def running [Ipnet] [Ipv6Net] (cfg : ServerConfig) : Lib.System Running Running.Event where
  initial this := this = .start cfg
  step this event next := this.step event = some next

end Hawse.Server
