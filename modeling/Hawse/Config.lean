import Hawse.Client.Services
import Hawse.Proto.Text

namespace Hawse
open Lib
open Std (ExtTreeMap)

/-- The dynamic pool, as the parser of a `PortSpan` lets one through. -/
structure Pool extends PortSpan where
  ordered : first ≤ last
deriving DecidableEq

def PortSpan.containsNumber (span : PortSpan) (n : UInt16) : Bool := span.first ≤ n ∧ n ≤ span.last

structure ClientPolicy where
  key : PublicKey
  ports : List PortRange
  bind : Option IpAddr
  allow : List IpNet
deriving DecidableEq

structure Limits where
  authFailuresPerMinute : UInt32
  streamsPerClient : UInt32
  udpSessionsPerService : UInt32
deriving DecidableEq

inductive Congestion
  | cubic
  | bbr
deriving DecidableEq

-- Durations are in nanoseconds, sizes in bytes.
structure ServerTransport where
  idleTimeout : Nat
  streamWindow : UInt64
  connectionWindow : UInt64
  congestion : Congestion
  buffer : UInt64
  tcpFallback : Bool
deriving DecidableEq

structure ServerConfig where
  listen : SocketAddr
  bind : IpAddr
  key : Option String
  dynamicPorts : Pool
  quicRetry : Bool
  limits : Limits
  transport : ServerTransport
  clients : ExtTreeMap String ClientPolicy
deriving DecidableEq

inductive TransportKind
  | quic
  | tcp
deriving DecidableEq

inductive Prefer
  | auto
  | quic
  | tcp
deriving DecidableEq

structure ClientTransport where
  prefer : Prefer
  congestion : Congestion
  idleTimeout : Nat
  streamWindow : UInt64
  connectionWindow : UInt64
  buffer : UInt64
deriving DecidableEq

structure ClientConfig where
  server : String
  serverKey : PublicKey
  key : Option String
  name : Option String
  expose : ExtTreeMap String Client.Expose
  transport : ClientTransport

/-- Whether more than `[expose.*]` changed. -/
def ClientConfig.needsReconnect (this new : ClientConfig) : Bool :=
  (this.server, this.serverKey, this.key, this.name, this.transport) ≠
    (new.server, new.serverKey, new.key, new.name, new.transport)

inductive ConfigError
  | clientName (client : String) (error : Name.NameError)
  | duplicateKey (other client : String)
  | serviceName (service : String) (error : Name.NameError)
  | localAddr (service localAddr : String)
  | clientAllow (client : String) (net ipv4 : IpNet)
  | exposeAllow (service : String) (net ipv4 : IpNet)
  | serverAddr (server : String)
  | name (error : Name.NameError)
  | listenPort
  | listenInPool (listen : UInt16)
  | listenGranted (client : String) (listen : UInt16)
  | grantInPool (client : String) (range : PortRange)
  | buffer (bytes : UInt64)
  | streamWindow (bytes : UInt64)
  | connectionWindow
  | windows (stream connection : UInt64)
  | idleTimeout (duration : Nat)
  | streamsPerClient
  | udpSessions
deriving DecidableEq

/-- `Ipv6Net::network`, of the `ipnet` crate. -/
class Ipv6Net where
  network : Network 128 → BitVec 128

/-- The crate has it clear the host bits. -/
class Ipv6Net.Documented [Ipv6Net] : Prop where
  network_eq : ∀ net : Network 128, Ipv6Net.network net = net.trunc.addr

section Allow
variable [Ipv6Net]

def ipv4Form : IpNet → Option IpNet
  | .v4 _ => none
  | .v6 net =>
      let network := Ipv6Net.network net
      if network >>> 32 = 0xffff#128 then
        if 96 ≤ net.prefixLen then
          some (.v4 ⟨network.setWidth 32, net.prefixLen - 96, Nat.sub_le_of_le_add net.prefixLen_le⟩)
        else none
      else none

def mappedEntry (allow : List IpNet) : Option (IpNet × IpNet) :=
  allow.findSome? fun net => (ipv4Form net).map fun ipv4 => (net, ipv4)

end Allow

def validateTransport (buffer streamWindow connectionWindow : UInt64) (idleTimeout : Nat) :
    Except ConfigError Unit :=
  if ¬ (1024 ≤ buffer ∧ buffer ≤ (1 : UInt64) <<< 30) then .error (.buffer buffer)
  else if idleTimeout < 1000000000 then .error (.idleTimeout idleTimeout)
  else if streamWindow = 0 ∨ 2 ^ 32 ≤ streamWindow.toNat then .error (.streamWindow streamWindow)
  else if connectionWindow = 0 then .error .connectionWindow
  else if connectionWindow < streamWindow then .error (.windows streamWindow connectionWindow)
  else .ok ()

namespace ServerConfig

def default : ServerConfig where
  listen := ⟨.v6 0, 4433⟩
  bind := .v6 0
  key := none
  dynamicPorts := ⟨⟨40000, 41000⟩, by decide⟩
  quicRetry := false
  limits := ⟨30, 4096, 4096⟩
  transport := ⟨30000000000, (8 : UInt64) <<< 20, (64 : UInt64) <<< 20, .cubic, (16 : UInt64) <<< 10, true⟩
  clients := ∅

def needsRestart (this new : ServerConfig) : Bool :=
  let fixed (cfg : ServerConfig) : ServerConfig := { cfg with clients := ∅, bind := this.bind }
  fixed this ≠ fixed new

/-- Whether a range takes in a number, for either protocol. -/
def names (number : UInt16) (range : PortRange) : Bool := range.first ≤ number ∧ number ≤ range.last

def meets (pool : PortSpan) (range : PortRange) : Bool := range.first ≤ pool.last ∧ pool.first ≤ range.last

/-- The first loop over the clients, for those it has left. -/
def checkGrants (listen : UInt16) (pool : PortSpan) : List (String × ClientPolicy) → Except ConfigError Unit
  | [] => .ok ()
  | (name, policy) :: clients =>
      if policy.ports.any (names listen) then .error (.listenGranted name listen)
      else
        match policy.ports.find? (meets pool) with
        | some range => .error (.grantInPool name range)
        | none => checkGrants listen pool clients

/-- The second, with the keys it has seen. -/
def checkClients [Ipv6Net] : ExtTreeMap PublicKey String → List (String × ClientPolicy) →
    Except ConfigError Unit
  | _, [] => .ok ()
  | seen, (client, policy) :: clients =>
      match Name.validate client with
      | .error error => .error (.clientName client error)
      | .ok () =>
          match seen[policy.key]? with
          | some other => .error (.duplicateKey other client)
          | none =>
              match mappedEntry policy.allow with
              | some (net, ipv4) => .error (.clientAllow client net ipv4)
              | none => checkClients (seen.insert policy.key client) clients

def checkListen (this : ServerConfig) : Except ConfigError Unit :=
  if this.listen.port = 0 then .error .listenPort
  else if this.dynamicPorts.containsNumber this.listen.port then .error (.listenInPool this.listen.port)
  else checkGrants this.listen.port this.dynamicPorts.toPortSpan this.clients.toList

def validate [Ipv6Net] (this : ServerConfig) : Except ConfigError Unit := do
  this.checkListen
  validateTransport this.transport.buffer this.transport.streamWindow this.transport.connectionWindow
    this.transport.idleTimeout
  if this.limits.streamsPerClient < 2 then throw .streamsPerClient
  if this.limits.udpSessionsPerService = 0 then throw .udpSessions
  checkClients ∅ this.clients.toList

end ServerConfig

def parsePort (text : List Char) : Option UInt16 := (parseU16 text).filter (· ≠ 0)

def splitHostPort (text : String) : Option (String × Option UInt16) :=
  match text.toList with
  | [] => none
  | '[' :: rest =>
      match splitOnce ']' rest with
      | none | some ([], _) => none
      | some (host, []) => some (String.ofList host, none)
      | some (host, ':' :: port) => (parsePort port).map fun port => (String.ofList host, some port)
      | some (_, _ :: _) => none
  | chars =>
      if 1 < chars.count ':' then some (text, none)
      else
        match splitOnce ':' chars with
        | none => some (text, none)
        | some ([], _) => none
        | some (host, port) => (parsePort port).map fun port => (String.ofList host, some port)

namespace ClientConfig
variable [Ipv6Net]

def checkExposed : List (String × Client.Expose) → Except ConfigError Unit
  | [] => .ok ()
  | (service, expose) :: exposed =>
      match Name.validate service with
      | .error error => .error (.serviceName service error)
      | .ok () =>
          match splitHostPort expose.localAddr with
          | some (_, some _) =>
              match mappedEntry expose.allow with
              | some (net, ipv4) => .error (.exposeAllow service net ipv4)
              | none => checkExposed exposed
          | _ => .error (.localAddr service expose.localAddr)

def validate (this : ClientConfig) : Except ConfigError Unit := do
  if splitHostPort this.server = none then throw (.serverAddr this.server)
  match this.name.map Name.validate with
  | some (.error error) => throw (.name error)
  | _ => pure ()
  validateTransport this.transport.buffer this.transport.streamWindow this.transport.connectionWindow
    this.transport.idleTimeout
  checkExposed this.expose.toList

end ClientConfig
end Hawse
