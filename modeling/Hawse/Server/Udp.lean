import Hawse.Server.Session
import Hawse.Server.Table

namespace Hawse.Server
open Std (ExtTreeMap)

structure DatagramHeader where
  serviceId : UInt16
  session : UInt32
deriving DecidableEq

/-- `packet::decode`: what `postcard` makes of a packet's first bytes, and the rest. -/
abbrev Decode := List UInt8 → Option (DatagramHeader × List UInt8)

def idle : Nat := 60000000000

structure UdpService where
  id : UInt16
  name : String
  port : Port
  allow : AllowList
  proxyProtocol : Bool
  table : SessionTable

namespace UdpService

def new (service : String) (bound : BoundService) (udpSessions : Nat) : UdpService where
  id := bound.id
  name := service
  port := bound.port
  allow := bound.allow
  proxyProtocol := bound.proxyProtocol
  table := .new udpSessions idle

def admits [Ipnet] (this : UdpService) (visitor : SocketAddr) : Bool := this.allow.permits visitor.ip

def deliver (this : UdpService) (decode : Decode) (packet : List UInt8) (now : Nat) :
    Option (List UInt8 × SocketAddr) × UdpService :=
  match decode packet with
  | none => (none, this)
  | some (header, payload) =>
      if header.serviceId ≠ this.id then (none, this)
      else
        let (visitor, table) := this.table.outbound header.session now
        (visitor.map (payload, ·), { this with table })

def inbound [Ipnet] (this : UdpService) (visitor : SocketAddr) (now : Nat) :
    Option (Option (DatagramHeader × SessionTable.Inbound) × UdpService) :=
  if !this.admits visitor then some (none, this)
  else
    match this.table.inbound visitor now with
    | none => none
    | some (seen, table) => some (some (⟨this.id, seen.session⟩, seen), { this with table })

end UdpService

/-- A header that went to the client for `visitor`'s datagram, from the socket of one service. -/
structure Issued where
  service : Nat
  header : DatagramHeader
  visitor : SocketAddr
  fresh : Bool

/-- A payload that went to `visitor` from the socket of one service, and the packet it came in. -/
structure Sent where
  service : Nat
  packet : List UInt8
  payload : List UInt8
  visitor : SocketAddr

/-- One session's UDP services. `made` is every service the session has made, which the map, the
services' own tasks and `demux` hold by its place in there, also once it is unbound. `demux` has
looked a packet's service up and is about to deliver it. The last three fields keep track. -/
structure Udp where
  session : Session
  made : List UdpService
  services : ExtTreeMap UInt16 Nat
  demux : Option (Nat × List UInt8)
  replies : List ServerMessage
  issued : List Issued
  sent : List Sent

namespace Udp

def start (key : PublicKey) (grant : Grant) : Udp := ⟨.new key grant, [], ∅, none, [], [], []⟩

inductive Event
  | bind (service : String) (kind : Kind) (port : Option UInt16) (allow : List IpNet)
      (proxyProtocol : Bool) (opened : Except BindFailure Port)
  | unbind (service : String)
  | regrant (policy : Policy)
  | inbound (service : Nat) (visitor : SocketAddr) (now : Nat)
  | sweep (service : Nat) (now : Nat)
  | routed (packet : List UInt8)
  | delivered (now : Nat)
  | bulk (service : Nat) (packet : List UInt8) (now : Nat)

def bind [Ipnet] (this : Udp) (udpSessions : Nat) (service : String) (kind : Kind)
    (port : Option UInt16) (allow : List IpNet) (proxyProtocol : Bool)
    (opened : Except BindFailure Port) : Udp :=
  let (reply, session) := this.session.bind service port allow proxyProtocol opened
  let after := { this with session, replies := this.replies ++ [reply] }
  match kind, reply, session.services[service]? with
  | .udp, .bound _ id _ _, some bound =>
      { after with
        made := this.made ++ [.new service bound udpSessions]
        services := this.services.insert id this.made.length }
  | _, _, _ => after

/-- What has been unbound on the way to `session` is out of the map. -/
def unbound (this : Udp) (session : Session) : Udp :=
  { this with
    session
    services := (this.session.services.toList.filter fun (service, _) =>
      !session.services.contains service).foldl (fun services (_, bound) => services.erase bound.id)
      this.services }

def deliver (this : Udp) (decode : Decode) (service : Nat) (packet : List UInt8) (now : Nat) :
    Option Udp :=
  match this.made[service]? with
  | none => none
  | some found =>
      let (sends, after) := found.deliver decode packet now
      some { this with
        made := this.made.set service after
        sent := this.sent ++ (sends.map fun (payload, visitor) =>
          ⟨service, packet, payload, visitor⟩).toList }

def step [Ipnet] (udpSessions : Nat) (decode : Decode) (this : Udp) : Event → Option Udp
  | .bind service kind port allow proxyProtocol opened =>
      some (this.bind udpSessions service kind port allow proxyProtocol opened)
  | .unbind service => some (this.unbound (this.session.unbind service).2)
  | .regrant policy => some (this.unbound (this.session.regrant policy).2)
  | .inbound service visitor now =>
      match this.made[service]? with
      | none => none
      | some found =>
          match found.inbound visitor now with
          | none => none
          | some (header, after) =>
              some { this with
                made := this.made.set service after
                issued := this.issued ++ (header.map fun (header, seen) =>
                  ⟨service, header, visitor, seen.fresh⟩).toList }
  | .sweep service now =>
      match this.made[service]? with
      | none => none
      | some found =>
          some { this with
            made := this.made.set service { found with table := (found.table.sweep now).2 } }
  | .routed packet =>
      if this.demux.isSome then none
      else
        match decode packet with
        | none => some this
        | some (header, _) =>
            some { this with demux := this.services[header.serviceId]?.map (·, packet) }
  | .delivered now =>
      match this.demux with
      | none => none
      | some (service, packet) => { this with demux := none }.deliver decode service packet now
  | .bulk service packet now => this.deliver decode service packet now

def opened (this : Udp) (service : Nat) : Nat :=
  this.issued.countP fun issued => issued.service = service ∧ issued.fresh

end Udp

/-- The turns of a session's loop that bind and unbind, and what its UDP services' tasks do, in any
order. -/
def udp [Ipnet] (key : PublicKey) (grant : Grant) (udpSessions : Nat) (decode : Decode) :
    Lib.System Udp Udp.Event where
  initial this := this = Udp.start key grant
  step this event next := this.step udpSessions decode event = some next

end Hawse.Server
