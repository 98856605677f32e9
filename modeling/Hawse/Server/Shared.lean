import Hawse.Server.Session

namespace Hawse.Server

structure Request where
  service : String
  port : Option UInt16
  allow : AllowList
  id : UInt16
  proxyProtocol : Bool
  walk : Walk

structure Slot where
  session : Session
  opening : Option Request
  ended : Bool

/-- What owns a bound service's claim: the task of a `listener::serve`, or a `UdpService`. The
handles of the latter are the session's map, its own task and what `demux` borrows for a packet;
a listener has only its task. -/
structure Service where
  slot : Nat
  id : UInt16
  port : Port
  cancelled : Bool
  registered : Bool
  serving : Bool
  lent : Bool
  closed : Bool

/-- The sessions of a server over its one allocator. `sockets` are those the host has open for
services, and `claimed` and `released` every claim given out and given back so far. -/
structure Shared where
  ports : PortAllocator
  slots : List Slot
  services : List Service
  sockets : Multiset Port
  claimed : Multiset Port
  released : Multiset Port

namespace Shared

def new (span : PortSpan) (number : UInt16) : Shared where
  ports := (PortAllocator.new span).reserve number
  slots := []
  services := []
  sockets := 0
  claimed := 0
  released := 0

inductive Event
  | welcome (key : PublicKey) (grant : Grant)
  | bind (slot : Nat) (service : String) (kind : Kind) (port : Option UInt16) (allow : List IpNet)
      (proxyProtocol : Bool)
  | claim (slot : Nat)
  | host (slot : Nat) (accepts : Bool)
  | releaseRefused (slot : Nat)
  | opened (slot : Nat)
  | unbind (slot : Nat) (service : String)
  | regrant (slot : Nat) (policy : Policy)
  | leave (slot : Nat)
  | stopped (service : Nat)
  | lend (service : Nat)
  | giveBack (service : Nat)
  | close (service : Nat)
  | release (service : Nat)

def update (this : Shared) (i : Nat) (slot : Slot) : Shared :=
  { this with slots := this.slots.set i slot }

def updateService (this : Shared) (i : Nat) (service : Service) : Shared :=
  { this with services := this.services.set i service }

def giveBack (this : Shared) (port : Port) : Shared :=
  { this with ports := (this.ports.release port).2, released := port ::ₘ this.released }

def settle (this : Shared) (i : Nat) (session : Session) : Shared :=
  { this with
    services := this.services.map fun service =>
      if service.slot = i ∧ ¬ session.services.toList.any (fun (_, bound) => bound.id = service.id) then
        { service with cancelled := true, registered := false }
      else service }

section
variable [Ipnet]

/-- A step of one task, at most one of the allocator's locked sections long. -/
def step (this : Shared) : Event → Option Shared
  | .welcome key grant => some { this with slots := this.slots ++ [⟨.new key grant, none, false⟩] }
  | .bind i service kind port allow proxyProtocol =>
      match this.slots[i]? with
      | some ⟨session, none, false⟩ =>
          match session.check service allow with
          | .error _ => none
          | .ok (allow, id) =>
              some (this.update i ⟨session, some ⟨service, port, allow, id, proxyProtocol,
                .start kind port⟩, false⟩)
      | _ => none
  | .claim i =>
      match this.slots[i]? with
      | some ⟨session, some request, false⟩ =>
          match request.walk.stage with
          | .claiming =>
              let (walk, ports) := request.walk.claim session.grant this.ports
              let claimed := match walk.stage with
                | .binding port => port ::ₘ this.claimed
                | _ => this.claimed
              some { this.update i ⟨session, some { request with walk }, false⟩ with ports, claimed }
          | _ => none
      | _ => none
  | .host i accepts =>
      match this.slots[i]? with
      | some ⟨session, some request, false⟩ =>
          match request.walk.stage with
          | .binding port =>
              let walk := request.walk.host port accepts
              let sockets := if accepts then port ::ₘ this.sockets else this.sockets
              some { this.update i ⟨session, some { request with walk }, false⟩ with sockets }
          | _ => none
      | _ => none
  | .releaseRefused i =>
      match this.slots[i]? with
      | some ⟨session, some request, false⟩ =>
          match request.walk.stage, request.walk.refused with
          | .leaving _, port :: refused =>
              let walk := { request.walk with refused }
              some ((this.update i ⟨session, some { request with walk }, false⟩).giveBack port)
          | _, _ => none
      | _ => none
  | .opened i =>
      match this.slots[i]? with
      | some ⟨session, some request, false⟩ =>
          match request.walk.stage, request.walk.refused with
          | .leaving (.error _), [] => some (this.update i ⟨session, none, false⟩)
          | .leaving (.ok port), [] =>
              let session := (session.bound request.service port request.port.isSome request.allow
                request.id request.proxyProtocol).2
              let service : Service := {
                slot := i, id := request.id, port, cancelled := false
                registered := request.walk.kind = .udp, serving := true, lent := false
                closed := false }
              some { this.update i ⟨session, none, false⟩ with services := service :: this.services }
          | _, _ => none
      | _ => none
  | .unbind i service =>
      match this.slots[i]? with
      | some ⟨session, none, false⟩ =>
          let session := (session.unbind service).2
          some ((this.update i ⟨session, none, false⟩).settle i session)
      | _ => none
  | .regrant i policy =>
      match this.slots[i]? with
      | some ⟨session, none, false⟩ =>
          let session := (session.regrant policy).2
          some ((this.update i ⟨session, none, false⟩).settle i session)
      | _ => none
  | .leave i =>
      match this.slots[i]? with
      | some ⟨session, none, false⟩ =>
          let session := session.unbindAll session.services.keys
          some ((this.update i ⟨session, none, true⟩).settle i session)
      | _ => none
  | .stopped i =>
      match this.services[i]? with
      | some service =>
          if service.cancelled then some (this.updateService i { service with serving := false })
          else none
      | none => none
  | .lend i =>
      match this.services[i]? with
      | some service =>
          if service.registered then some (this.updateService i { service with lent := true })
          else none
      | none => none
  | .giveBack i =>
      match this.services[i]? with
      | some service => some (this.updateService i { service with lent := false })
      | none => none
  | .close i =>
      match this.services[i]? with
      | some service =>
          if service.registered ∨ service.serving ∨ service.lent ∨ service.closed then none
          else
            some { this.updateService i { service with closed := true } with
              sockets := this.sockets.erase service.port }
      | none => none
  | .release i =>
      match this.services[i]? with
      | some service =>
          if service.closed then
            some ({ this with services := this.services.eraseIdx i }.giveBack service.port)
          else none
      | none => none

end
end Shared

def sessions [Ipnet] (span : PortSpan) (number : UInt16) : Lib.System Shared Shared.Event where
  initial this := this = .new span number
  step this event next := this.step event = some next

end Hawse.Server
