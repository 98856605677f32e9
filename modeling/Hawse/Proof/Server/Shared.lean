import Hawse.Server.Shared

namespace Hawse.Proof.Shared
open Hawse.Server

variable [Ipnet] {this next : Shared} {event : Shared.Event}

inductive Stepped (this : Shared) : Shared.Event → Shared → Prop
  | welcome (key : PublicKey) (grant : Grant) :
      Stepped this (.welcome key grant)
        { this with slots := this.slots ++ [⟨.new key grant, none, false⟩] }
  | bind (i : Nat) (service : String) (kind : Kind) (port : Option UInt16) (allow : List IpNet)
      (proxyProtocol : Bool) (session : Session) (admitted : AllowList) (id : UInt16)
      (found : this.slots[i]? = some ⟨session, none, false⟩)
      (checked : session.check service allow = .ok (admitted, id)) :
      Stepped this (.bind i service kind port allow proxyProtocol)
        (this.update i ⟨session, some ⟨service, port, admitted, id, proxyProtocol, .start kind port⟩, false⟩)
  | claimed (i : Nat) (session : Session) (request : Request) (port : Port) (ports : PortAllocator)
      (found : this.slots[i]? = some ⟨session, some request, false⟩)
      (claiming : request.walk.stage = .claiming)
      (claims : Session.claim session.grant request.walk.kind request.walk.fixed this.ports = (.ok port, ports)) :
      Stepped this (.claim i) { this.update i ⟨session, some { request with
        walk := { request.walk with stage := .binding port } }, false⟩ with
          ports, claimed := port ::ₘ this.claimed }
  | unclaimed (i : Nat) (session : Session) (request : Request) (reason : BindFailure) (ports : PortAllocator)
      (found : this.slots[i]? = some ⟨session, some request, false⟩)
      (claiming : request.walk.stage = .claiming)
      (claims : Session.claim session.grant request.walk.kind request.walk.fixed this.ports =
        (.error reason, ports)) :
      Stepped this (.claim i) { this.update i ⟨session, some { request with
        walk := { request.walk with stage := .leaving (.error reason) } }, false⟩ with ports }
  | accepted (i : Nat) (session : Session) (request : Request) (port : Port)
      (found : this.slots[i]? = some ⟨session, some request, false⟩)
      (binding : request.walk.stage = .binding port) :
      Stepped this (.host i true) { this.update i ⟨session, some { request with
        walk := { request.walk with stage := .leaving (.ok port) } }, false⟩ with
          sockets := port ::ₘ this.sockets }
  | refused (i : Nat) (session : Session) (request : Request) (port : Port)
      (found : this.slots[i]? = some ⟨session, some request, false⟩)
      (binding : request.walk.stage = .binding port) :
      Stepped this (.host i false) (this.update i ⟨session, some { request with
        walk := { request.walk with
          refused := request.walk.refused ++ [port]
          stage := if request.walk.fixed.isSome then .leaving (.error .inUse) else .claiming } }, false⟩)
  | releaseRefused (i : Nat) (session : Session) (request : Request) (outcome : Except BindFailure Port)
      (port : Port) (refused : List Port)
      (found : this.slots[i]? = some ⟨session, some request, false⟩)
      (leaving : request.walk.stage = .leaving outcome) (some_left : request.walk.refused = port :: refused) :
      Stepped this (.releaseRefused i) ((this.update i ⟨session, some { request with
        walk := { request.walk with refused } }, false⟩).giveBack port)
  | failed (i : Nat) (session : Session) (request : Request) (reason : BindFailure)
      (found : this.slots[i]? = some ⟨session, some request, false⟩)
      (leaving : request.walk.stage = .leaving (.error reason)) (none_left : request.walk.refused = []) :
      Stepped this (.opened i) (this.update i ⟨session, none, false⟩)
  | bound (i : Nat) (session : Session) (request : Request) (port : Port)
      (found : this.slots[i]? = some ⟨session, some request, false⟩)
      (leaving : request.walk.stage = .leaving (.ok port)) (none_left : request.walk.refused = []) :
      Stepped this (.opened i) { this.update i ⟨(session.bound request.service port request.port.isSome
        request.allow request.id request.proxyProtocol).2, none, false⟩ with
          services := {
            slot := i, id := request.id, port, cancelled := false
            registered := request.walk.kind = .udp, serving := true, lent := false
            closed := false } :: this.services }
  | unbind (i : Nat) (service : String) (session : Session)
      (found : this.slots[i]? = some ⟨session, none, false⟩) :
      Stepped this (.unbind i service)
        ((this.update i ⟨(session.unbind service).2, none, false⟩).settle i (session.unbind service).2)
  | regrant (i : Nat) (policy : Policy) (session : Session)
      (found : this.slots[i]? = some ⟨session, none, false⟩) :
      Stepped this (.regrant i policy)
        ((this.update i ⟨(session.regrant policy).2, none, false⟩).settle i (session.regrant policy).2)
  | leave (i : Nat) (session : Session) (found : this.slots[i]? = some ⟨session, none, false⟩) :
      Stepped this (.leave i) ((this.update i ⟨session.unbindAll session.services.keys, none, true⟩).settle i
        (session.unbindAll session.services.keys))
  | stopped (i : Nat) (service : Service) (found : this.services[i]? = some service)
      (cancelled : service.cancelled = true) :
      Stepped this (.stopped i) (this.updateService i { service with serving := false })
  | lend (i : Nat) (service : Service) (found : this.services[i]? = some service)
      (registered : service.registered = true) :
      Stepped this (.lend i) (this.updateService i { service with lent := true })
  | giveBack (i : Nat) (service : Service) (found : this.services[i]? = some service) :
      Stepped this (.giveBack i) (this.updateService i { service with lent := false })
  | close (i : Nat) (service : Service) (found : this.services[i]? = some service)
      (idle : ¬ (service.registered ∨ service.serving ∨ service.lent ∨ service.closed)) :
      Stepped this (.close i) { this.updateService i { service with closed := true } with
        sockets := this.sockets.erase service.port }
  | release (i : Nat) (service : Service) (found : this.services[i]? = some service)
      (closed : service.closed = true) :
      Stepped this (.release i)
        ({ this with services := this.services.eraseIdx i }.giveBack service.port)

theorem stepped_claim {i : Nat} (stepped : this.step (.claim i) = some next) : Stepped this (.claim i) next := by
  simp only [Shared.step] at stepped
  split at stepped
  · rename_i session request found
    split at stepped
    · rename_i claiming
      obtain rfl := Option.some.inj stepped
      unfold Walk.claim
      cases result : Session.claim session.grant request.walk.kind request.walk.fixed this.ports with
      | mk claims ports =>
          cases claims with
          | ok port => exact .claimed i session request port ports found claiming result
          | error reason => exact .unclaimed i session request reason ports found claiming result
    · cases stepped
  · cases stepped

theorem step_stepped (stepped : this.step event = some next) : Stepped this event next := by
  cases event with
  | welcome key grant =>
      obtain rfl := Option.some.inj stepped
      exact .welcome key grant
  | bind i service kind port allow proxyProtocol =>
      simp only [Shared.step] at stepped
      split at stepped
      · rename_i session found
        split at stepped
        · cases stepped
        · rename_i admitted id checked
          obtain rfl := Option.some.inj stepped
          exact .bind i service kind port allow proxyProtocol session admitted id found checked
      · cases stepped
  | claim i => exact stepped_claim stepped
  | host i accepts =>
      simp only [Shared.step] at stepped
      split at stepped
      · rename_i session request found
        split at stepped
        · rename_i port binding
          obtain rfl := Option.some.inj stepped
          cases accepts with
          | true => exact .accepted i session request port found binding
          | false => exact .refused i session request port found binding
        · cases stepped
      · cases stepped
  | releaseRefused i =>
      simp only [Shared.step] at stepped
      split at stepped
      · rename_i session request found
        split at stepped
        · rename_i outcome port refused leaving some_left
          obtain rfl := Option.some.inj stepped
          exact .releaseRefused i session request outcome port refused found leaving some_left
        · cases stepped
      · cases stepped
  | opened i =>
      simp only [Shared.step] at stepped
      split at stepped
      · rename_i session request found
        split at stepped
        · rename_i reason leaving none_left
          obtain rfl := Option.some.inj stepped
          exact .failed i session request reason found leaving none_left
        · rename_i port leaving none_left
          obtain rfl := Option.some.inj stepped
          exact .bound i session request port found leaving none_left
        · cases stepped
      · cases stepped
  | unbind i service =>
      simp only [Shared.step] at stepped
      split at stepped
      · rename_i session found
        obtain rfl := Option.some.inj stepped
        exact .unbind i service session found
      · cases stepped
  | regrant i policy =>
      simp only [Shared.step] at stepped
      split at stepped
      · rename_i session found
        obtain rfl := Option.some.inj stepped
        exact .regrant i policy session found
      · cases stepped
  | leave i =>
      simp only [Shared.step] at stepped
      split at stepped
      · rename_i session found
        obtain rfl := Option.some.inj stepped
        exact .leave i session found
      · cases stepped
  | stopped i =>
      simp only [Shared.step] at stepped
      split at stepped
      · rename_i service found
        split_ifs at stepped with cancelled
        obtain rfl := Option.some.inj stepped
        exact .stopped i service found cancelled
      · cases stepped
  | lend i =>
      simp only [Shared.step] at stepped
      split at stepped
      · rename_i service found
        split_ifs at stepped with registered
        obtain rfl := Option.some.inj stepped
        exact .lend i service found registered
      · cases stepped
  | giveBack i =>
      simp only [Shared.step] at stepped
      split at stepped
      · rename_i service found
        obtain rfl := Option.some.inj stepped
        exact .giveBack i service found
      · cases stepped
  | close i =>
      simp only [Shared.step] at stepped
      split at stepped
      · rename_i service found
        split_ifs at stepped with busy
        obtain rfl := Option.some.inj stepped
        exact .close i service found busy
      · cases stepped
  | release i =>
      simp only [Shared.step] at stepped
      split at stepped
      · rename_i service found
        split_ifs at stepped with closed
        obtain rfl := Option.some.inj stepped
        exact .release i service found closed
      · cases stepped

end Hawse.Proof.Shared
