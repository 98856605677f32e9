import Hawse.Lib.Ledger
import Hawse.Proof.Allow
import Hawse.Proof.Server.Shared

namespace Hawse.Proof.Ownership
open Lib Hawse.Server

def reserved (number : UInt16) : Multiset Port := {⟨number, .tcp⟩, ⟨number, .udp⟩}

def stageHeld : Opening → Multiset Port
  | .claiming => 0
  | .binding port => {port}
  | .leaving (.ok port) => {port}
  | .leaving (.error _) => 0

def stageOpen : Opening → Multiset Port
  | .leaving (.ok port) => {port}
  | _ => 0

def slotHeld (slot : Slot) : Multiset Port :=
  match slot.opening with
  | none => 0
  | some request => request.walk.refused + stageHeld request.walk.stage

def slotOpen (slot : Slot) : Multiset Port :=
  match slot.opening with
  | none => 0
  | some request => stageOpen request.walk.stage

def serviceOpen (service : Service) : Multiset Port := if service.closed then 0 else {service.port}

def servicePorts (this : Shared) : Multiset Port :=
  (this.services.map fun service => ({service.port} : Multiset Port)).sum

def walkPorts (this : Shared) : Multiset Port := (this.slots.map slotHeld).sum

/-- The ports whose socket is open, at a service or in the hands of the `open` that got it. -/
def openPorts (this : Shared) : Multiset Port :=
  (this.services.map serviceOpen).sum + (this.slots.map slotOpen).sum

def held (this : Shared) : Multiset Port := servicePorts this + walkPorts this

def ledger (number : UInt16) (this : Shared) : Ledger Port where
  inUse := this.ports.inUse
  reserved := reserved number
  held := held this
  claimed := this.claimed
  released := this.released

theorem openPorts_le_held (this : Shared) : openPorts this ≤ held this := by
  apply add_le_add
  · apply List.sum_le_sum
    intro service _
    unfold serviceOpen
    split_ifs
    · exact Multiset.zero_le _
    · exact le_rfl
  · apply List.sum_le_sum
    intro slot _
    unfold slotOpen slotHeld
    cases slot.opening with
    | none => exact le_rfl
    | some request =>
        have le : stageOpen request.walk.stage ≤ stageHeld request.walk.stage := by
          rcases request.walk.stage with _ | port | ⟨reason | port⟩ <;> simp [stageOpen, stageHeld]
        exact le.trans (Multiset.le_add_left _ _)

section Update
variable {this : Shared} {i : Nat}

theorem held_update {old : Slot} (found : this.slots[i]? = some old) (new : Slot) :
    held (this.update i new) + slotHeld old = held this + slotHeld new := by
  have moved := sum_map_set (f := slotHeld) found new
  show servicePorts this + ((this.slots.set i new).map slotHeld).sum + slotHeld old = _
  rw [add_assoc, moved, ← add_assoc]
  rfl

theorem openPorts_update {old : Slot} (found : this.slots[i]? = some old) (new : Slot) :
    openPorts (this.update i new) + slotOpen old = openPorts this + slotOpen new := by
  have moved := sum_map_set (f := slotOpen) found new
  show (this.services.map serviceOpen).sum + ((this.slots.set i new).map slotOpen).sum + slotOpen old = _
  rw [add_assoc, moved, ← add_assoc]
  rfl

theorem held_updateService {old new : Service} (found : this.services[i]? = some old)
    (same : new.port = old.port) : held (this.updateService i new) = held this := by
  have moved := sum_map_set (f := fun service => ({service.port} : Multiset Port)) found new
  rw [same] at moved
  have sums := add_right_cancel moved
  show ((this.services.set i new).map fun service => ({service.port} : Multiset Port)).sum + _ = _
  rw [sums]
  rfl

theorem openPorts_updateService {old : Service} (found : this.services[i]? = some old)
    (new : Service) :
    openPorts (this.updateService i new) + serviceOpen old = openPorts this + serviceOpen new := by
  have moved := sum_map_set (f := serviceOpen) found new
  show ((this.services.set i new).map serviceOpen).sum + (this.slots.map slotOpen).sum + serviceOpen old = _
  rw [add_right_comm, moved, add_right_comm]
  rfl

theorem held_settle (session : Session) : held (this.settle i session) = held this := by
  have ports : servicePorts (this.settle i session) = servicePorts this := by
    unfold servicePorts Shared.settle
    rw [List.map_map]
    congr 1
    apply List.map_congr_left
    intro service _
    simp only [Function.comp]
    split_ifs <;> rfl
  unfold held
  rw [ports]
  rfl

theorem openPorts_settle (session : Session) : openPorts (this.settle i session) = openPorts this := by
  have ports : ((this.settle i session).services.map serviceOpen).sum =
      (this.services.map serviceOpen).sum := by
    unfold Shared.settle
    rw [List.map_map]
    congr 1
    apply List.map_congr_left
    intro service _
    simp only [Function.comp]
    split_ifs <;> rfl
  unfold openPorts
  rw [ports]
  rfl

end Update

section Allocator

theorem claim_inUse (ports : PortAllocator) (port : Port) :
    (∃ next, ports.claim port = (.ok (), next) ∧ port ∉ ports.inUse ∧
      next.inUse = insert port ports.inUse) ∨
    ∃ reason, ports.claim port = (.error reason, ports) := by
  unfold PortAllocator.claim
  split_ifs with used
  · exact .inr ⟨_, rfl⟩
  · exact .inl ⟨_, rfl, used, rfl⟩

theorem walk_inUse (kind : Kind) (left : Nat) (ports : PortAllocator) :
    (∃ port next, PortAllocator.walk kind left ports = (some port, next) ∧ port ∉ ports.inUse ∧
      next.inUse = insert port ports.inUse) ∨
    ∃ next, PortAllocator.walk kind left ports = (none, next) ∧ next.inUse = ports.inUse := by
  induction left generalizing ports with
  | zero => exact .inr ⟨ports, rfl, rfl⟩
  | succ left ih =>
      unfold PortAllocator.walk
      dsimp only
      split_ifs with used
      · exact ih ports.advance
      · exact .inl ⟨_, _, rfl, used, rfl⟩

theorem session_claim_inUse (grant : Grant) (kind : Kind) (fixed : Option UInt16)
    (ports : PortAllocator) :
    (∃ port next, Session.claim grant kind fixed ports = (.ok port, next) ∧ port ∉ ports.inUse ∧
      next.inUse = insert port ports.inUse) ∨
    ∃ reason next, Session.claim grant kind fixed ports = (.error reason, next) ∧
      next.inUse = ports.inUse := by
  unfold Session.claim
  cases fixed with
  | some number =>
      dsimp only
      split_ifs with ungranted
      · exact .inr ⟨_, _, rfl, rfl⟩
      · rcases claim_inUse ports ⟨number, kind⟩ with ⟨next, claimed, free, inUse⟩ | ⟨reason, claimed⟩
        · rw [claimed]
          exact .inl ⟨_, _, rfl, free, inUse⟩
        · rw [claimed]
          exact .inr ⟨_, _, rfl, rfl⟩
  | none =>
      dsimp only
      rcases walk_inUse kind ports.span.len ports with
        ⟨port, next, walked, free, inUse⟩ | ⟨next, walked, inUse⟩
      · rw [PortAllocator.claimDynamic, walked]
        exact .inl ⟨_, _, rfl, free, inUse⟩
      · rw [PortAllocator.claimDynamic, walked]
        exact .inr ⟨_, _, rfl, inUse⟩

end Allocator

/-- What one step does to the ports, the sockets and the records of both. -/
inductive Moved (this next : Shared) : Prop
  | quiet (inUse : next.ports.inUse = this.ports.inUse) (held : held next = held this)
      (claimed : next.claimed = this.claimed) (released : next.released = this.released)
      (sockets : next.sockets = this.sockets) (opened : openPorts next = openPorts this)
  | opens (port : Port) (inUse : next.ports.inUse = this.ports.inUse) (held : held next = held this)
      (claimed : next.claimed = this.claimed) (released : next.released = this.released)
      (sockets : next.sockets = port ::ₘ this.sockets)
      (opened : openPorts next = port ::ₘ openPorts this)
  | closes (port : Port) (inUse : next.ports.inUse = this.ports.inUse)
      (held : held next = held this) (claimed : next.claimed = this.claimed)
      (released : next.released = this.released)
      (sockets : next.sockets = this.sockets.erase port)
      (opened : openPorts this = port ::ₘ openPorts next)
  | claims (port : Port) (free : port ∉ this.ports.inUse)
      (inUse : next.ports.inUse = insert port this.ports.inUse)
      (held : held next = port ::ₘ held this) (claimed : next.claimed = port ::ₘ this.claimed)
      (released : next.released = this.released) (sockets : next.sockets = this.sockets)
      (opened : openPorts next = openPorts this)
  | releases (port : Port) (inUse : next.ports.inUse = this.ports.inUse.erase port)
      (held : held this = port ::ₘ held next) (claimed : next.claimed = this.claimed)
      (released : next.released = port ::ₘ this.released) (sockets : next.sockets = this.sockets)
      (opened : openPorts next = openPorts this)

section Steps
variable {this : Shared} {i : Nat}

theorem update_quiet {old new : Slot} (found : this.slots[i]? = some old)
    (sameHeld : slotHeld new = slotHeld old) (sameOpen : slotOpen new = slotOpen old) :
    Moved this (this.update i new) := by
  have holds := held_update found new
  have opens := openPorts_update found new
  rw [sameHeld] at holds
  rw [sameOpen] at opens
  exact .quiet rfl (add_right_cancel holds) rfl rfl rfl (add_right_cancel opens)

theorem settle_quiet {session : Session} (found : this.slots[i]? = some ⟨session, none, false⟩)
    (session' : Session) (ended : Bool) :
    Moved this ((this.update i ⟨session', none, ended⟩).settle i session') := by
  have holds := held_update found ⟨session', none, ended⟩
  have opens := openPorts_update found ⟨session', none, ended⟩
  exact .quiet rfl ((held_settle session').trans (add_right_cancel holds)) rfl rfl rfl
    ((openPorts_settle session').trans (add_right_cancel opens))

theorem updateService_quiet {old new : Service} (found : this.services[i]? = some old)
    (samePort : new.port = old.port) (sameClosed : new.closed = old.closed) :
    Moved this (this.updateService i new) := by
  have opens := openPorts_updateService found new
  have same : serviceOpen new = serviceOpen old := by simp [serviceOpen, samePort, sameClosed]
  rw [same] at opens
  exact .quiet rfl (held_updateService found samePort) rfl rfl rfl (add_right_cancel opens)

theorem claimed_moved {session : Session} {request : Request} {port : Port} {ports : PortAllocator}
    (found : this.slots[i]? = some ⟨session, some request, false⟩)
    (claiming : request.walk.stage = .claiming) (free : port ∉ this.ports.inUse)
    (inUse : ports.inUse = insert port this.ports.inUse) :
    Moved this { this.update i ⟨session, some { request with
        walk := { request.walk with stage := .binding port } }, false⟩ with
      ports, claimed := port ::ₘ this.claimed } := by
  have holds := held_update found
    ⟨session, some { request with walk := { request.walk with stage := .binding port } }, false⟩
  have opens := openPorts_update found
    ⟨session, some { request with walk := { request.walk with stage := .binding port } }, false⟩
  simp only [slotHeld, slotOpen, claiming, stageHeld, stageOpen, add_zero] at holds opens
  refine .claims port free inUse ?_ rfl rfl rfl opens
  rw [add_comm (request.walk.refused : Multiset Port), ← add_assoc, add_comm (held this)] at holds
  exact add_right_cancel holds

theorem unclaimed_moved {session : Session} {request : Request} {reason : BindFailure} {ports : PortAllocator}
    (found : this.slots[i]? = some ⟨session, some request, false⟩)
    (claiming : request.walk.stage = .claiming) (inUse : ports.inUse = this.ports.inUse) :
    Moved this { this.update i ⟨session, some { request with
        walk := { request.walk with stage := .leaving (.error reason) } }, false⟩ with ports } := by
  have holds := held_update found ⟨session, some { request with
    walk := { request.walk with stage := .leaving (.error reason) } }, false⟩
  have opens := openPorts_update found ⟨session, some { request with
    walk := { request.walk with stage := .leaving (.error reason) } }, false⟩
  simp only [slotHeld, slotOpen, claiming, stageHeld, stageOpen, add_zero] at holds opens
  exact .quiet inUse (add_right_cancel holds) rfl rfl rfl opens

theorem accepted_moved {session : Session} {request : Request} {port : Port}
    (found : this.slots[i]? = some ⟨session, some request, false⟩)
    (binding : request.walk.stage = .binding port) :
    Moved this { this.update i ⟨session, some { request with
        walk := { request.walk with stage := .leaving (.ok port) } }, false⟩ with
      sockets := port ::ₘ this.sockets } := by
  have holds := held_update found ⟨session, some { request with
    walk := { request.walk with stage := .leaving (.ok port) } }, false⟩
  have opens := openPorts_update found ⟨session, some { request with
    walk := { request.walk with stage := .leaving (.ok port) } }, false⟩
  simp only [slotHeld, slotOpen, binding, stageHeld, stageOpen, add_zero] at holds opens
  rw [add_comm (openPorts this), Multiset.singleton_add] at opens
  exact .opens port rfl (add_right_cancel holds) rfl rfl rfl opens

theorem refused_moved {session : Session} {request : Request} {port : Port}
    (found : this.slots[i]? = some ⟨session, some request, false⟩)
    (binding : request.walk.stage = .binding port) :
    Moved this (this.update i ⟨session, some { request with
      walk := { request.walk with
        refused := request.walk.refused ++ [port]
        stage := if request.walk.fixed.isSome then .leaving (.error .inUse) else .claiming } }, false⟩) := by
  apply update_quiet found
  · simp only [slotHeld, binding, stageHeld, ← Multiset.coe_add, Multiset.coe_singleton]
    split_ifs <;> simp
  · simp only [slotOpen, binding, stageOpen]
    split_ifs <;> rfl

theorem releaseRefused_moved {session : Session} {request : Request}
    {port : Port} {refused : List Port}
    (found : this.slots[i]? = some ⟨session, some request, false⟩)
    (some_left : request.walk.refused = port :: refused) :
    Moved this ((this.update i ⟨session, some { request with
      walk := { request.walk with refused } }, false⟩).giveBack port) := by
  have holds := held_update found
    ⟨session, some { request with walk := { request.walk with refused } }, false⟩
  have opens := openPorts_update found
    ⟨session, some { request with walk := { request.walk with refused } }, false⟩
  simp only [slotHeld, slotOpen, some_left, ← Multiset.cons_coe] at holds opens
  rw [Multiset.cons_add, Multiset.add_cons, ← Multiset.cons_add] at holds
  exact .releases port rfl (add_right_cancel holds).symm rfl rfl rfl (add_right_cancel opens)

theorem opened_moved {session session' : Session} {request : Request} {port : Port}
    (service : Service) (samePort : service.port = port) (unclosed : service.closed = false)
    (found : this.slots[i]? = some ⟨session, some request, false⟩)
    (leaving : request.walk.stage = .leaving (.ok port)) (none_left : request.walk.refused = []) :
    Moved this { this.update i ⟨session', none, false⟩ with services := service :: this.services } := by
  have holds := held_update found ⟨session', none, false⟩
  have opens := openPorts_update found ⟨session', none, false⟩
  simp only [slotHeld, slotOpen, leaving, none_left, stageHeld, stageOpen, Multiset.coe_nil,
    zero_add, add_zero] at holds opens
  refine .quiet rfl ?_ rfl rfl rfl ?_
  · rw [← holds, ← samePort, add_comm (held _)]
    simp only [held, servicePorts, walkPorts, Shared.update, List.map_cons, List.sum_cons, add_assoc]
  · rw [← opens, ← samePort, add_comm (openPorts _)]
    simp only [openPorts, serviceOpen, Shared.update, List.map_cons, List.sum_cons, add_assoc,
      unclosed, Bool.false_eq_true, ↓reduceIte]

theorem close_moved {service : Service} (found : this.services[i]? = some service)
    (unclosed : service.closed = false) :
    Moved this { this.updateService i { service with closed := true } with
      sockets := this.sockets.erase service.port } := by
  have opens := openPorts_updateService found { service with closed := true }
  simp only [serviceOpen, unclosed, Bool.false_eq_true, ↓reduceIte, add_zero] at opens
  refine .closes service.port rfl (held_updateService found rfl) rfl rfl rfl ?_
  rw [← opens, add_comm, Multiset.singleton_add]
  rfl

theorem release_moved {service : Service} (found : this.services[i]? = some service)
    (closed : service.closed = true) :
    Moved this ({ this with services := this.services.eraseIdx i }.giveBack service.port) := by
  have ports := sum_map_eraseIdx (f := fun service => ({service.port} : Multiset Port)) found
  have opens := sum_map_eraseIdx (f := serviceOpen) found
  simp only [serviceOpen, closed, ↓reduceIte, add_zero] at opens
  refine .releases service.port rfl ?_ rfl rfl rfl ?_
  · simp only [held, servicePorts, walkPorts, ← ports, Shared.giveBack]
    rw [← Multiset.singleton_add]
    abel
  · simp only [openPorts, Shared.giveBack]
    rw [opens]

theorem welcome_moved (key : PublicKey) (grant : Grant) :
    Moved this { this with slots := this.slots ++ [⟨.new key grant, none, false⟩] } := by
  refine .quiet rfl ?_ rfl rfl rfl ?_
  · simp [held, walkPorts, slotHeld, servicePorts]
  · simp [openPorts, slotOpen]

theorem step_moved [Ipnet] {next : Shared} {event : Shared.Event}
    (stepped : this.step event = some next) : Moved this next := by
  cases Shared.step_stepped stepped with
  | welcome key grant => exact welcome_moved key grant
  | bind i service kind port allow proxyProtocol session admitted id found => exact update_quiet found rfl rfl
  | claimed i session request port ports found claiming claims =>
      rcases session_claim_inUse session.grant request.walk.kind request.walk.fixed this.ports with
        ⟨port', ports', claims', free, inUse⟩ | ⟨reason, ports', claims', -⟩
      · obtain ⟨rfl, rfl⟩ : port = port' ∧ ports = ports' := by simpa using claims.symm.trans claims'
        exact claimed_moved found claiming free inUse
      · cases claims.symm.trans claims'
  | unclaimed i session request reason ports found claiming claims =>
      rcases session_claim_inUse session.grant request.walk.kind request.walk.fixed this.ports with
        ⟨port', ports', claims', -⟩ | ⟨reason', ports', claims', inUse⟩
      · cases claims.symm.trans claims'
      · obtain ⟨-, rfl⟩ : reason = reason' ∧ ports = ports' := by simpa using claims.symm.trans claims'
        exact unclaimed_moved found claiming inUse
  | accepted i session request port found binding => exact accepted_moved found binding
  | refused i session request port found binding => exact refused_moved found binding
  | releaseRefused i session request outcome port refused found leaving some_left =>
      exact releaseRefused_moved found some_left
  | failed i session request reason found leaving none_left =>
      apply update_quiet found
      · simp [slotHeld, leaving, none_left, stageHeld]
      · simp [slotOpen, leaving, stageOpen]
  | bound i session request port found leaving none_left =>
      exact opened_moved _ rfl rfl found leaving none_left
  | unbind i service session found => exact settle_quiet found _ _
  | regrant i policy session found => exact settle_quiet found _ _
  | leave i session found => exact settle_quiet found _ _
  | stopped i service found => exact updateService_quiet found rfl rfl
  | lend i service found => exact updateService_quiet found rfl rfl
  | giveBack i service found => exact updateService_quiet found rfl rfl
  | close i service found idle => exact close_moved found (by simp_all)
  | release i service found closed => exact release_moved found closed

end Steps

theorem Moved.ledger_step {this next : Shared} (moved : Moved this next) (number : UInt16) :
    Ledger.Step (ledger number this) (ledger number next) := by
  cases moved with
  | quiet inUse held claimed released _ _ | opens _ inUse held claimed released _ _
  | closes _ inUse held claimed released _ _ =>
      have same : ledger number next = ledger number this := by
        simp [ledger, inUse, held, claimed, released]
      rw [same]
      exact .idle
  | claims port free inUse held claimed released sockets opened =>
      have same : ledger number next = { ledger number this with
          inUse := insert port this.ports.inUse, held := port ::ₘ Ownership.held this
          claimed := port ::ₘ this.claimed } := by
        simp [ledger, inUse, held, claimed, released]
      rw [same]
      exact .claim port free
  | releases port inUse held claimed released sockets opened =>
      have same : ledger number next = { ledger number this with
          inUse := this.ports.inUse.erase port, held := Ownership.held next
          released := port ::ₘ this.released } := by
        simp [ledger, inUse, claimed, released]
      rw [same]
      exact .release port _ held

theorem Moved.sockets_open {this next : Shared} (moved : Moved this next)
    (open' : this.sockets = openPorts this) : next.sockets = openPorts next := by
  cases moved with
  | quiet _ _ _ _ sockets opened | claims _ _ _ _ _ _ sockets opened
  | releases _ _ _ _ _ sockets opened => rw [sockets, opened, open']
  | opens port _ _ _ _ sockets opened => rw [sockets, opened, open']
  | closes port _ _ _ _ sockets opened => rw [sockets, open', opened, Multiset.erase_cons_head]

structure Inv (number : UInt16) (this : Shared) : Prop where
  balanced : Ledger.Balanced (ledger number this)
  sockets : this.sockets = openPorts this

theorem new_inv (span : PortSpan) (number : UInt16) : Inv number (.new span number) := by
  refine ⟨⟨?_, ?_, rfl, by simp [ledger, Shared.new]⟩, rfl⟩
  · simp [ledger, held, servicePorts, walkPorts, Shared.new, reserved]
  · ext port
    simp [ledger, held, servicePorts, walkPorts, Shared.new, reserved, PortAllocator.reserve,
      PortAllocator.new]
    tauto

theorem reachable_inv [Ipnet] {span : PortSpan} {number : UInt16} {this : Shared}
    (reachable : (sessions span number).Reachable this) : Inv number this := by
  apply reachable.invariant (Inv number)
  · intro start same
    rw [same]
    exact new_inv span number
  · intro before event after _ inv stepped
    have moved := step_moved stepped
    exact ⟨inv.balanced.step (moved.ledger_step number), moved.sockets_open inv.sockets⟩

theorem Inv.releases {number : UInt16} {this next : Shared} (inv : Inv number this)
    (moved : Moved this next) {port : Port} (released : next.released = port ::ₘ this.released) :
    port ∈ this.ports.inUse ∧ port ∉ reserved number ∧ port ∉ this.sockets := by
  cases moved with
  | quiet _ _ _ same _ _ | opens _ _ _ _ same _ _ | closes _ _ _ _ same _ _
  | claims _ _ _ _ _ same _ _ =>
      rw [same] at released
      have sizes := congrArg Multiset.card released
      simp at sizes
  | releases other inUse had claimed released' sockets opened =>
      obtain rfl : other = port := (Multiset.cons_inj_left _).mp (released'.symm.trans released)
      have nodup := inv.balanced.nodup
      have members := inv.balanced.inUse
      simp only [ledger, had, Multiset.add_cons] at nodup members
      obtain ⟨once, -⟩ := Multiset.nodup_cons.mp nodup
      rw [Multiset.mem_add, not_or] at once
      refine ⟨?_, once.1, ?_⟩
      · rw [members, Multiset.mem_toFinset]
        exact Multiset.mem_cons_self _ _
      · -- What is open after the step was open before it, and is held by something else.
        rw [inv.sockets, ← opened]
        intro stillOpen
        exact once.2 (Multiset.mem_of_le (openPorts_le_held next) stillOpen)

theorem release_step [Ipnet] {this : Shared} {i : Nat} {service : Service}
    (found : this.services[i]? = some service) (closed : service.closed = true) :
    this.step (.release i) = some ({ this with services := this.services.eraseIdx i }.giveBack service.port) := by
  simp [Shared.step, found, closed]

theorem ports_owned_once [Ipnet] (span : PortSpan) (number : UInt16) (this : Shared)
    (reachable : (sessions span number).Reachable this) :
    (reserved number + servicePorts this + walkPorts this).Nodup ∧
    this.ports.inUse = (reserved number + servicePorts this + walkPorts this).toFinset ∧
    this.sockets = openPorts this ∧
    this.claimed = this.released + (servicePorts this + walkPorts this) ∧
    (∀ port ∈ reserved number, port ∉ this.claimed ∧ port ∉ this.released) ∧
    (∀ event next, (sessions span number).step this event next →
      ∀ port, next.released = port ::ₘ this.released →
        port ∈ this.ports.inUse ∧ port ∉ reserved number ∧ port ∉ this.sockets) ∧
    ∀ i service, this.services[i]? = some service → service.closed = true →
      ∃ next, (sessions span number).step this (.release i) next ∧
        next.services = this.services.eraseIdx i ∧ next.released = service.port ::ₘ this.released ∧
          next.ports.inUse = this.ports.inUse.erase service.port := by
  have inv := reachable_inv reachable
  obtain ⟨nodup, inUse, claimed, apart⟩ := inv.balanced
  simp only [ledger, held] at nodup inUse claimed apart
  rw [← add_assoc] at nodup inUse
  refine ⟨nodup, inUse, inv.sockets, claimed, ?_, ?_, ?_⟩
  · intro port kept
    refine ⟨apart port kept, ?_⟩
    intro given
    exact apart port kept (claimed ▸ Multiset.mem_add.mpr (.inl given))
  · intro event next stepped port released
    exact inv.releases (step_moved stepped) released
  · intro i service found closed
    exact ⟨_, release_step found closed, rfl, rfl, rfl⟩

section Example
attribute [local instance] ipnet

def webEvents : List Shared.Event :=
  [.welcome (Vector.replicate 32 7) ⟨"nas", [⟨80, 90, .tcp⟩], .v4 0, []⟩,
    .bind 0 "web" .tcp (some 80) [] false, .claim 0, .host 0 true, .opened 0,
    .unbind 0 "web", .stopped 0, .close 0]

/-- A service is bound and unbound; its listener's task stops and closes its socket, and then gives
its port back. -/
theorem ports_owned_once_web :
    ∃ this, (sessions ⟨40000, 50000⟩ 7000).Reachable this ∧ servicePorts this = {⟨80, .tcp⟩} ∧
      (⟨80, .tcp⟩ : Port) ∈ this.ports.inUse ∧
      ∃ next, (sessions ⟨40000, 50000⟩ 7000).Reachable next ∧ next.released = {⟨80, .tcp⟩} ∧
        (⟨80, .tcp⟩ : Port) ∉ next.ports.inUse := by
  have reachable : (sessions ⟨40000, 50000⟩ 7000).Reachable _ :=
    System.Reachable.run (fun _ _ _ stepped => stepped) (.initial rfl) webEvents rfl
  obtain ⟨-, inUse, -, -, -, -, releases⟩ := ports_owned_once _ _ _ reachable
  obtain ⟨next, stepped, -, released, freed⟩ := releases 0 _ rfl rfl
  refine ⟨_, reachable, rfl, ?_, next, reachable.next stepped, released, ?_⟩
  · rw [inUse, Multiset.mem_toFinset]
    decide
  · rw [freed]
    exact Finset.notMem_erase _ _

end Example
end Hawse.Proof.Ownership
