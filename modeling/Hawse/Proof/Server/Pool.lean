import Hawse.Proof.Server.Ownership
import Hawse.Proof.Server.Reload
import Hawse.Proof.Server.Session

namespace Hawse.Proof.Pool
open Lib Hawse.Server Hawse.ServerConfig Ownership

section Allocator
variable {pool : Pool} {ports : PortAllocator}

structure Within (pool : Pool) (ports : PortAllocator) : Prop where
  span : ports.span = pool.toPortSpan
  cursor : pool.containsNumber ports.cursor = true

theorem containsNumber_iff {span : PortSpan} {n : UInt16} :
    span.containsNumber n = true ↔ span.first ≤ n ∧ n ≤ span.last := by
  simp [PortSpan.containsNumber]

theorem Within.advance (within : Within pool ports) : Within pool ports.advance := by
  obtain ⟨span, cursor⟩ := within
  refine ⟨span, ?_⟩
  rw [containsNumber_iff] at cursor ⊢
  unfold PortAllocator.advance
  rw [span]
  dsimp only
  split_ifs with last
  · exact ⟨UInt16.le_refl _, pool.ordered⟩
  · have less : ports.cursor.toNat < pool.last.toNat := by
      have le := UInt16.le_iff_toNat_le.mp cursor.2
      have differ : ports.cursor.toNat ≠ pool.last.toNat := fun same => last (UInt16.toNat_inj.mp same)
      omega
    have bound := pool.last.toNat_lt
    have next : (ports.cursor + 1).toNat = ports.cursor.toNat + 1 := by
      rw [UInt16.toNat_add]
      exact Nat.mod_eq_of_lt (by simpa using by omega)
    constructor
    · rw [UInt16.le_iff_toNat_le, next]
      have le := UInt16.le_iff_toNat_le.mp cursor.1
      omega
    · rw [UInt16.le_iff_toNat_le, next]
      omega

theorem Within.walk (within : Within pool ports) (kind : Kind) (left : Nat) :
    Within pool (PortAllocator.walk kind left ports).2 ∧
      ∀ port, (PortAllocator.walk kind left ports).1 = some port → pool.containsNumber port.number = true := by
  induction left generalizing ports with
  | zero => exact ⟨within, by rintro _ ⟨⟩⟩
  | succ left ih =>
      unfold PortAllocator.walk
      dsimp only
      split_ifs
      · exact ih within.advance
      · refine ⟨⟨within.advance.span, within.advance.cursor⟩, ?_⟩
        rintro port found
        obtain rfl := Option.some.inj found
        exact within.cursor

theorem Within.claim (within : Within pool ports) (grant : Grant) (kind : Kind) (fixed : Option UInt16) :
    Within pool (Session.claim grant kind fixed ports).2 ∧
      ∀ port, (Session.claim grant kind fixed ports).1 = .ok port → fixed = none →
        pool.containsNumber port.number = true := by
  unfold Session.claim
  cases fixed with
  | some number =>
      refine ⟨?_, by rintro _ _ ⟨⟩⟩
      unfold PortAllocator.claim
      dsimp only
      split_ifs
      · exact within
      · exact within
      · exact ⟨within.span, within.cursor⟩
  | none =>
      have walked := within.walk kind ports.span.len
      dsimp only
      rw [PortAllocator.claimDynamic]
      generalize PortAllocator.walk kind ports.span.len ports = result at walked ⊢
      obtain ⟨_ | port, next⟩ := result
      · exact ⟨walked.1, by rintro _ ⟨⟩⟩
      · refine ⟨walked.1, ?_⟩
        rintro _ found _
        obtain rfl := Except.ok.inj found
        exact walked.2 port rfl

end Allocator

section Grants
variable {cfg : ServerConfig}

/-- No range of the grant takes in the listen port or meets the pool. -/
def Fits (cfg : ServerConfig) (grant : Grant) : Prop :=
  ∀ range ∈ grant.ports, names cfg.listen.port range = false ∧ meets cfg.dynamicPorts.toPortSpan range = false

theorem Fits.outside {grant : Grant} (fits : Fits cfg grant) {number : UInt16}
    (inside : cfg.dynamicPorts.containsNumber number = true) : ∀ range ∈ grant.ports, names number range = false := by
  intro range member
  rw [containsNumber_iff] at inside
  have unmet := (fits range member).2
  simp only [meets, decide_eq_false_iff_not] at unmet
  simp only [names, decide_eq_false_iff_not]
  rintro ⟨above, below⟩
  exact unmet ⟨UInt16.le_trans above inside.2, UInt16.le_trans inside.1 below⟩

theorem allows_names {grant : Grant} {port : Port} (allows : grant.allows port = true) :
    ∃ range ∈ grant.ports, names port.number range = true := by
  obtain ⟨range, member, contained⟩ := List.any_eq_true.mp allows
  simp only [PortRange.contains, decide_eq_true_eq] at contained
  exact ⟨range, member, by simpa [names] using contained.2⟩

variable [Ipv6Net]

theorem fromConfig_fits (accepted : cfg.validate = .ok ()) {key : PublicKey} {grant : Grant}
    (found : (Policy.fromConfig cfg).lookup key = some grant) : Fits cfg grant := by
  obtain ⟨clear, -⟩ := Reload.validate_ok.mp accepted
  obtain ⟨policy, client, -, same⟩ := Reload.lookup_fromConfig found
  intro range member
  exact clear.grants grant.name policy client range (same ▸ member)

theorem reloaded_fits {new : ServerConfig} {policy : Policy} (reloads : reloaded cfg new = .ok policy)
    {key : PublicKey} {grant : Grant} (found : policy.lookup key = some grant) : Fits cfg grant := by
  obtain ⟨_, accepted, taken⟩ := Fallible.bind_eq_ok.mp reloads
  obtain rfl := Except.ok.inj taken
  exact fromConfig_fits accepted found

end Grants

section History

/-- The policies that were ever in force, and the grant under which a port was last claimed by its
number, or `none` when it was last claimed from the pool. -/
structure Past where
  policies : List Policy
  byNumber : Port → Option Grant

def Past.start (cfg : ServerConfig) : Past := ⟨[.fromConfig cfg], fun _ => none⟩

def Past.under (past : Past) (port : Port) (grant : Option Grant) : Past :=
  { past with byNumber := Function.update past.byNumber port grant }

def Past.claimed (past : Past) : Option Slot → Past
  | some ⟨session, some request, _⟩ =>
      match request.walk.stage with
      | .binding port => past.under port (if request.walk.fixed.isSome then some session.grant else none)
      | _ => past
  | _ => past

def Past.note (past : Past) (_ : Running) (event : Running.Event) (next : Running) : Past :=
  match event with
  | .reload _ => { past with policies := next.policy :: past.policies }
  | .session (.claim i) => past.claimed next.shared.slots[i]?
  | _ => past

def Given (past : Past) (grant : Grant) : Prop :=
  ∃ policy ∈ past.policies, ∃ key, policy.lookup key = some grant

/-- How the owner of a port came by it. -/
def Owned (cfg : ServerConfig) (past : Past) (port : Port) : Prop :=
  (∃ grant, past.byNumber port = some grant ∧ grant.allows port = true ∧ Given past grant) ∨
    (past.byNumber port = none ∧ cfg.dynamicPorts.containsNumber port.number = true)

theorem owned_by_number {cfg : ServerConfig} {past : Past} {port : Port} {grant : Grant}
    (allows : grant.allows port = true) (given : Given past grant) :
    Owned cfg (past.under port (some grant)) port :=
  .inl ⟨grant, Function.update_self .., allows, given⟩

theorem owned_dynamic {cfg : ServerConfig} {past : Past} {port : Port}
    (inside : cfg.dynamicPorts.containsNumber port.number = true) : Owned cfg (past.under port none) port :=
  .inr ⟨Function.update_self .., inside⟩

theorem Owned.under {cfg : ServerConfig} {past : Past} {port other : Port} (owned : Owned cfg past other)
    (differ : other ≠ port) (grant : Option Grant) : Owned cfg (past.under port grant) other := by
  have same : (past.under port grant).byNumber other = past.byNumber other := Function.update_of_ne differ ..
  rcases owned with ⟨grant, noted, allows, given⟩ | ⟨noted, inside⟩
  · exact .inl ⟨grant, same.trans noted, allows, given⟩
  · exact .inr ⟨same.trans noted, inside⟩

/-- A walk for one port has not asked the host yet while it is claiming. -/
def Fresh (slot : Slot) : Prop :=
  ∀ request, slot.opening = some request → request.walk.fixed.isSome → request.walk.stage = .claiming →
    request.walk.refused = []

structure Inv (cfg : ServerConfig) (this : Running) (past : Past) : Prop where
  started : this.started = cfg
  fits : ∀ grant, Given past grant → Fits cfg grant
  inForce : this.policy ∈ past.policies
  greeted : ∀ client ∈ this.greeted, Given past client.2
  slots : ∀ slot ∈ this.shared.slots, Given past slot.session.grant ∧ Fresh slot
  within : Within cfg.dynamicPorts this.shared.ports
  owned : ∀ port ∈ held this.shared, Owned cfg past port
  ledger : Ownership.Inv cfg.listen.port this.shared

end History

section Steps
variable {s next : Shared} {event : Shared.Event}

def Kept (s : Shared) (slot : Slot) : Prop :=
  (∃ old ∈ s.slots, slot.session.grant = old.session.grant) ∧ ((∀ old ∈ s.slots, Fresh old) → Fresh slot)

theorem kept_of_mem {slot : Slot} (member : slot ∈ s.slots) : Kept s slot :=
  ⟨⟨slot, member, rfl⟩, fun fresh => fresh slot member⟩

theorem kept_update {i : Nat} {old new : Slot} (found : s.slots[i]? = some old)
    (grant : new.session.grant = old.session.grant) (fresh : Fresh old → Fresh new) :
    ∀ slot ∈ s.slots.set i new, Kept s slot := by
  intro slot member
  have was := List.mem_of_getElem? found
  rcases List.mem_or_eq_of_mem_set member with member | rfl
  · exact kept_of_mem member
  · exact ⟨⟨old, was, grant⟩, fun all => fresh (all old was)⟩

theorem fresh_none (session : Session) (ended : Bool) : Fresh ⟨session, none, ended⟩ := by
  rintro _ ⟨⟩

theorem fresh_of_stage {session : Session} {request : Request} {ended : Bool}
    (past : request.walk.stage = .claiming → request.walk.fixed.isSome → request.walk.refused = []) :
    Fresh ⟨session, some request, ended⟩ := by
  rintro _ same fixed claiming
  obtain rfl := Option.some.inj same
  exact past claiming fixed

variable [Ipnet]

theorem stepped_slots (stepped : Shared.Stepped s event next) :
    (∀ slot ∈ next.slots, Kept s slot) ∨
    (∃ key grant, event = .welcome key grant ∧ next.slots = s.slots ++ [⟨.new key grant, none, false⟩]) ∨
    ∃ i policy session, event = .regrant i policy ∧ s.slots[i]? = some ⟨session, none, false⟩ ∧
      next.slots = s.slots.set i ⟨(session.regrant policy).2, none, false⟩ := by
  cases stepped with
  | welcome key grant => exact .inr (.inl ⟨key, grant, rfl, rfl⟩)
  | regrant i policy session found => exact .inr (.inr ⟨i, policy, session, rfl, found, rfl⟩)
  | bind i service kind port allow proxyProtocol session admitted id found =>
      exact .inl (kept_update found rfl fun _ => fresh_of_stage fun _ _ => rfl)
  | claimed i session request port ports found =>
      exact .inl (kept_update found rfl fun _ => fresh_of_stage (by rintro ⟨⟩))
  | unclaimed i session request reason ports found =>
      exact .inl (kept_update found rfl fun _ => fresh_of_stage (by rintro ⟨⟩))
  | accepted i session request port found =>
      exact .inl (kept_update found rfl fun _ => fresh_of_stage (by rintro ⟨⟩))
  | refused i session request port found =>
      refine .inl (kept_update found rfl fun _ => fresh_of_stage ?_)
      intro claiming fixed
      dsimp only at claiming fixed
      rw [if_pos fixed] at claiming
      cases claiming
  | releaseRefused i session request outcome port refused found leaving =>
      refine .inl (kept_update found rfl fun _ => fresh_of_stage ?_)
      intro claiming
      cases leaving.symm.trans claiming
  | failed i session request reason found => exact .inl (kept_update found rfl fun _ => fresh_none _ _)
  | bound i session request port found => exact .inl (kept_update found rfl fun _ => fresh_none _ _)
  | unbind i service session found => exact .inl (kept_update found rfl fun _ => fresh_none _ _)
  | leave i session found =>
      exact .inl (kept_update found (Session.unbindAll_grant _ _).1 fun _ => fresh_none _ _)
  | stopped | lend | giveBack | close | release => exact .inl fun _ => kept_of_mem

theorem stepped_ports (stepped : Shared.Stepped s event next) (other : ∀ i, event ≠ .claim i) :
    next.ports.span = s.ports.span ∧ next.ports.cursor = s.ports.cursor ∧ next.claimed = s.claimed := by
  cases stepped with
  | claimed i => exact absurd rfl (other i)
  | unclaimed i => exact absurd rfl (other i)
  | _ => exact ⟨rfl, rfl, rfl⟩

theorem held_kept (stepped : s.step event = some next) (same : next.claimed = s.claimed) :
    ∀ port ∈ held next, port ∈ held s := by
  intro port member
  cases step_moved stepped with
  | quiet _ held | opens _ _ held | closes _ _ held => exact held ▸ member
  | claims claimed free inUse held more =>
      have sizes := congrArg Multiset.card (more.symm.trans same)
      simp at sizes
  | releases released inUse held =>
      rw [held]
      exact Multiset.mem_cons_of_mem member

theorem held_claimed (stepped : s.step event = some next) {port : Port}
    (same : next.claimed = port ::ₘ s.claimed) : ∀ other ∈ held next, other = port ∨ other ∈ held s := by
  intro other member
  cases step_moved stepped with
  | quiet _ held claimed | opens _ _ held claimed | closes _ _ held claimed | releases _ _ held claimed =>
      have sizes := congrArg Multiset.card (same.symm.trans claimed)
      simp at sizes
  | claims port' free inUse held claimed =>
      obtain rfl : port' = port := (Multiset.cons_inj_left _).mp (claimed.symm.trans same)
      rw [held] at member
      exact Multiset.mem_cons.mp member

end Steps

section Owner
variable {cfg : ServerConfig} {this : Running} {past : Past} {port : Port}

theorem mem_reserved {number : UInt16} (same : port.number = number) : port ∈ reserved number := by
  obtain ⟨_, kind⟩ := port
  obtain rfl := same
  cases kind <;> simp [reserved]

theorem number_of_reserved {number : UInt16} (member : port ∈ reserved number) : port.number = number := by
  rcases (by simpa [reserved] using member : port = ⟨number, .tcp⟩ ∨ port = ⟨number, .udp⟩) with rfl | rfl <;> rfl

theorem Inv.unlistened (inv : Inv cfg this past) (member : port ∈ this.shared.claimed) :
    port.number ≠ cfg.listen.port := by
  intro same
  exact inv.ledger.balanced.apart port (mem_reserved same) member

theorem Inv.claimed_of_socket (inv : Inv cfg this past) (member : port ∈ this.shared.sockets) :
    port ∈ this.shared.claimed := by
  rw [inv.ledger.sockets] at member
  have held := Multiset.mem_of_le (openPorts_le_held this.shared) member
  have claimed : this.shared.claimed = this.shared.released + Ownership.held this.shared :=
    inv.ledger.balanced.claimed
  rw [claimed]
  exact Multiset.mem_add.mpr (.inr held)

theorem Inv.held_of_granted (inv : Inv cfg this past) {grant : Grant} (given : Given past grant)
    (allows : grant.allows port = true) (used : port ∈ this.shared.ports.inUse) :
    port ∈ held this.shared ∧
      ∃ under, past.byNumber port = some under ∧ under.allows port = true ∧ Given past under := by
  have fits := inv.fits grant given
  obtain ⟨range, member, named⟩ := allows_names allows
  have inUse : this.shared.ports.inUse = (reserved cfg.listen.port + held this.shared).toFinset :=
    inv.ledger.balanced.inUse
  rw [inUse, Multiset.mem_toFinset, Multiset.mem_add] at used
  rcases used with reserved | held
  · rw [number_of_reserved reserved, (fits range member).1] at named
    cases named
  · refine ⟨held, ?_⟩
    rcases inv.owned port held with under | ⟨-, inside⟩
    · exact under
    · rw [fits.outside inside range member] at named
      cases named

theorem Inv.held_by_other (inv : Inv cfg this past) {i : Nat} {session : Session} {request : Request}
    (found : this.shared.slots[i]? = some ⟨session, some request, false⟩)
    (claiming : request.walk.stage = .claiming) (fixed : request.walk.fixed.isSome)
    (member : port ∈ held this.shared) :
    (∃ j slot, j ≠ i ∧ this.shared.slots[j]? = some slot ∧ port ∈ slotHeld slot) ∨
      ∃ service ∈ this.shared.services, service.port = port := by
  rcases Multiset.mem_add.mp member with service | walk
  · obtain ⟨service, member, same⟩ := mem_sum_map.mp service
    exact .inr ⟨service, member, (Multiset.mem_singleton.mp same).symm⟩
  · obtain ⟨slot, member, holds⟩ := mem_sum_map.mp walk
    obtain ⟨j, stored⟩ := List.mem_iff_getElem?.mp member
    refine .inl ⟨j, slot, ?_, stored, holds⟩
    rintro rfl
    obtain rfl := Option.some.inj (found.symm.trans stored)
    have none := (inv.slots _ member).2 request rfl fixed claiming
    simp [slotHeld, none, claiming, stageHeld] at holds

end Owner

section Runs
variable {cfg : ServerConfig} {this : Running} {past : Past} {shared : Shared} {event : Shared.Event}

theorem Inv.kept (inv : Inv cfg this past) {slot : Slot} (kept : Kept this.shared slot) :
    Given past slot.session.grant ∧ Fresh slot := by
  obtain ⟨⟨old, member, same⟩, fresh⟩ := kept
  exact ⟨same ▸ (inv.slots old member).1, fresh fun old member => (inv.slots old member).2⟩

theorem Inv.reload (inv : Inv cfg this past) {policy : Policy}
    (fits : ∀ key grant, policy.lookup key = some grant → Fits cfg grant) :
    Inv cfg { this with policy } { past with policies := policy :: past.policies } := by
  have more {grant : Grant} (given : Given past grant) :
      Given { past with policies := policy :: past.policies } grant := by
    obtain ⟨old, member, found⟩ := given
    exact ⟨old, List.mem_cons_of_mem _ member, found⟩
  exact { inv with
    fits := by
      rintro grant ⟨given, member, key, found⟩
      rcases List.mem_cons.mp member with rfl | member
      · exact fits key grant found
      · exact inv.fits grant ⟨given, member, key, found⟩
    inForce := List.mem_cons_self
    greeted := fun client member => more (inv.greeted client member)
    slots := fun slot member => ⟨more (inv.slots slot member).1, (inv.slots slot member).2⟩
    owned := by
      intro port member
      rcases inv.owned port member with ⟨grant, noted, allows, given⟩ | dynamic
      · exact .inl ⟨grant, noted, allows, more given⟩
      · exact .inr dynamic }

theorem start_inv [Ipv6Net] (accepted : cfg.validate = .ok ()) : Inv cfg (.start cfg) (.start cfg) where
  started := rfl
  fits := by
    rintro grant ⟨policy, member, key, found⟩
    obtain rfl := List.mem_singleton.mp member
    exact fromConfig_fits accepted found
  inForce := List.mem_singleton.mpr rfl
  greeted := by simp [Running.start]
  slots := by simp [Running.start, Shared.new]
  within := by
    refine ⟨rfl, ?_⟩
    rw [containsNumber_iff]
    exact ⟨UInt16.le_refl _, cfg.dynamicPorts.ordered⟩
  owned := by simp [Running.start, Shared.new, held, servicePorts, walkPorts]
  ledger := new_inv _ _

theorem regrant_given {policy : Policy} {session : Session} (inForce : policy ∈ past.policies)
    (given : Given past session.grant) : Given past (session.regrant policy).2.grant := by
  have regranted := Session.regrant_regranted session policy
  generalize (session.regrant policy).1 = msgs at regranted
  generalize (session.regrant policy).2 = after at regranted ⊢
  cases regranted with
  | gone | changed => exact given
  | kept grant found _ _ _ next _ taken => exact ⟨policy, inForce, session.key, taken ▸ found⟩

variable [Ipnet]

theorem Inv.other (inv : Inv cfg this past) (stepped : this.shared.step event = some shared)
    (other : ∀ i, event ≠ .claim i)
    (slots : ∀ slot ∈ shared.slots, Given past slot.session.grant ∧ Fresh slot) :
    Inv cfg { this with shared } past := by
  obtain ⟨span, cursor, claimed⟩ := stepped_ports (Shared.step_stepped stepped) other
  have moved := step_moved stepped
  exact { inv with
    slots
    within := ⟨span.trans inv.within.span, cursor ▸ inv.within.cursor⟩
    owned := fun port member => inv.owned port (held_kept stepped claimed port member)
    ledger := ⟨inv.ledger.balanced.step (moved.ledger_step _), moved.sockets_open inv.ledger.sockets⟩ }

theorem Inv.claim (inv : Inv cfg this past) {i : Nat} (stepped : this.shared.step (.claim i) = some shared) :
    Inv cfg { this with shared } (past.claimed shared.slots[i]?) := by
  have moved := step_moved stepped
  have ledger : Ownership.Inv cfg.listen.port shared :=
    ⟨inv.ledger.balanced.step (moved.ledger_step _), moved.sockets_open inv.ledger.sockets⟩
  have slots : ∀ slot ∈ shared.slots, Given past slot.session.grant ∧ Fresh slot := by
    rcases stepped_slots (Shared.step_stepped stepped) with kept | ⟨_, _, ⟨⟩, _⟩ | ⟨_, _, _, ⟨⟩, _⟩
    exact fun slot member => inv.kept (kept slot member)
  have claims := Shared.step_stepped stepped
  cases claims with
  | unclaimed _ session request reason ports found claiming claims =>
      have bound := (List.getElem?_eq_some_iff.mp found).1
      have within := (inv.within.claim session.grant request.walk.kind request.walk.fixed).1
      rw [claims] at within
      have same : past.claimed (this.shared.slots.set i ⟨session, some { request with
          walk := { request.walk with stage := .leaving (.error reason) } }, false⟩)[i]? = past := by
        rw [List.getElem?_set_self bound]
        rfl
      show Inv cfg _ (past.claimed (this.shared.slots.set i _)[i]?)
      rw [same]
      exact { inv with
        slots
        within
        owned := fun port member => inv.owned port (held_kept stepped rfl port member)
        ledger }
  | claimed _ session request port ports found claiming claims =>
      have bound := (List.getElem?_eq_some_iff.mp found).1
      have given := (inv.slots _ (List.mem_of_getElem? found)).1
      have within := inv.within.claim session.grant request.walk.kind request.walk.fixed
      have noted : past.claimed (this.shared.slots.set i ⟨session, some { request with
          walk := { request.walk with stage := .binding port } }, false⟩)[i]? =
            past.under port (if request.walk.fixed.isSome then some session.grant else none) := by
        rw [List.getElem?_set_self bound]
        rfl
      show Inv cfg _ (past.claimed (this.shared.slots.set i _)[i]?)
      rw [noted]
      refine { inv with slots, within := ?_, owned := ?_, ledger }
      · rw [claims] at within
        exact within.1
      · intro other member
        by_cases same : other = port
        · subst same
          cases fixed : request.walk.fixed with
          | some number =>
              rw [fixed] at claims
              exact owned_by_number (Session.claim_granted (congrArg Prod.fst claims)) given
          | none =>
              apply owned_dynamic
              exact within.2 other (congrArg Prod.fst claims) fixed
        · rcases held_claimed stepped rfl other member with equal | member
          · exact absurd equal same
          · exact (inv.owned other member).under same _

theorem Inv.regrant (inv : Inv cfg this past) {i : Nat}
    (stepped : this.shared.step (.regrant i this.policy) = some shared) : Inv cfg { this with shared } past := by
  apply inv.other stepped (by rintro _ ⟨⟩)
  rcases stepped_slots (Shared.step_stepped stepped) with
    kept | ⟨_, _, ⟨⟩, _⟩ | ⟨_, _, session, same, found, slots⟩
  · exact fun slot member => inv.kept (kept slot member)
  · obtain ⟨rfl, rfl⟩ := Shared.Event.regrant.inj same
    intro slot member
    rw [slots] at member
    rcases List.mem_or_eq_of_mem_set member with member | rfl
    · exact inv.slots slot member
    · exact ⟨regrant_given inv.inForce (inv.slots _ (List.mem_of_getElem? found)).1, fresh_none _ _⟩

theorem Inv.welcome (inv : Inv cfg this past) {place : Nat} {key : PublicKey} {grant : Grant}
    (greeted : this.greeted[place]? = some (key, grant))
    (stepped : this.shared.step (.welcome key grant) = some shared) :
    Inv cfg { this with shared, greeted := this.greeted.eraseIdx place } past := by
  have given := inv.greeted _ (List.mem_of_getElem? greeted)
  have slots : ∀ slot ∈ shared.slots, Given past slot.session.grant ∧ Fresh slot := by
    obtain rfl := Option.some.inj stepped
    intro slot member
    rcases List.mem_append.mp member with member | member
    · exact inv.slots slot member
    · obtain rfl := List.mem_singleton.mp member
      exact ⟨given, fresh_none _ _⟩
  exact { inv.other stepped (by rintro _ ⟨⟩) slots with
    greeted := fun client member => inv.greeted client (List.mem_of_mem_eraseIdx member) }

theorem Inv.session (inv : Inv cfg this past) (stepped : this.shared.step event = some shared)
    (welcome : ∀ key grant, event ≠ .welcome key grant) (regrant : ∀ i policy, event ≠ .regrant i policy)
    (claim : ∀ i, event ≠ .claim i) : Inv cfg { this with shared } past := by
  apply inv.other stepped claim
  rcases stepped_slots (Shared.step_stepped stepped) with kept | ⟨key, grant, same, -⟩ | ⟨i, policy, _, same, -⟩
  · exact fun slot member => inv.kept (kept slot member)
  · exact absurd same (welcome key grant)
  · exact absurd same (regrant i policy)

variable [Ipv6Net]

theorem Inv.step (inv : Inv cfg this past) {event : Running.Event} {next : Running}
    (stepped : this.step event = some next) : Inv cfg next (past.note this event next) := by
  cases event with
  | reload new =>
      simp only [Running.step] at stepped
      split at stepped
      · rename_i policy reloads
        obtain rfl := Option.some.inj stepped
        rw [inv.started] at reloads
        exact inv.reload fun _ _ found => reloaded_fits reloads found
      · obtain rfl := Option.some.inj stepped
        exact inv.reload fun key grant found => inv.fits grant ⟨_, inv.inForce, key, found⟩
  | lookup key =>
      obtain ⟨grant, found, stepped⟩ := Option.bind_eq_some_iff.mp stepped
      obtain rfl := Option.some.inj stepped
      refine { inv with greeted := ?_ }
      intro client member
      rcases List.mem_cons.mp member with rfl | member
      · exact ⟨_, inv.inForce, key, found⟩
      · exact inv.greeted client member
  | welcome place =>
      obtain ⟨⟨key, grant⟩, greeted, stepped⟩ := Option.bind_eq_some_iff.mp stepped
      obtain ⟨shared, welcomed, stepped⟩ := Option.bind_eq_some_iff.mp stepped
      obtain rfl := Option.some.inj stepped
      exact inv.welcome greeted welcomed
  | regrant slot =>
      obtain ⟨shared, regranted, stepped⟩ := Option.bind_eq_some_iff.mp stepped
      obtain rfl := Option.some.inj stepped
      exact inv.regrant regranted
  | session event =>
      cases event with
      | welcome | regrant => cases stepped
      | claim i =>
          obtain ⟨shared, claimed, stepped⟩ := Option.bind_eq_some_iff.mp stepped
          obtain rfl := Option.some.inj stepped
          exact inv.claim claimed
      | _ =>
          obtain ⟨shared, claimed, stepped⟩ := Option.bind_eq_some_iff.mp stepped
          obtain rfl := Option.some.inj stepped
          exact inv.session claimed (by rintro _ _ ⟨⟩) (by rintro _ _ ⟨⟩) (by rintro _ ⟨⟩)

def runningNoted (cfg : ServerConfig) : System (Running × Past) Running.Event :=
  (running cfg).history (.start cfg) Past.note

theorem reachable_inv (accepted : cfg.validate = .ok ()) {noted : Running × Past}
    (reachable : (runningNoted cfg).Reachable noted) : Inv cfg noted.1 noted.2 := by
  apply reachable.invariant fun noted => Inv cfg noted.1 noted.2
  · rintro ⟨this, past⟩ ⟨rfl, rfl⟩
    exact start_inv accepted
  · rintro ⟨this, past⟩ event ⟨next, past'⟩ _ inv ⟨stepped, noted⟩
    obtain rfl : past' = past.note this event next := noted
    exact inv.step stepped

theorem pool_takes_no_granted_port (cfg : ServerConfig) (accepted : cfg.validate = .ok ()) (this : Running)
    (past : Past) (reachable : (runningNoted cfg).Reachable (this, past)) :
    (this.policy ∈ past.policies ∧ ∀ slot ∈ this.shared.slots, Given past slot.session.grant) ∧
    (∀ kind port ports, this.shared.ports.claimDynamic kind = (some port, ports) →
      ∀ grant, Given past grant → ∀ range ∈ grant.ports, names port.number range = false) ∧
    (∀ port, port ∈ this.shared.claimed ∨ port ∈ this.shared.sockets → port.number ≠ cfg.listen.port) ∧
    ∀ (i : Nat) (session : Session) (request : Request) (number : UInt16),
      this.shared.slots[i]? = some ⟨session, some request, false⟩ →
      request.walk.stage = .claiming → request.walk.fixed = some number →
      session.grant.allows ⟨number, request.walk.kind⟩ = true →
      (this.shared.ports.claim ⟨number, request.walk.kind⟩).1 = .error .inUse →
      (∃ grant, past.byNumber ⟨number, request.walk.kind⟩ = some grant ∧
        grant.allows ⟨number, request.walk.kind⟩ = true ∧ Given past grant) ∧
      ((∃ j slot, j ≠ i ∧ this.shared.slots[j]? = some slot ∧ ⟨number, request.walk.kind⟩ ∈ slotHeld slot) ∨
        ∃ service ∈ this.shared.services, service.port = ⟨number, request.walk.kind⟩) := by
  have inv : Inv cfg this past := reachable_inv accepted reachable
  refine ⟨⟨inv.inForce, fun slot member => (inv.slots slot member).1⟩, ?_, ?_, ?_⟩
  · intro kind port ports claims grant given
    have walked := (inv.within.walk kind this.shared.ports.span.len).2 port
    rw [PortAllocator.claimDynamic] at claims
    rw [claims] at walked
    exact (inv.fits grant given).outside (walked rfl)
  · rintro port (claimed | socket)
    · exact inv.unlistened claimed
    · exact inv.unlistened (inv.claimed_of_socket socket)
  · intro i session request number found claiming fixed allows refused
    have given := (inv.slots _ (List.mem_of_getElem? found)).1
    have used : (⟨number, request.walk.kind⟩ : Port) ∈ this.shared.ports.inUse := by
      unfold PortAllocator.claim at refused
      split_ifs at refused with used
      exact used
    obtain ⟨member, under⟩ := inv.held_of_granted given allows used
    exact ⟨under, inv.held_by_other found claiming (fixed ▸ rfl) member⟩

end Runs

section Example
attribute [local instance] Reload.ipv6Net
attribute [local instance] ipnet

def nasConfig : ServerConfig := { default with
  clients := (∅ : Std.ExtTreeMap String ClientPolicy).insert "nas"
    ⟨Vector.replicate 32 7, [⟨80, 90, .tcp⟩], none, []⟩ }

def nasEvents : List Running.Event :=
  [.lookup (Vector.replicate 32 7), .welcome 0, .session (.bind 0 "web" .tcp (some 80) [] false),
    .session (.claim 0)]

theorem pool_takes_no_granted_port_nas : ∃ this, (running nasConfig).Reachable this ∧
    this.shared.claimed = {⟨80, .tcp⟩} ∧
    ∀ kind port ports, this.shared.ports.claimDynamic kind = (some port, ports) →
      names port.number ⟨80, 90, .tcp⟩ = false := by
  have ran : (System.run Running.step (.start nasConfig) nasEvents).map (·.shared.claimed) = some {⟨80, .tcp⟩} := by
    decide +kernel
  have kept : (System.run Running.step (.start nasConfig) nasEvents).map
      (·.policy.lookup (Vector.replicate 32 7)) = some (some ⟨"nas", [⟨80, 90, .tcp⟩], .v6 0, []⟩) := by
    decide +kernel
  obtain ⟨this, reached, claimed⟩ := Option.map_eq_some_iff.mp ran
  rw [reached] at kept
  have reachable : (running nasConfig).Reachable this :=
    System.Reachable.run (fun _ _ _ stepped => stepped) (.initial rfl) nasEvents reached
  obtain ⟨past, noted⟩ := reachable.exists_history (.start nasConfig) Past.note
  obtain ⟨⟨inForce, -⟩, dynamic, -⟩ :=
    pool_takes_no_granted_port nasConfig (by decide +kernel) this past noted
  refine ⟨this, reachable, claimed, ?_⟩
  intro kind port ports claims
  exact dynamic kind port ports claims _ ⟨_, inForce, _, Option.some.inj kept⟩ _ List.mem_cons_self

end Example
end Hawse.Proof.Pool
