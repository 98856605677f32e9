import Hawse.Proof.Server.Keys

namespace Hawse.Proof.Bind
open Lib Hawse.Server Ownership

section Watch

/-- A `bind` that is under way: the state it began in, the message it answers, and what its `open`
has done since. `returned` is what services the session had unbound before have given back. -/
structure Watch where
  since : Shared
  service : String
  kind : Kind
  port : Option UInt16
  allow : List IpNet
  proxyProtocol : Bool
  iterations : Nat
  steps : Nat
  tried : List Port
  returned : Multiset Port

def binding (s : Shared) (i : Nat) : Option Port :=
  match s.slots[i]? with
  | some ⟨_, some request, _⟩ =>
      match request.walk.stage with
      | .binding port => some port
      | _ => none
  | _ => none

def Watch.claim (watch : Watch) (port : Option Port) : Watch :=
  { watch with
    iterations := watch.iterations + 1, steps := watch.steps + 1, tried := watch.tried ++ port.toList }

def Watch.walk (watch : Watch) : Watch := { watch with steps := watch.steps + 1 }

def Watch.give (watch : Watch) (given : Multiset Port) : Watch :=
  { watch with returned := given + watch.returned }

def note (i : Nat) (past : Option Watch) (s : Shared) (event : Shared.Event) (next : Shared) : Option Watch :=
  match event with
  | .bind j service kind port allow proxyProtocol =>
      if j = i then some ⟨s, service, kind, port, allow, proxyProtocol, 0, 0, [], 0⟩ else past
  | .claim j => if j = i then past.map (·.claim (binding next i)) else past
  | .host j _ => if j = i then past.map (·.walk) else past
  | .releaseRefused j => if j = i then past.map (·.walk) else past
  | .release k =>
      match s.services[k]? with
      | some service => if service.slot = i then past.map (·.give {service.port}) else past
      | none => past
  | _ => past

def watched [Ipnet] (span : PortSpan) (number : UInt16) (i : Nat) :
    System (Shared × Option Watch) Shared.Event :=
  (sessions span number).history none (note i)

end Watch

section Owned
variable {s next : Shared} {i j : Nat}

def serviceOwned (i : Nat) (service : Service) : Multiset Port :=
  if service.slot = i then {service.port} else 0

def owned (s : Shared) (i : Nat) : Multiset Port := (s.services.map (serviceOwned i)).sum

/-- What a session has of the allocator: the ports of its services, those it has unbound included
until they are given back, and those its `open` has claimed. -/
def heldBy (s : Shared) (i : Nat) : Multiset Port :=
  owned s i + (s.slots[i]?.map slotHeld).getD 0

theorem heldBy_le_held (s : Shared) (i : Nat) : heldBy s i ≤ held s := by
  apply add_le_add
  · apply List.sum_le_sum
    intro service _
    unfold serviceOwned
    split_ifs
    · exact le_rfl
    · exact Multiset.zero_le _
  · cases found : s.slots[i]? with
    | none => exact Multiset.zero_le _
    | some slot => exact List.single_le_sum (by simp) _ (List.mem_map_of_mem (List.mem_of_getElem? found))

theorem inUse_of_heldBy {number : UInt16} (inv : Inv number s) {port : Port} (holds : port ∈ heldBy s i) :
    port ∈ s.ports.inUse := by
  have inUse : s.ports.inUse = (reserved number + held s).toFinset := inv.balanced.inUse
  rw [inUse, Multiset.mem_toFinset]
  exact Multiset.mem_add.mpr (.inr (Multiset.mem_of_le (heldBy_le_held s i) holds))

theorem owned_updateService {old new : Service} (found : s.services[j]? = some old) (slot : new.slot = old.slot)
    (port : new.port = old.port) : owned (s.updateService j new) i = owned s i := by
  have moved := sum_map_set (f := serviceOwned i) found new
  have same : serviceOwned i new = serviceOwned i old := by simp [serviceOwned, slot, port]
  rw [same] at moved
  exact add_right_cancel moved

theorem owned_settle (session : Session) : owned (s.settle j session) i = owned s i := by
  unfold owned Shared.settle
  rw [List.map_map]
  congr 1
  apply List.map_congr_left
  intro service _
  simp only [Function.comp]
  split_ifs <;> rfl

theorem claimed_fresh {number : UInt16} {session : Session} {request : Request} {port : Port}
    {ports : PortAllocator} (inv : Inv number s) (found : s.slots[i]? = some ⟨session, some request, false⟩)
    (claims : Session.claim session.grant request.walk.kind request.walk.fixed s.ports = (.ok port, ports)) :
    port ∉ request.walk.refused := by
  have free : port ∉ s.ports.inUse := by
    rcases session_claim_inUse session.grant request.walk.kind request.walk.fixed s.ports with
      ⟨other, next, claims', free, -⟩ | ⟨reason, next, claims', -⟩
    · obtain ⟨rfl, -⟩ : port = other ∧ ports = next := by simpa using claims.symm.trans claims'
      exact free
    · cases claims.symm.trans claims'
  -- What the host refused is in use until the walk is over.
  intro refused
  apply free
  have holds : port ∈ heldBy s i := by
    unfold heldBy
    rw [found]
    exact Multiset.mem_add.mpr (.inr (Multiset.mem_add.mpr (.inl (Multiset.mem_coe.mpr refused))))
  exact inUse_of_heldBy inv holds

theorem heldBy_idle {slot : Slot} (stored : s.slots[i]? = some slot) (idle : slot.opening = none) :
    heldBy s i = owned s i := by
  unfold heldBy
  rw [stored]
  simp [slotHeld, idle]

end Owned

section Walk
variable {span : PortSpan} {watch : Watch} {walk : Walk}

/-- What the walk of the pool has come to. While it goes on, what it tried is what it holds. -/
def Watch.Reached (watch : Watch) (walk : Walk) : Prop :=
  match walk.stage with
  | .claiming => watch.tried = walk.refused ∧ watch.iterations = watch.tried.length ∧
      watch.steps = 2 * watch.tried.length ∧ (walk.fixed.isSome → watch.tried = [])
  | .binding port => watch.tried = walk.refused ++ [port] ∧ watch.iterations = watch.tried.length ∧
      watch.steps + 1 = 2 * watch.tried.length
  | .leaving _ => watch.iterations ≤ watch.tried.length + 1 ∧
      watch.steps + walk.refused.length ≤ 3 * watch.tried.length + 1

structure Walked (span : PortSpan) (watch : Watch) (walk : Walk) : Prop where
  kind : walk.kind = watch.kind
  fixed : walk.fixed = watch.port
  nodup : watch.tried.Nodup
  placed : walk.fixed = none → ∀ port ∈ watch.tried, port.kind = walk.kind ∧ Within span port.number
  once : walk.fixed.isSome → watch.tried.length ≤ 1
  reached : watch.Reached walk

theorem Walked.start (span : PortSpan) (s : Shared) (service : String) (kind : Kind) (port : Option UInt16)
    (allow : List IpNet) (proxyProtocol : Bool) :
    Walked span ⟨s, service, kind, port, allow, proxyProtocol, 0, 0, [], 0⟩ (.start kind port) := by
  constructor <;> simp [Walk.start, Watch.Reached]

theorem Walked.give (walked : Walked span watch walk) (given : Multiset Port) :
    Walked span (watch.give given) walk :=
  ⟨walked.kind, walked.fixed, walked.nodup, walked.placed, walked.once, walked.reached⟩

theorem Walked.claimed (walked : Walked span watch walk) (claiming : walk.stage = .claiming) {port : Port}
    (fresh : port ∉ walk.refused) (placed : walk.fixed = none → port.kind = walk.kind ∧ Within span port.number) :
    Walked span (watch.claim (some port)) { walk with stage := .binding port } := by
  have reached := walked.reached
  simp only [Watch.Reached, claiming] at reached
  obtain ⟨tried, iterations, steps, first⟩ := reached
  refine ⟨walked.kind, walked.fixed, ?_, ?_, ?_, ?_⟩
  · show (watch.tried ++ [port]).Nodup
    rw [tried, ← List.concat_eq_append, List.nodup_concat, ← tried]
    exact ⟨tried ▸ fresh, walked.nodup⟩
  · intro dynamic other member
    rcases List.mem_append.mp member with member | member
    · exact walked.placed dynamic other member
    · rw [Option.toList_some, List.mem_singleton] at member
      exact member ▸ placed dynamic
  · intro fixed
    simp [Watch.claim, first fixed]
  · simp only [Watch.Reached, Watch.claim, Option.toList_some, List.length_append, List.length_singleton]
    refine ⟨by rw [tried], ?_, ?_⟩
    · rw [iterations]
    · omega

theorem Walked.unclaimed (walked : Walked span watch walk) (claiming : walk.stage = .claiming)
    (reason : BindFailure) :
    Walked span (watch.claim none) { walk with stage := .leaving (.error reason) } := by
  have reached := walked.reached
  simp only [Watch.Reached, claiming] at reached
  obtain ⟨tried, iterations, steps, -⟩ := reached
  have same : (watch.claim none).tried = watch.tried := List.append_nil _
  refine ⟨walked.kind, walked.fixed, ?_, ?_, ?_, ?_⟩
  · rw [same]
    exact walked.nodup
  · rw [same]
    exact walked.placed
  · rw [same]
    exact walked.once
  · simp only [Watch.Reached, same, ← tried]
    simp only [Watch.claim]
    omega

theorem Walked.accepted (walked : Walked span watch walk) {port : Port} (binding : walk.stage = .binding port) :
    Walked span watch.walk { walk with stage := .leaving (.ok port) } := by
  have reached := walked.reached
  simp only [Watch.Reached, binding] at reached
  obtain ⟨tried, iterations, steps⟩ := reached
  have length := congrArg List.length tried
  refine ⟨walked.kind, walked.fixed, walked.nodup, walked.placed, walked.once, ?_⟩
  simp only [Watch.Reached, Watch.walk, List.length_append, List.length_singleton] at length ⊢
  omega

theorem Walked.refused (walked : Walked span watch walk) {port : Port} (binding : walk.stage = .binding port) :
    Walked span watch.walk { walk with
      refused := walk.refused ++ [port]
      stage := if walk.fixed.isSome then .leaving (.error .inUse) else .claiming } := by
  have reached := walked.reached
  simp only [Watch.Reached, binding] at reached
  obtain ⟨tried, iterations, steps⟩ := reached
  have length := congrArg List.length tried
  refine ⟨walked.kind, walked.fixed, walked.nodup, walked.placed, walked.once, ?_⟩
  simp only [Watch.Reached, Watch.walk, List.length_append, List.length_singleton] at length ⊢
  split_ifs with fixed
  · dsimp only
    omega
  · refine ⟨tried, iterations, steps, ?_⟩
    exact fun absurd => (fixed absurd).elim

theorem Walked.release (walked : Walked span watch walk) {outcome : Except BindFailure Port} {port : Port}
    {refused : List Port} (leaving : walk.stage = .leaving outcome) (some_left : walk.refused = port :: refused) :
    Walked span watch.walk { walk with refused } := by
  have reached := walked.reached
  simp only [Watch.Reached, leaving, some_left, List.length_cons] at reached
  refine ⟨walked.kind, walked.fixed, walked.nodup, walked.placed, walked.once, ?_⟩
  simp only [Watch.Reached, Watch.walk, leaving]
  omega

end Walk

section Invariant
variable [Ipnet] {span : PortSpan} {s next : Shared} {i : Nat} {past : Option Watch}

structure Watching (span : PortSpan) (i : Nat) (s : Shared) (watch : Watch) (session : Session)
    (request : Request) : Prop where
  since : watch.since.slots[i]? = some ⟨session, none, false⟩
  checked : session.check watch.service watch.allow = .ok (request.allow, request.id)
  service : request.service = watch.service
  port : request.port = watch.port
  proxyProtocol : request.proxyProtocol = watch.proxyProtocol
  keyed : ∀ id, Keyed s i id ↔ Keyed watch.since i id
  owned : owned watch.since i = owned s i + watch.returned
  walked : Walked span watch request.walk

def Watches (span : PortSpan) (i : Nat) (s : Shared) (past : Option Watch) : Prop :=
  ∀ slot request, s.slots[i]? = some slot → slot.opening = some request →
    slot.ended = false ∧ ∃ watch, past = some watch ∧ Watching span i s watch slot.session request

theorem Watches.aside (watches : Watches span i s past) (given : Multiset Port)
    (aside : ∀ slot request, next.slots[i]? = some slot → slot.opening = some request →
      s.slots[i]? = some slot ∧ (∀ id, Keyed next i id ↔ Keyed s i id) ∧ owned s i = owned next i + given) :
    Watches span i next (past.map (·.give given)) := by
  intro slot request stored opening
  obtain ⟨was, keyed, owned⟩ := aside slot request stored opening
  obtain ⟨running, watch, rfl, watching⟩ := watches slot request was opening
  refine ⟨running, _, rfl, watching.since, watching.checked, watching.service, watching.port, watching.proxyProtocol,
    ?_, ?_, watching.walked.give given⟩
  · intro id
    rw [keyed]
    exact watching.keyed id
  · show _ = _ + (given + watch.returned)
    rw [← add_assoc, ← owned]
    exact watching.owned

theorem Watches.quiet (watches : Watches span i s past)
    (aside : ∀ slot request, next.slots[i]? = some slot → slot.opening = some request →
      s.slots[i]? = some slot ∧ (∀ id, Keyed next i id ↔ Keyed s i id) ∧ owned s i = owned next i) :
    Watches span i next past := by
  have kept : Watches span i next (past.map (·.give 0)) := watches.aside 0 (by simpa using aside)
  have same : past.map (·.give 0) = past := by
    cases past with
    | none => rfl
    | some watch => simp [Watch.give]
  rwa [same] at kept

theorem Watches.walk (watches : Watches span i s past) {session : Session} {request : Request}
    (found : s.slots[i]? = some ⟨session, some request, false⟩) {walk : Walk}
    (slots : next.slots = s.slots.set i ⟨session, some { request with walk }, false⟩)
    (services : next.services = s.services) {go : Watch → Watch}
    (kept : ∀ watch, ∃ iterations steps tried, go watch = { watch with iterations, steps, tried })
    (walks : ∀ watch, Walked span watch request.walk → Walked span (go watch) walk) :
    Watches span i next (past.map go) := by
  obtain ⟨-, watch, rfl, watching⟩ := watches _ request found rfl
  have bound := (List.getElem?_eq_some_iff.mp found).1
  intro slot other stored opening
  rw [slots, List.getElem?_set_self bound] at stored
  obtain rfl := Option.some.inj stored
  obtain rfl := Option.some.inj opening
  have walked := walks watch watching.walked
  obtain ⟨iterations, steps, tried, same⟩ := kept watch
  refine ⟨rfl, _, rfl, ?_⟩
  rw [same] at walked ⊢
  refine ⟨watching.since, watching.checked, watching.service, watching.port, watching.proxyProtocol, ?_, ?_,
    walked⟩
  · intro id
    unfold Keyed
    rw [services]
    exact watching.keyed id
  · show owned watch.since i = (next.services.map (serviceOwned i)).sum + watch.returned
    rw [services]
    exact watching.owned

theorem Watches.elsewhere (watches : Watches span i s past) {j : Nat} (other : j ≠ i) {slot : Slot}
    (slots : next.slots = s.slots.set j slot) (services : next.services = s.services) :
    Watches span i next past := by
  apply watches.quiet
  intro found request stored _
  rw [slots, List.getElem?_set_ne other] at stored
  refine ⟨stored, ?_, ?_⟩
  · intro id
    unfold Keyed
    rw [services]
  · show _ = (next.services.map (serviceOwned i)).sum
    rw [services]
    rfl

theorem Watches.walks (watches : Watches span i s past) {j : Nat} {session : Session} {request : Request}
    (found : s.slots[j]? = some ⟨session, some request, false⟩) {walk : Walk}
    (slots : next.slots = s.slots.set j ⟨session, some { request with walk }, false⟩)
    (services : next.services = s.services) {go : Watch → Watch}
    (kept : ∀ watch, ∃ iterations steps tried, go watch = { watch with iterations, steps, tried })
    (walks : j = i → ∀ watch, Walked span watch request.walk → Walked span (go watch) walk) :
    Watches span i next (if j = i then past.map go else past) := by
  split_ifs with same
  · subst same
    exact watches.walk found slots services kept (walks rfl)
  · exact watches.elsewhere same slots services

theorem Watches.settle (watches : Watches span i s past) {j : Nat} {slot : Slot}
    (found : s.slots[j]? = some slot) (session : Session) (ended : Bool) :
    Watches span i ((s.update j ⟨session, none, ended⟩).settle j session) past := by
  have bound := (List.getElem?_eq_some_iff.mp found).1
  apply watches.quiet
  intro slot request stored opening
  have stored : (s.slots.set j ⟨session, none, ended⟩)[i]? = some slot := stored
  rw [List.getElem?_set] at stored
  split_ifs at stored with same
  · obtain rfl := Option.some.inj stored
    cases opening
  · refine ⟨stored, ?_, ?_⟩
    · intro id
      rw [keyed_settle]
      exact and_iff_left fun equal => absurd equal.symm same
    · rw [owned_settle]
      rfl

theorem Watches.updateService (watches : Watches span i s past) {k : Nat} {old new : Service}
    (found : s.services[k]? = some old) (slots : next.slots = s.slots)
    (services : next.services = s.services.set k new) (slot : new.slot = old.slot) (id : new.id = old.id)
    (registered : new.registered = old.registered) (port : new.port = old.port) : Watches span i next past := by
  apply watches.quiet
  intro stored request at' _
  refine ⟨slots ▸ at', ?_, ?_⟩
  · exact keyed_set found services slot id registered i
  · have same : owned next i = owned (s.updateService k new) i := by
      unfold owned
      rw [services]
      rfl
    rw [same, owned_updateService found slot port]

theorem Watches.bound (watches : Watches span i s past) {j : Nat} (service : Service) (mine : service.slot = j)
    {old : Slot} (found : s.slots[j]? = some old) (session : Session)
    (slots : next.slots = s.slots.set j ⟨session, none, false⟩) (services : next.services = service :: s.services) :
    Watches span i next past := by
  have bound := (List.getElem?_eq_some_iff.mp found).1
  apply watches.quiet
  intro slot request stored opening
  rw [slots, List.getElem?_set] at stored
  split_ifs at stored with same
  · obtain rfl := Option.some.inj stored
    cases opening
  · refine ⟨stored, ?_, ?_⟩
    · intro id
      rw [keyed_cons services]
      simp [mine, same]
    · have others : owned next i = serviceOwned i service + owned s i := by
        unfold owned
        rw [services, List.map_cons, List.sum_cons]
      rw [others, serviceOwned, if_neg (mine ▸ same), zero_add]

theorem step_watches {number : UInt16} {event : Shared.Event} (reachable : (sessions span number).Reachable s)
    (watches : Watches span i s past) (stepped : s.step event = some next) :
    Watches span i next (note i past s event next) := by
  obtain ⟨spans, tidy⟩ := reachable_tidy reachable
  cases Shared.step_stepped stepped with
  | welcome key grant =>
      apply watches.quiet
      intro slot request stored opening
      rcases welcome_slot stored with stored | ⟨-, rfl⟩
      · exact ⟨stored, fun _ => Iff.rfl, rfl⟩
      · cases opening
  | bind j service kind port allow proxyProtocol session admitted id found checked =>
      by_cases same : j = i
      · subst same
        have bound := (List.getElem?_eq_some_iff.mp found).1
        intro slot request stored opening
        have stored : (s.slots.set j _)[j]? = some slot := stored
        rw [List.getElem?_set_self bound] at stored
        obtain rfl := Option.some.inj stored
        obtain rfl := Option.some.inj opening
        refine ⟨rfl, _, if_pos rfl, found, checked, rfl, rfl, rfl, fun _ => Iff.rfl, (add_zero _).symm, ?_⟩
        exact Walked.start span s service kind port allow proxyProtocol
      · simp only [note, if_neg same]
        exact watches.elsewhere same rfl rfl
  | claimed j session request port ports found claiming claims =>
      have bound := (List.getElem?_eq_some_iff.mp found).1
      have claims' := (spans.claim claims).2 port rfl
      have fresh : port ∉ request.walk.refused := claimed_fresh (reachable_inv reachable) found claims
      refine watches.walks found (by rfl) (by rfl) (fun _ => ⟨_, _, _, rfl⟩) ?_
      rintro rfl watch walked
      have asks : binding { s.update j ⟨session, some { request with
          walk := { request.walk with stage := .binding port } }, false⟩ with
            ports, claimed := port ::ₘ s.claimed } j = some port := by
        simp [binding, Shared.update, bound]
      rw [asks]
      exact walked.claimed claiming fresh fun dynamic => ⟨claims'.1, claims'.2 dynamic⟩
  | unclaimed j session request reason ports found claiming claims =>
      have bound := (List.getElem?_eq_some_iff.mp found).1
      refine watches.walks found (by rfl) (by rfl) (fun _ => ⟨_, _, _, rfl⟩) ?_
      rintro rfl watch walked
      have asks : binding { s.update j ⟨session, some { request with
          walk := { request.walk with stage := .leaving (.error reason) } }, false⟩ with ports } j = none := by
        simp [binding, Shared.update, bound]
      rw [asks]
      exact walked.unclaimed claiming reason
  | accepted j session request port found binding =>
      refine watches.walks found (by rfl) (by rfl) (fun _ => ⟨_, _, _, rfl⟩) ?_
      intro _ watch walked
      exact walked.accepted binding
  | refused j session request port found binding =>
      refine watches.walks found (by rfl) (by rfl) (fun _ => ⟨_, _, _, rfl⟩) ?_
      intro _ watch walked
      exact walked.refused binding
  | releaseRefused j session request outcome port refused found leaving some_left =>
      refine watches.walks found (by rfl) (by rfl) (fun _ => ⟨_, _, _, rfl⟩) ?_
      intro _ watch walked
      exact walked.release leaving some_left
  | failed j session request reason found leaving none_left =>
      by_cases same : j = i
      · subst same
        have bound := (List.getElem?_eq_some_iff.mp found).1
        intro slot other stored opening
        have stored : (s.slots.set j _)[j]? = some slot := stored
        rw [List.getElem?_set_self bound] at stored
        obtain rfl := Option.some.inj stored
        cases opening
      · exact watches.elsewhere same rfl rfl
  | bound j session request port found leaving none_left =>
      exact watches.bound _ rfl found _ rfl rfl
  | unbind j service session found => exact watches.settle found _ false
  | regrant j policy session found => exact watches.settle found _ false
  | leave j session found => exact watches.settle found _ true
  | stopped k service found => exact watches.updateService found rfl rfl rfl rfl rfl rfl
  | lend k service found => exact watches.updateService found rfl rfl rfl rfl rfl rfl
  | giveBack k service found => exact watches.updateService found rfl rfl rfl rfl rfl rfl
  | close k service found idle => exact watches.updateService found rfl rfl rfl rfl rfl rfl
  | release k service found closed =>
      have unregistered := tidy.closed service (List.mem_of_getElem? found) closed
      have ports := sum_map_eraseIdx (f := serviceOwned i) found
      have aside : ∀ slot request, s.slots[i]? = some slot → slot.opening = some request →
          s.slots[i]? = some slot ∧ (∀ id, Keyed ({ s with services := s.services.eraseIdx k }.giveBack service.port) i id ↔
            Keyed s i id) ∧ owned s i = owned ({ s with services := s.services.eraseIdx k }.giveBack service.port) i +
              serviceOwned i service := fun slot request stored _ =>
        ⟨stored, keyed_eraseIdx found unregistered rfl i, ports.symm⟩
      simp only [note, found]
      unfold serviceOwned at aside
      split_ifs with mine
      · simp only [if_pos mine] at aside
        exact watches.aside {service.port} aside
      · simp only [if_neg mine, add_zero] at aside
        exact watches.quiet aside

theorem reachable_watches {number : UInt16} (reachable : (watched span number i).Reachable (s, past)) :
    Watches span i s past := by
  have inv : ∀ noted : Shared × Option Watch, (watched span number i).Reachable noted →
      Watches span i noted.1 noted.2 := by
    intro noted reachable
    apply reachable.invariant fun noted => Watches span i noted.1 noted.2
    · rintro ⟨_, _⟩ ⟨rfl, rfl⟩ slot request stored
      simp [Shared.new] at stored
    · rintro ⟨before, past⟩ event ⟨after, past'⟩ reached watches ⟨stepped, noted⟩
      have noted : past' = note i past before event after := noted
      subst noted
      exact step_watches reached.of_history watches stepped
  exact inv (s, past) reachable

end Invariant

section Answer

/-- A `bind` that opened nothing left the session as it was, but for the ports its stopped services
gave back while it went on. One that did added the service it was for, and nothing else. -/
inductive Answer (i : Nat) (watch : Watch) (session : Session) (next : Shared) : ServerMessage × Session → Prop
  | failed (reason : BindFailure) (stored : next.slots[i]? = some ⟨session, none, false⟩)
      (keyed : ∀ id, Keyed next i id ↔ Keyed watch.since i id)
      (held : heldBy watch.since i = heldBy next i + watch.returned) :
      Answer i watch session next (.bindFailed watch.service reason, session)
  | bound (id : UInt16) (port : Port) (bound : BoundService) (session' : Session)
      (stored : next.slots[i]? = some ⟨session', none, false⟩) (grant : session'.grant = session.grant)
      (kind : port.kind = watch.kind)
      (free : session.services[watch.service]? = none) (service : session'.services[watch.service]? = some bound)
      (numbered : bound.id = id) (opened : bound.port = port)
      (others : ∀ other, other ≠ watch.service → session'.services[other]? = session.services[other]?)
      (fresh : Session.nextId session.lastId = some id) (lastId : session'.lastId = id)
      (keyed : ∀ key, Keyed next i key ↔ Keyed watch.since i key ∨ (watch.kind = .udp ∧ key = id))
      (held : heldBy watch.since i + {port} = heldBy next i + watch.returned) :
      Answer i watch session next (.bound watch.service id port.number session.grant.bind, session')

def Own (i : Nat) (event : Shared.Event) : Prop :=
  event = .claim i ∨ (∃ accepts, event = .host i accepts) ∨ event = .releaseRefused i ∨ event = .opened i

section Bounds
variable {span : PortSpan} {watch : Watch} {walk : Walk}

theorem Walked.tried_le (walked : Walked span watch walk) : watch.tried.length ≤ span.len := by
  cases fixed : walk.fixed with
  | none => exact length_le_len walked.nodup (walked.placed fixed)
  | some number =>
      have once := walked.once (by rw [fixed]; rfl)
      exact once.trans (Nat.le_add_left 1 _)

theorem Walked.ends (walked : Walked span watch walk) :
    watch.iterations ≤ span.len + 1 ∧ watch.steps ≤ 3 * span.len + 1 := by
  have tried := walked.tried_le
  have reached := walked.reached
  unfold Watch.Reached at reached
  split at reached <;> omega

end Bounds

section Own
variable [Ipnet] {span : PortSpan} {s next : Shared} {i : Nat} {watch : Watch} {session : Session}
  {request : Request}

theorem own_enabled (found : s.slots[i]? = some ⟨session, some request, false⟩) :
    ∃ event, Own i event ∧ (s.step event).isSome := by
  cases stage : request.walk.stage with
  | claiming =>
      refine ⟨.claim i, .inl rfl, ?_⟩
      simp [Shared.step, found, stage]
  | binding port =>
      refine ⟨.host i true, .inr (.inl ⟨true, rfl⟩), ?_⟩
      simp [Shared.step, found, stage]
  | leaving outcome =>
      cases refused : request.walk.refused with
      | cons port refused =>
          refine ⟨.releaseRefused i, .inr (.inr (.inl rfl)), ?_⟩
          simp [Shared.step, found, stage, refused]
      | nil =>
          refine ⟨.opened i, .inr (.inr (.inr rfl)), ?_⟩
          cases outcome <;> simp [Shared.step, found, stage, refused]

theorem Watching.failed (watching : Watching span i s watch session request)
    (found : s.slots[i]? = some ⟨session, some request, false⟩) (reason : BindFailure) :
    Answer i watch session (s.update i ⟨session, none, false⟩)
      (session.bind watch.service watch.port watch.allow watch.proxyProtocol (.error reason)) := by
  have bound := (List.getElem?_eq_some_iff.mp found).1
  have stored : (s.update i ⟨session, none, false⟩).slots[i]? = some ⟨session, none, false⟩ :=
    List.getElem?_set_self bound
  simp only [Session.bind, watching.checked]
  refine .failed reason stored watching.keyed ?_
  rw [heldBy_idle watching.since rfl, heldBy_idle stored rfl]
  exact watching.owned

theorem Watching.bound (watching : Watching span i s watch session request) (asked : Asked session request)
    (found : s.slots[i]? = some ⟨session, some request, false⟩) {port : Port}
    (leaving : request.walk.stage = .leaving (.ok port)) {service : Service} (slot : service.slot = i)
    (id : service.id = request.id) (opened : service.port = port)
    (registered : service.registered = decide (request.walk.kind = .udp))
    (slots : next.slots = s.slots.set i ⟨(session.bound request.service port request.port.isSome request.allow
      request.id request.proxyProtocol).2, none, false⟩) (services : next.services = service :: s.services) :
    Answer i watch session next
      (session.bind watch.service watch.port watch.allow watch.proxyProtocol (.ok port)) := by
  have bound := (List.getElem?_eq_some_iff.mp found).1
  have stored : next.slots[i]? = some ⟨(session.bound watch.service port watch.port.isSome request.allow
      request.id watch.proxyProtocol).2, none, false⟩ := by
    rw [slots, List.getElem?_set_self bound, watching.service, watching.port, watching.proxyProtocol]
  have kind : port.kind = watch.kind := (asked.kind port (.inr leaving)).trans watching.walked.kind
  have inserted := bound_getElem? session watch.service port watch.port.isSome request.allow request.id
    watch.proxyProtocol
  simp only [Session.bind, watching.checked]
  refine .bound request.id port ⟨request.id, port, watch.port.isSome, session.grant.bind, request.allow,
    watch.proxyProtocol⟩ _ stored rfl kind (watching.service ▸ asked.free) ?_ rfl rfl ?_ asked.id rfl ?_ ?_
  · exact (inserted watch.service).trans (if_pos rfl)
  · intro other differs
    exact (inserted other).trans (if_neg differs)
  · intro key
    rw [keyed_cons services, slot, id, registered, watching.keyed, watching.walked.kind, decide_eq_true_eq,
      or_comm]
    simp only [true_and, eq_comm]
  · have others : Bind.owned next i = {port} + Bind.owned s i := by
      unfold Bind.owned
      rw [services, List.map_cons, List.sum_cons, serviceOwned, if_pos slot, opened]
    rw [heldBy_idle watching.since rfl, heldBy_idle stored rfl, others, watching.owned]
    abel

theorem Watching.opened (watching : Watching span i s watch session request) (asked : Asked session request)
    (found : s.slots[i]? = some ⟨session, some request, false⟩) (stepped : s.step (.opened i) = some next) :
    ∃ outcome, request.walk.stage = .leaving outcome ∧ Answer i watch session next
      (session.bind watch.service watch.port watch.allow watch.proxyProtocol outcome) := by
  cases Shared.step_stepped stepped with
  | failed _ session' request' reason found' leaving none_left =>
      obtain ⟨rfl, rfl⟩ : session = session' ∧ request = request' := by simpa using found.symm.trans found'
      exact ⟨_, leaving, watching.failed found reason⟩
  | bound _ session' request' port found' leaving none_left =>
      obtain ⟨rfl, rfl⟩ : session = session' ∧ request = request' := by simpa using found.symm.trans found'
      exact ⟨_, leaving, watching.bound asked found leaving rfl rfl rfl rfl rfl rfl⟩

end Own
end Answer

/-- A `bind` refused before it opens anything is the fourth part, and one under way the last. -/
theorem failed_bind_changes_nothing [Ipnet] (span : PortSpan) (number : UInt16) (i : Nat) (s : Shared)
    (past : Option Watch) (reachable : (watched span number i).Reachable (s, past)) :
    (∀ slot, s.slots[i]? = some slot → ∀ id, Keyed s i id ↔ Listed slot.session id) ∧
    (heldBy s i).Nodup ∧ (∀ port ∈ heldBy s i, port ∈ s.ports.inUse) ∧
    (∀ session service kind port allow proxyProtocol reply, s.slots[i]? = some ⟨session, none, false⟩ →
      session.check service allow = .error reply →
      s.step (.bind i service kind port allow proxyProtocol) = none ∧
      (∀ opened, session.bind service port allow proxyProtocol opened = (reply, session)) ∧
      ((∃ reason, reply = .bindFailed service reason) ∨ reply = .shutdown Session.usedEveryId)) ∧
    ∀ slot request, s.slots[i]? = some slot → slot.opening = some request →
      ∃ watch, past = some watch ∧ watch.since.slots[i]? = some ⟨slot.session, none, false⟩ ∧
        watch.iterations ≤ span.len + 1 ∧ watch.steps ≤ 3 * span.len + 1 ∧ watch.tried.Nodup ∧
        (∃ event, Own i event ∧ (s.step event).isSome) ∧
        ∀ next, s.step (.opened i) = some next →
          ∃ outcome, request.walk.stage = .leaving outcome ∧ Answer i watch slot.session next
            (slot.session.bind watch.service watch.port watch.allow watch.proxyProtocol outcome) := by
  have reached : (sessions span number).Reachable s := reachable.of_history
  obtain ⟨-, tidy⟩ := reachable_tidy reached
  have inv := reachable_inv reached
  have nodup : (reserved number + held s).Nodup := inv.balanced.nodup
  refine ⟨tidy.keys i, ?_, fun port => inUse_of_heldBy inv, ?_, ?_⟩
  · exact Multiset.nodup_of_le ((heldBy_le_held s i).trans (Multiset.le_add_left _ _)) nodup
  · intro session service kind port allow proxyProtocol reply found checked
    refine ⟨by simp [Shared.step, found, checked], fun opened => by simp [Session.bind, checked], ?_⟩
    rcases Session.check_error checked with failed | ⟨-, shut⟩
    · exact .inl failed
    · exact .inr shut
  · intro slot request found opening
    obtain ⟨running, watch, rfl, watching⟩ := reachable_watches reachable slot request found opening
    have found : s.slots[i]? = some ⟨slot.session, some request, false⟩ := by rw [found, ← opening, ← running]
    obtain ⟨iterations, steps⟩ := watching.walked.ends
    refine ⟨watch, rfl, watching.since, iterations, steps, watching.walked.nodup, own_enabled found, ?_⟩
    intro next stepped
    exact watching.opened (tidy.asked i _ found request rfl) found stepped

section Example
attribute [local instance] ipnet

/-- A pool of one port, which the host refuses. -/
def refusedEvents : List Shared.Event :=
  [.welcome (Vector.replicate 32 7) ⟨"nas", [], .v4 0, []⟩, .bind 0 "dns" .udp none [] false, .claim 0,
    .host 0 false, .claim 0, .releaseRefused 0]

theorem failed_bind_changes_nothing_refused :
    ∃ s watch next, (watched ⟨40000, 40000⟩ 7000 0).Reachable (s, some watch) ∧
      watch.iterations = 2 ∧ watch.tried = [⟨40000, .udp⟩] ∧ s.step (.opened 0) = some next ∧
      heldBy watch.since 0 = heldBy next 0 + watch.returned := by
  have first : (watched ⟨40000, 40000⟩ 7000 0).Reachable (.new ⟨40000, 40000⟩ 7000, none) := .initial ⟨rfl, rfl⟩
  have reachable : (watched ⟨40000, 40000⟩ 7000 0).Reachable (_, some _) :=
    System.Reachable.run (System.history_follows fun _ _ _ stepped => stepped) first refusedEvents rfl
  obtain ⟨-, -, -, -, walks⟩ := failed_bind_changes_nothing _ _ _ _ _ reachable
  obtain ⟨watch, same, -, -, -, -, -, answers⟩ := walks _ _ rfl rfl
  cases same
  obtain ⟨outcome, leaving, answer⟩ := answers _ rfl
  refine ⟨_, _, _, reachable, rfl, rfl, rfl, ?_⟩
  cases leaving
  revert answer
  generalize answered : Session.bind _ _ _ _ _ _ = result
  intro answer
  cases answer with
  | failed reason stored keyed held => exact held
  | bound => cases congrArg Prod.fst answered

end Example
end Hawse.Proof.Bind
