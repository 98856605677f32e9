import Hawse.Proof.Server.Ownership
import Hawse.Proof.Server.Session

namespace Hawse.Proof.Bind
open Lib Hawse.Server Ownership

section Keys

/-- The keys of a session's map of UDP services. -/
def Keyed (s : Shared) (i : Nat) (id : UInt16) : Prop :=
  ∃ service ∈ s.services, service.slot = i ∧ service.registered = true ∧ service.id = id

/-- The ids of the UDP services a session has bound. -/
def Listed (session : Session) (id : UInt16) : Prop :=
  ∃ (name : String) (bound : BoundService), session.services[name]? = some bound ∧ bound.id = id ∧
    bound.port.kind = .udp

structure Numbered (session : Session) : Prop where
  bounded : ∀ (name : String) (bound : BoundService), session.services[name]? = some bound →
    bound.id ≤ session.lastId
  distinct : ∀ (name other : String) (bound bound' : BoundService), session.services[name]? = some bound →
    session.services[other]? = some bound' → bound.id = bound'.id → name = other

/-- What a request has, until it is over, of the session it is for. -/
structure Asked (session : Session) (request : Request) : Prop where
  id : Session.nextId session.lastId = some request.id
  free : session.services[request.service]? = none
  kind : ∀ port, request.walk.stage = .binding port ∨ request.walk.stage = .leaving (.ok port) →
    port.kind = request.walk.kind

structure Tidy (s : Shared) : Prop where
  closed : ∀ service ∈ s.services, service.closed = true → service.registered = false
  owner : ∀ service ∈ s.services, ∃ slot, s.slots[service.slot]? = some slot ∧ service.id ≤ slot.session.lastId
  numbered : ∀ (i : Nat) (slot : Slot), s.slots[i]? = some slot → Numbered slot.session
  asked : ∀ (i : Nat) (slot : Slot), s.slots[i]? = some slot → ∀ request, slot.opening = some request →
    Asked slot.session request
  keys : ∀ (i : Nat) (slot : Slot), s.slots[i]? = some slot → ∀ id, Keyed s i id ↔ Listed slot.session id

end Keys

section Tidy
variable {s next : Shared} {i : Nat}

section Keyed

theorem keyed_set {old new : Service} (found : s.services[i]? = some old)
    (services : next.services = s.services.set i new) (slot : new.slot = old.slot) (id : new.id = old.id)
    (registered : new.registered = old.registered) (j : Nat) (key : UInt16) : Keyed next j key ↔ Keyed s j key := by
  have bound := (List.getElem?_eq_some_iff.mp found).1
  unfold Keyed
  rw [services]
  constructor
  · rintro ⟨service, member, mine, registers, same⟩
    rcases List.mem_or_eq_of_mem_set member with member | rfl
    · exact ⟨service, member, mine, registers, same⟩
    · exact ⟨old, List.mem_of_getElem? found, slot ▸ mine, registered ▸ registers, id ▸ same⟩
  · rintro ⟨service, member, mine, registers, same⟩
    obtain ⟨k, stored⟩ := List.mem_iff_getElem?.mp member
    by_cases equal : i = k
    · subst equal
      obtain rfl := Option.some.inj (found.symm.trans stored)
      exact ⟨new, List.mem_set bound new, slot.trans mine, registered.trans registers, id.trans same⟩
    · refine ⟨service, List.mem_iff_getElem?.mpr ⟨k, ?_⟩, mine, registers, same⟩
      rw [List.getElem?_set_ne equal]
      exact stored

theorem keyed_eraseIdx {old : Service} (found : s.services[i]? = some old) (unregistered : old.registered = false)
    (services : next.services = s.services.eraseIdx i) (j : Nat) (key : UInt16) :
    Keyed next j key ↔ Keyed s j key := by
  unfold Keyed
  rw [services]
  constructor
  · rintro ⟨service, member, rest⟩
    exact ⟨service, List.mem_of_mem_eraseIdx member, rest⟩
  · rintro ⟨service, member, mine, registers, same⟩
    refine ⟨service, ?_, mine, registers, same⟩
    obtain ⟨k, stored⟩ := List.mem_iff_getElem?.mp member
    rw [List.mem_eraseIdx_iff_getElem?]
    refine ⟨k, ?_, stored⟩
    rintro rfl
    obtain rfl := Option.some.inj (found.symm.trans stored)
    rw [unregistered] at registers
    cases registers

theorem keyed_cons {service : Service} (services : next.services = service :: s.services) (j : Nat)
    (id : UInt16) : Keyed next j id ↔
      (service.slot = j ∧ service.registered = true ∧ service.id = id) ∨ Keyed s j id := by
  unfold Keyed
  simp only [services, List.mem_cons, exists_eq_or_imp]

theorem any_id {session : Session} {id : UInt16} :
    session.services.toList.any (fun (_, bound) => bound.id = id) = true ↔
      ∃ (name : String) (bound : BoundService), session.services[name]? = some bound ∧ bound.id = id := by
  simp only [List.any_eq_true, Prod.exists, decide_eq_true_eq,
    Std.ExtTreeMap.mem_toList_iff_getElem?_eq_some]

theorem keyed_settle {session : Session} {j : Nat} {id : UInt16} :
    Keyed (s.settle i session) j id ↔ Keyed s j id ∧
      (j = i → ∃ (name : String) (bound : BoundService), session.services[name]? = some bound ∧ bound.id = id) := by
  unfold Keyed Shared.settle
  simp only [List.mem_map]
  constructor
  · rintro ⟨_, ⟨service, member, rfl⟩, mine, registers, same⟩
    split_ifs at mine registers same with dropped
    refine ⟨⟨service, member, mine, registers, same⟩, ?_⟩
    rintro rfl
    rw [← any_id, ← same]
    by_contra absent
    exact dropped ⟨mine, absent⟩
  · rintro ⟨⟨service, member, mine, registers, same⟩, has⟩
    refine ⟨_, ⟨service, member, rfl⟩, ?_⟩
    rw [if_neg]
    · exact ⟨mine, registers, same⟩
    · rintro ⟨equal, absent⟩
      exact absent (any_id.mpr (same ▸ has (mine.symm.trans equal)))

end Keyed

theorem tidy_new (span : PortSpan) (number : UInt16) : Tidy (.new span number) := by
  constructor <;> simp [Shared.new]

theorem Tidy.walk (tidy : Tidy s) {session : Session} {opening opening' : Option Request} {ended ended' : Bool}
    (found : s.slots[i]? = some ⟨session, opening, ended⟩)
    (slots : next.slots = s.slots.set i ⟨session, opening', ended'⟩) (services : next.services = s.services)
    (asked : ∀ request, opening' = some request → Asked session request) : Tidy next := by
  have bound := (List.getElem?_eq_some_iff.mp found).1
  -- Every slot of the next state has the session it had.
  have back {j : Nat} {slot : Slot} (stored : next.slots[j]? = some slot) :
      ∃ old, s.slots[j]? = some old ∧ slot.session = old.session ∧
        (∀ request, slot.opening = some request → Asked slot.session request) := by
    rw [slots, List.getElem?_set] at stored
    split_ifs at stored with same
    · subst same
      obtain rfl := Option.some.inj stored
      exact ⟨_, found, rfl, asked⟩
    · exact ⟨slot, stored, rfl, tidy.asked j slot stored⟩
  refine ⟨services ▸ tidy.closed, ?_, ?_, ?_, ?_⟩
  · intro service member
    rw [services] at member
    obtain ⟨slot, stored, le⟩ := tidy.owner service member
    rw [slots, List.getElem?_set]
    split_ifs with same
    · subst same
      obtain rfl := Option.some.inj (found.symm.trans stored)
      exact ⟨_, rfl, le⟩
    · exact ⟨slot, stored, le⟩
  · intro j slot stored
    obtain ⟨old, was, same, -⟩ := back stored
    exact same ▸ tidy.numbered j old was
  · intro j slot stored
    obtain ⟨old, was, same, asked⟩ := back stored
    exact asked
  · intro j slot stored id
    obtain ⟨old, was, same, -⟩ := back stored
    unfold Keyed
    rw [services, same]
    exact tidy.keys j old was id

theorem Tidy.services (tidy : Tidy s) (slots : next.slots = s.slots)
    (closed : ∀ service ∈ next.services, service.closed = true → service.registered = false)
    (back : ∀ service ∈ next.services, ∃ old ∈ s.services, service.slot = old.slot ∧ service.id = old.id)
    (keyed : ∀ j id, Keyed next j id ↔ Keyed s j id) : Tidy next := by
  refine ⟨closed, ?_, slots ▸ tidy.numbered, slots ▸ tidy.asked, ?_⟩
  · intro service member
    obtain ⟨old, was, slot, id⟩ := back service member
    rw [slots, slot, id]
    exact tidy.owner old was
  · intro j slot stored id
    rw [keyed]
    exact tidy.keys j slot (slots ▸ stored) id

theorem Tidy.updateService (tidy : Tidy s) {old new : Service} (found : s.services[i]? = some old)
    (services : next.services = s.services.set i new) (slots : next.slots = s.slots) (slot : new.slot = old.slot)
    (id : new.id = old.id) (registered : new.registered = old.registered)
    (closed : new.closed = true → new.registered = false) : Tidy next := by
  have was := List.mem_of_getElem? found
  apply tidy.services slots
  · intro service member
    rw [services] at member
    rcases List.mem_or_eq_of_mem_set member with member | rfl
    · exact tidy.closed service member
    · exact closed
  · intro service member
    rw [services] at member
    rcases List.mem_or_eq_of_mem_set member with member | rfl
    · exact ⟨service, member, rfl, rfl⟩
    · exact ⟨old, was, slot, id⟩
  · exact keyed_set found services slot id registered

theorem Tidy.release (tidy : Tidy s) {old : Service} (found : s.services[i]? = some old)
    (closed : old.closed = true) (services : next.services = s.services.eraseIdx i)
    (slots : next.slots = s.slots) : Tidy next := by
  have kept {service : Service} (member : service ∈ next.services) : service ∈ s.services :=
    List.mem_of_mem_eraseIdx (services ▸ member)
  apply tidy.services slots
  · exact fun service member => tidy.closed service (kept member)
  · exact fun service member => ⟨service, kept member, rfl, rfl⟩
  · exact keyed_eraseIdx found (tidy.closed old (List.mem_of_getElem? found) closed) services

theorem welcome_slot {slots : List Slot} {last slot : Slot} {j : Nat}
    (stored : (slots ++ [last])[j]? = some slot) :
    slots[j]? = some slot ∨ (j = slots.length ∧ slot = last) := by
  rw [List.getElem?_append] at stored
  split_ifs at stored with less
  · exact .inl stored
  · rw [List.getElem?_singleton] at stored
    split_ifs at stored with last
    exact .inr ⟨by omega, (Option.some.inj stored).symm⟩

theorem Tidy.welcome (tidy : Tidy s) (key : PublicKey) (grant : Grant) :
    Tidy { s with slots := s.slots ++ [⟨.new key grant, none, false⟩] } := by
  refine ⟨tidy.closed, ?_, ?_, ?_, ?_⟩
  · intro service member
    obtain ⟨slot, stored, le⟩ := tidy.owner service member
    exact ⟨slot, List.getElem?_append_left (List.getElem?_eq_some_iff.mp stored).1 ▸ stored, le⟩
  · intro j slot stored
    rcases welcome_slot stored with stored | ⟨-, rfl⟩
    · exact tidy.numbered j slot stored
    · constructor <;> simp [Session.new]
  · intro j slot stored
    rcases welcome_slot stored with stored | ⟨-, rfl⟩
    · exact tidy.asked j slot stored
    · rintro _ ⟨⟩
  · intro j slot stored id
    rcases welcome_slot stored with stored | ⟨rfl, rfl⟩
    · exact tidy.keys j slot stored id
    · refine iff_of_false ?_ (by simp [Listed, Session.new])
      rintro ⟨service, member, mine, -⟩
      obtain ⟨slot, stored, -⟩ := tidy.owner service member
      rw [mine] at stored
      simp at stored

section Fewer
variable {session session' : Session} (fewer : ∀ (name : String) (bound : BoundService),
  session'.services[name]? = some bound → session.services[name]? = some bound)
include fewer

theorem Numbered.of_fewer (numbered : Numbered session) (last : session'.lastId = session.lastId) :
    Numbered session' where
  bounded := by
    intro name bound held
    rw [last]
    exact numbered.bounded name bound (fewer name bound held)
  distinct := by
    intro name other bound bound' held held'
    exact numbered.distinct name other bound bound' (fewer name bound held) (fewer other bound' held')

/-- An id names one service, so the one that is left with it is the one the map had. -/
theorem Numbered.listed_fewer (numbered : Numbered session) (id : UInt16) :
    Listed session' id ↔ Listed session id ∧
      ∃ (name : String) (bound : BoundService), session'.services[name]? = some bound ∧ bound.id = id := by
  constructor
  · rintro ⟨name, bound, held, rfl, udp⟩
    exact ⟨⟨name, bound, fewer name bound held, rfl, udp⟩, name, bound, held, rfl⟩
  · rintro ⟨⟨name, bound, held, rfl, udp⟩, other, bound', held', same⟩
    obtain rfl := numbered.distinct name other bound bound' held (fewer other bound' held') same.symm
    obtain rfl := Option.some.inj (held.symm.trans (fewer name bound' held'))
    exact ⟨name, bound, held', rfl, udp⟩

end Fewer

theorem Tidy.settle (tidy : Tidy s) {session session' : Session} (ended : Bool)
    (found : s.slots[i]? = some ⟨session, none, false⟩) (last : session'.lastId = session.lastId)
    (fewer : ∀ (name : String) (bound : BoundService), session'.services[name]? = some bound →
      session.services[name]? = some bound) :
    Tidy ((s.update i ⟨session', none, ended⟩).settle i session') := by
  have bound := (List.getElem?_eq_some_iff.mp found).1
  have numbered := tidy.numbered i _ found
  have slots (j : Nat) : ((s.update i ⟨session', none, ended⟩).settle i session').slots[j]? =
      if i = j then some ⟨session', none, ended⟩ else s.slots[j]? := by
    show (s.slots.set i _)[j]? = _
    rw [List.getElem?_set]
    split_ifs <;> rfl
  refine ⟨?_, ?_, ?_, ?_, ?_⟩
  · intro service member
    obtain ⟨old, was, rfl⟩ := List.mem_map.mp member
    split_ifs
    · exact fun _ => rfl
    · exact tidy.closed old was
  · intro service member
    obtain ⟨old, was, rfl⟩ := List.mem_map.mp member
    obtain ⟨slot, stored, le⟩ := tidy.owner old was
    have same (service : Service) (mine : service.slot = old.slot) (id : service.id = old.id) :
        ∃ slot, ((s.update i ⟨session', none, ended⟩).settle i session').slots[service.slot]? = some slot ∧
          service.id ≤ slot.session.lastId := by
      rw [slots, mine, id]
      split_ifs with equal
      · rw [← equal] at stored
        obtain rfl := Option.some.inj (found.symm.trans stored)
        exact ⟨_, rfl, last ▸ le⟩
      · exact ⟨slot, stored, le⟩
    split_ifs
    · exact same _ rfl rfl
    · exact same _ rfl rfl
  · intro j slot stored
    rw [slots] at stored
    split_ifs at stored
    · obtain rfl := Option.some.inj stored
      exact numbered.of_fewer fewer last
    · exact tidy.numbered j slot stored
  · intro j slot stored
    rw [slots] at stored
    split_ifs at stored
    · obtain rfl := Option.some.inj stored
      rintro _ ⟨⟩
    · exact tidy.asked j slot stored
  · intro j slot stored id
    rw [slots] at stored
    rw [keyed_settle]
    split_ifs at stored with same
    · obtain rfl := Option.some.inj stored
      subst same
      have keys : Keyed (s.update i ⟨session', none, ended⟩) i id ↔ Listed session id :=
        tidy.keys i _ found id
      rw [keys, numbered.listed_fewer fewer id]
      exact and_congr_right fun _ => forall_prop_of_true rfl
    · rw [← tidy.keys j slot stored id]
      exact and_iff_left fun equal => absurd equal.symm same

section Bound
variable {session : Session} {request : Request} {port : Port}

theorem bound_getElem? (session : Session) (service : String) (port : Port) (fixed : Bool) (allow : AllowList)
    (id : UInt16) (proxyProtocol : Bool) (other : String) :
    (session.bound service port fixed allow id proxyProtocol).2.services[other]? =
      if other = service then some ⟨id, port, fixed, session.grant.bind, allow, proxyProtocol⟩
      else session.services[other]? := by
  simp only [Session.bound, Std.ExtTreeMap.getElem?_insert, Std.compare_eq_iff_eq]
  by_cases same : service = other
  · simp [same]
  · simp [same, Ne.symm same]

theorem Asked.numbered (asked : Asked session request) (numbered : Numbered session) (fixed : Bool)
    (allow : AllowList) (proxyProtocol : Bool) :
    Numbered (session.bound request.service port fixed allow request.id proxyProtocol).2 := by
  have fresh := Session.nextId_lt asked.id
  constructor
  · intro name bound held
    rw [bound_getElem?] at held
    split_ifs at held
    · obtain rfl := Option.some.inj held
      exact UInt16.le_refl _
    · exact UInt16.le_trans (numbered.bounded name bound held) (UInt16.le_of_lt fresh)
  · intro name other bound bound' held held' same
    have older {name : String} {bound : BoundService} (held : session.services[name]? = some bound) :
        bound.id ≠ request.id :=
      UInt16.ne_of_lt (UInt16.lt_of_le_of_lt (numbered.bounded name bound held) fresh)
    rw [bound_getElem?] at held held'
    split_ifs at held held' with first second
    · rw [first, second]
    · obtain rfl := Option.some.inj held
      exact absurd same.symm (older held')
    · obtain rfl := Option.some.inj held'
      exact absurd same (older held)
    · exact numbered.distinct name other bound bound' held held' same

theorem Asked.listed (asked : Asked session request) (fixed : Bool) (allow : AllowList) (proxyProtocol : Bool)
    (id : UInt16) :
    Listed (session.bound request.service port fixed allow request.id proxyProtocol).2 id ↔
      (request.id = id ∧ port.kind = .udp) ∨ Listed session id := by
  unfold Listed
  simp only [bound_getElem?]
  constructor
  · rintro ⟨name, bound, held, same, udp⟩
    split_ifs at held
    · obtain rfl := Option.some.inj held
      exact .inl ⟨same, udp⟩
    · exact .inr ⟨name, bound, held, same, udp⟩
  · rintro (⟨same, udp⟩ | ⟨name, bound, held, same, udp⟩)
    · exact ⟨request.service, _, if_pos rfl, same, udp⟩
    · refine ⟨name, bound, ?_, same, udp⟩
      rw [if_neg]
      · exact held
      · rintro rfl
        rw [asked.free] at held
        cases held

theorem Tidy.bound (tidy : Tidy s) (found : s.slots[i]? = some ⟨session, some request, false⟩)
    (leaving : request.walk.stage = .leaving (.ok port)) {service : Service} (slot : service.slot = i)
    (id : service.id = request.id) (registered : service.registered = decide (request.walk.kind = .udp))
    (closed : service.closed = false) (fixed : Bool) (allow : AllowList) (proxyProtocol : Bool)
    (slots : next.slots = s.slots.set i
      ⟨(session.bound request.service port fixed allow request.id proxyProtocol).2, none, false⟩)
    (services : next.services = service :: s.services) : Tidy next := by
  have asked := tidy.asked i _ found request rfl
  have numbered := tidy.numbered i _ found
  have fresh := Session.nextId_lt asked.id
  have stored (j : Nat) : next.slots[j]? = if i = j then
      some ⟨(session.bound request.service port fixed allow request.id proxyProtocol).2, none, false⟩
      else s.slots[j]? := by
    have bound := (List.getElem?_eq_some_iff.mp found).1
    rw [slots, List.getElem?_set, if_pos bound]
  refine ⟨?_, ?_, ?_, ?_, ?_⟩
  · intro other member
    rw [services] at member
    rcases List.mem_cons.mp member with rfl | member
    · rw [closed]
      rintro ⟨⟩
    · exact tidy.closed other member
  · intro other member
    rw [services] at member
    rw [stored]
    rcases List.mem_cons.mp member with rfl | member
    · rw [if_pos slot.symm, id]
      exact ⟨_, rfl, UInt16.le_refl _⟩
    · obtain ⟨old, was, le⟩ := tidy.owner other member
      split_ifs with same
      · rw [← same] at was
        obtain rfl := Option.some.inj (found.symm.trans was)
        exact ⟨_, rfl, UInt16.le_trans le (UInt16.le_of_lt fresh)⟩
      · exact ⟨old, was, le⟩
  · intro j slot at'
    rw [stored] at at'
    split_ifs at at'
    · obtain rfl := Option.some.inj at'
      exact asked.numbered numbered fixed allow proxyProtocol
    · exact tidy.numbered j slot at'
  · intro j slot at'
    rw [stored] at at'
    split_ifs at at'
    · obtain rfl := Option.some.inj at'
      rintro _ ⟨⟩
    · exact tidy.asked j slot at'
  · intro j other at' key
    rw [stored] at at'
    rw [keyed_cons services]
    split_ifs at at' with same
    · obtain rfl := Option.some.inj at'
      subst same
      rw [asked.listed, ← tidy.keys i _ found, slot, id, registered, asked.kind port (.inr leaving),
        decide_eq_true_eq]
      simp only [true_and, and_comm]
    · rw [← tidy.keys j other at' key, slot]
      simp [same]

end Bound

end Tidy

section Span
variable {span : PortSpan}

/-- The numbers of the pool, counted on from its first as the cursor goes. -/
def Within (span : PortSpan) (number : UInt16) : Prop := (number - span.first).toNat < span.len

structure Spans (span : PortSpan) (ports : PortAllocator) : Prop where
  same : ports.span = span
  cursor : Within span ports.cursor

theorem spans_new (span : PortSpan) (number : UInt16) : Spans span (.reserve (.new span) number) := by
  refine ⟨rfl, ?_⟩
  simp [Within, PortSpan.len, PortAllocator.reserve, PortAllocator.new]

theorem Spans.advance {ports : PortAllocator} (spans : Spans span ports) : Spans span ports.advance := by
  obtain ⟨rfl, within⟩ := spans
  refine ⟨rfl, ?_⟩
  simp only [Within, PortSpan.len, PortAllocator.advance] at within ⊢
  split_ifs with last
  · simp
  · have before : (ports.cursor - ports.span.first).toNat ≠ (ports.span.last - ports.span.first).toNat := by
      intro same
      exact last ((UInt16.sub_left_inj _).mp (UInt16.toNat_inj.mp same))
    have next : ports.cursor + 1 - ports.span.first = ports.cursor - ports.span.first + 1 := by
      rw [UInt16.sub_eq_iff_eq_add, UInt16.add_assoc, UInt16.add_comm 1, ← UInt16.add_assoc,
        UInt16.sub_add_cancel]
    rw [next, UInt16.toNat_add]
    have bounded := (ports.span.last - ports.span.first).toNat_lt
    simp only [UInt16.toNat_one]
    omega

theorem Spans.walk (kind : Kind) (left : Nat) {ports ports' : PortAllocator} {port : Option Port}
    (spans : Spans span ports) (walked : PortAllocator.walk kind left ports = (port, ports')) :
    Spans span ports' ∧ ∀ found, port = some found → found.kind = kind ∧ Within span found.number := by
  induction left generalizing ports with
  | zero =>
      obtain ⟨rfl, rfl⟩ := Prod.mk.inj walked
      exact ⟨spans, by simp⟩
  | succ left ih =>
      unfold PortAllocator.walk at walked
      dsimp only at walked
      split_ifs at walked with used
      · exact ih spans.advance walked
      · obtain ⟨rfl, rfl⟩ := Prod.mk.inj walked
        refine ⟨⟨spans.advance.same, spans.advance.cursor⟩, ?_⟩
        rintro _ ⟨⟩
        exact ⟨rfl, spans.cursor⟩

theorem Spans.claim {grant : Grant} {kind : Kind} {fixed : Option UInt16} {ports ports' : PortAllocator}
    {result : Except BindFailure Port} (spans : Spans span ports)
    (claims : Session.claim grant kind fixed ports = (result, ports')) :
    Spans span ports' ∧ ∀ port, result = .ok port →
      port.kind = kind ∧ (fixed = none → Within span port.number) := by
  unfold Session.claim at claims
  cases fixed with
  | some number =>
      dsimp only at claims
      unfold PortAllocator.claim at claims
      split_ifs at claims <;> obtain ⟨rfl, rfl⟩ := Prod.mk.inj claims
      · exact ⟨spans, by simp⟩
      · exact ⟨spans, by simp⟩
      · exact ⟨⟨spans.same, spans.cursor⟩, by simp⟩
  | none =>
      dsimp only at claims
      cases walked : ports.claimDynamic kind with
      | mk found after =>
          have walks := spans.walk kind ports.span.len walked
          rw [walked] at claims
          cases found with
          | some port =>
              obtain ⟨rfl, rfl⟩ := Prod.mk.inj claims
              refine ⟨walks.1, ?_⟩
              rintro _ ⟨⟩
              exact ⟨(walks.2 port rfl).1, fun _ => (walks.2 port rfl).2⟩
          | none =>
              obtain ⟨rfl, rfl⟩ := Prod.mk.inj claims
              exact ⟨walks.1, by simp⟩

/-- A walk of the pool that looks at no port twice is no longer than the pool. -/
theorem length_le_len {kind : Kind} {tried : List Port} (nodup : tried.Nodup)
    (placed : ∀ port ∈ tried, port.kind = kind ∧ Within span port.number) : tried.length ≤ span.len := by
  have offsets : (tried.map fun port => (port.number - span.first).toNat).Nodup := by
    apply (List.nodup_map_iff_inj_on nodup).mpr
    rintro ⟨number, kind'⟩ first ⟨number', kind''⟩ second same
    obtain rfl : number = number' := (UInt16.sub_left_inj _).mp (UInt16.toNat_inj.mp same)
    obtain ⟨rfl, -⟩ := placed _ first
    obtain ⟨rfl, -⟩ := placed _ second
    rfl
  have below : (tried.map fun port => (port.number - span.first).toNat) ⊆ List.range span.len := by
    intro offset member
    obtain ⟨port, tries, rfl⟩ := List.mem_map.mp member
    exact List.mem_range.mpr (placed port tries).2
  simpa using (offsets.subperm below).length_le

end Span

theorem regrant_fewer (session : Session) (policy : Policy) {name : String} {bound : BoundService}
    (held : (session.regrant policy).2.services[name]? = some bound) :
    session.services[name]? = some bound := by
  have regranted := Session.regrant_regranted session policy
  revert regranted held
  generalize session.regrant policy = result
  obtain ⟨msgs, after⟩ := result
  intro held regranted
  cases regranted with
  | gone | changed => exact held
  | kept grant found name' bind allow next key taken dropped left =>
      by_cases loses : Session.Loses session grant name
      · rw [dropped name loses] at held
        cases held
      · rw [← left name loses]
        exact held

section Step
variable [Ipnet] {span : PortSpan} {number : UInt16} {s next : Shared} {event : Shared.Event}

theorem step_spans (stepped : s.step event = some next) (spans : Spans span s.ports) :
    Spans span next.ports := by
  cases Shared.step_stepped stepped with
  | claimed i session request port ports found claiming claims => exact (spans.claim claims).1
  | unclaimed i session request reason ports found claiming claims => exact (spans.claim claims).1
  | releaseRefused | release => exact ⟨spans.same, spans.cursor⟩
  | welcome | bind | accepted | refused | failed | bound | unbind | regrant | leave | stopped | lend
  | giveBack | close => exact spans

theorem step_tidy (stepped : s.step event = some next) (spans : Spans span s.ports) (tidy : Tidy s) :
    Tidy next := by
  cases Shared.step_stepped stepped with
  | welcome key grant => exact tidy.welcome key grant
  | bind i service kind port allow proxyProtocol session admitted id found checked =>
      obtain ⟨free, -, fresh⟩ := Session.check_ok checked
      refine tidy.walk found rfl rfl ?_
      rintro _ ⟨⟩
      exact ⟨fresh, free, by simp [Walk.start]⟩
  | claimed i session request port ports found claiming claims =>
      have asked := tidy.asked i _ found request rfl
      refine tidy.walk found rfl rfl ?_
      rintro _ ⟨⟩
      refine ⟨asked.id, asked.free, ?_⟩
      intro other same
      obtain rfl : port = other := by simpa using same
      exact ((spans.claim claims).2 port rfl).1
  | unclaimed i session request reason ports found claiming claims =>
      have asked := tidy.asked i _ found request rfl
      refine tidy.walk found rfl rfl ?_
      rintro _ ⟨⟩
      exact ⟨asked.id, asked.free, by simp⟩
  | accepted i session request port found binding =>
      have asked := tidy.asked i _ found request rfl
      refine tidy.walk found rfl rfl ?_
      rintro _ ⟨⟩
      refine ⟨asked.id, asked.free, ?_⟩
      intro other same
      obtain rfl : port = other := by simpa using same
      exact asked.kind port (.inl binding)
  | refused i session request port found binding =>
      have asked := tidy.asked i _ found request rfl
      refine tidy.walk found rfl rfl ?_
      rintro _ ⟨⟩
      refine ⟨asked.id, asked.free, ?_⟩
      dsimp only
      split_ifs <;> simp
  | releaseRefused i session request outcome port refused found leaving some_left =>
      have asked := tidy.asked i _ found request rfl
      refine tidy.walk found rfl rfl ?_
      rintro _ ⟨⟩
      exact ⟨asked.id, asked.free, asked.kind⟩
  | failed i session request reason found leaving none_left =>
      refine tidy.walk found rfl rfl ?_
      rintro _ ⟨⟩
  | bound i session request port found leaving none_left =>
      exact tidy.bound found leaving rfl rfl rfl rfl _ _ _ rfl rfl
  | unbind i service session found =>
      refine tidy.settle false found rfl ?_
      intro name bound held
      rw [Session.unbind_getElem?] at held
      split_ifs at held
      exact held
  | regrant i policy session found =>
      exact tidy.settle false found (Session.regrant_lastId session policy) fun _ _ =>
        regrant_fewer session policy
  | leave i session found =>
      apply tidy.settle true found (Session.unbindAll_lastId session _)
      intro name bound held
      rw [Session.unbindAll_getElem?] at held
      split_ifs at held
      exact held
  | stopped i service found =>
      exact tidy.updateService found rfl rfl rfl rfl rfl (tidy.closed service (List.mem_of_getElem? found))
  | lend i service found =>
      exact tidy.updateService found rfl rfl rfl rfl rfl (tidy.closed service (List.mem_of_getElem? found))
  | giveBack i service found =>
      exact tidy.updateService found rfl rfl rfl rfl rfl (tidy.closed service (List.mem_of_getElem? found))
  | close i service found idle =>
      refine tidy.updateService found rfl rfl rfl rfl rfl ?_
      simp_all
  | release i service found closed => exact tidy.release found closed rfl rfl

theorem reachable_tidy (reachable : (sessions span number).Reachable s) : Spans span s.ports ∧ Tidy s := by
  apply reachable.invariant fun s => Spans span s.ports ∧ Tidy s
  · rintro _ rfl
    exact ⟨spans_new span number, tidy_new span number⟩
  · rintro before event after _ ⟨spans, tidy⟩ stepped
    exact ⟨step_spans stepped spans, step_tidy stepped spans tidy⟩

end Step
end Hawse.Proof.Bind
