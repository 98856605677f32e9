import Hawse.Lib.Lists
import Hawse.Server.Udp
import Hawse.Proof.Server.Session
import Hawse.Proof.Server.Table

namespace Hawse.Proof.Udp
open Lib Hawse.Server Table
variable {decode : Decode} {udpSessions : Nat} {this next : Udp}

def boundId : ServerMessage → Option UInt16
  | .bound _ id _ _ => some id
  | _ => none

def boundIds (replies : List ServerMessage) : List UInt16 := replies.filterMap boundId

structure Kept (this : Udp) (service : Nat) (found : UdpService) : Prop where
  consistent : Consistent found.table
  next : found.table.next.toNat = this.opened service
  told : ∀ session visitor, visitorOf found.table session = some visitor →
    ∃ issued ∈ this.issued, issued.service = service ∧ issued.header = ⟨found.id, session⟩ ∧
      issued.visitor = visitor

theorem opened_append {issued : Issued} (service : Nat) (told : next.issued = this.issued ++ [issued]) :
    next.opened service =
      this.opened service + if issued.service = service ∧ issued.fresh = true then 1 else 0 := by
  rw [Udp.opened, told, List.countP_append, List.countP_singleton]
  simp [Udp.opened]

theorem deliver_fields (found : UdpService) (packet : List UInt8) (now : Nat)
    (consistent : Consistent found.table) :
    (found.deliver decode packet now).2.id = found.id ∧
      (found.deliver decode packet now).2.allow = found.allow ∧
      Shrunk found.table (found.deliver decode packet now).2.table := by
  unfold UdpService.deliver
  cases decode packet with
  | none => exact ⟨rfl, rfl, .refl consistent⟩
  | some parts =>
      obtain ⟨header, payload⟩ := parts
      dsimp only
      split_ifs
      · exact ⟨rfl, rfl, .refl consistent⟩
      · refine ⟨rfl, rfl, ?_⟩
        rw [(outbound_eq found.table header.session now).2]
        exact touch_shrunk consistent header.session now

theorem boundIds_append (replies : List ServerMessage) (reply : ServerMessage) :
    boundIds (replies ++ [reply]) = boundIds replies ++ (boundId reply).toList := by
  rw [boundIds, List.filterMap_append]
  congr 1

theorem opened_congr (issued : next.issued = this.issued) : next.opened = this.opened := by
  funext service
  rw [Udp.opened, Udp.opened, issued]

theorem Kept.congr {service : Nat} {found : UdpService} (kept : Kept this service found)
    (issued : next.issued = this.issued) : Kept next service found := by
  refine ⟨kept.consistent, ?_, ?_⟩
  · rw [opened_congr issued]
    exact kept.next
  · rw [issued]
    exact kept.told

theorem deliver_issued {service : Nat} {packet : List UInt8} {now : Nat}
    (delivered : this.deliver decode service packet now = some next) : next.issued = this.issued := by
  unfold Udp.deliver at delivered
  cases held : this.made[service]? with
  | none => simp [held] at delivered
  | some found =>
      simp only [held, Option.some.injEq] at delivered
      rw [← delivered]

section Isolation
variable [Ipnet]

structure Inv (decode : Decode) (this : Udp) : Prop where
  kept : ∀ service found, this.made[service]? = some found → Kept this service found
  issued : ∀ issued ∈ this.issued, ∃ found, this.made[issued.service]? = some found ∧
    issued.header.serviceId = found.id ∧ found.admits issued.visitor = true ∧
    issued.header.session.toNat < this.opened issued.service
  once : ∀ first ∈ this.issued, ∀ second ∈ this.issued, first.service = second.service →
    first.header.session = second.header.session → first.visitor = second.visitor
  sent : ∀ sent ∈ this.sent, ∃ header, decode sent.packet = some (header, sent.payload) ∧
    ∃ issued ∈ this.issued, issued.header = header ∧ issued.service = sent.service ∧
      issued.visitor = sent.visitor
  ids : ∀ (first second : Nat) (found found' : UdpService), this.made[first]? = some found →
    this.made[second]? = some found' → first < second → found.id < found'.id
  made : ∀ (service : Nat) (found : UdpService), this.made[service]? = some found → found.id ≤ this.session.lastId
  increasing : (boundIds this.replies).Pairwise (· < ·)
  replied : ∀ id ∈ boundIds this.replies, id ≤ this.session.lastId

theorem Inv.same_service (inv : Inv decode this) {first second : Nat} {found found' : UdpService}
    (held : this.made[first]? = some found) (held' : this.made[second]? = some found')
    (same : found.id = found'.id) : first = second := by
  rcases Nat.lt_trichotomy first second with less | equal | more
  · have apart := inv.ids first second found found' held held' less
    rw [same] at apart
    exact absurd apart (UInt16.lt_irrefl _)
  · exact equal
  · have apart := inv.ids second first found' found held' held more
    rw [same] at apart
    exact absurd apart (UInt16.lt_irrefl _)

theorem Inv.one_visitor (inv : Inv decode this) {first second : Issued}
    (told : first ∈ this.issued) (told' : second ∈ this.issued) (same : first.header = second.header) :
    first.service = second.service ∧ first.visitor = second.visitor := by
  obtain ⟨found, held, id, -⟩ := inv.issued first told
  obtain ⟨found', held', id', -⟩ := inv.issued second told'
  have service := inv.same_service held held' (by rw [← id, ← id', same])
  exact ⟨service, inv.once first told second told' service (by rw [same])⟩

section Tables

/-- A step at one service, which leaves it its id and its list, tells the client of no session but
one of its own, and sends what it may. -/
theorem Inv.replace (inv : Inv decode this) {service : Nat} {found after : UdpService}
    (held : this.made[service]? = some found) (made : next.made = this.made.set service after)
    (id : after.id = found.id) (allow : after.allow = found.allow)
    (session : next.session = this.session) (replies : next.replies = this.replies)
    (kept : Kept next service after) (grows : ∀ issued ∈ this.issued, issued ∈ next.issued)
    (elsewhere : ∀ other ≠ service, next.opened other = this.opened other)
    (more : this.opened service ≤ next.opened service)
    (new : ∀ issued ∈ next.issued, issued ∈ this.issued ∨
      issued.service = service ∧ issued.header.serviceId = found.id ∧
        found.admits issued.visitor = true ∧ issued.header.session.toNat < next.opened service)
    (once : ∀ first ∈ next.issued, ∀ second ∈ next.issued, first.service = second.service →
      first.header.session = second.header.session → first.visitor = second.visitor)
    (sent : ∀ sent ∈ next.sent, ∃ header, decode sent.packet = some (header, sent.payload) ∧
      ∃ issued ∈ next.issued, issued.header = header ∧ issued.service = sent.service ∧
        issued.visitor = sent.visitor) : Inv decode next := by
  have lookup : ∀ other, next.made[other]? =
      if service = other then some after else this.made[other]? := by
    intro other
    rw [made, set_getElem? held]
  -- Every service is still there, with its id and its list.
  have before : ∀ (other : Nat) (now' : UdpService), next.made[other]? = some now' →
      ∃ was, this.made[other]? = some was ∧ was.id = now'.id := by
    intro other now' present
    rw [lookup] at present
    split_ifs at present with same
    · subst same
      obtain rfl := Option.some.inj present
      exact ⟨found, held, id.symm⟩
    · exact ⟨now', present, rfl⟩
  have opened : ∀ other, this.opened other ≤ next.opened other := by
    intro other
    by_cases same : other = service
    · rw [same]
      exact more
    · rw [elsewhere other same]
  refine ⟨?_, ?_, once, sent, ?_, ?_, ?_, ?_⟩
  · intro other now' present
    rw [lookup] at present
    split_ifs at present with same
    · subst same
      obtain rfl := Option.some.inj present
      exact kept
    · have old := inv.kept other now' present
      refine ⟨old.consistent, ?_, ?_⟩
      · rw [elsewhere other (Ne.symm same)]
        exact old.next
      · intro session visitor owned
        obtain ⟨issued, told, rest⟩ := old.told session visitor owned
        exact ⟨issued, grows issued told, rest⟩
  · intro issued told
    rcases new issued told with old | ⟨rfl, header, admitted, below⟩
    · obtain ⟨was, present, header, admitted, below⟩ := inv.issued issued old
      by_cases same : service = issued.service
      · refine ⟨after, by rw [lookup, if_pos same], ?_, ?_, Nat.lt_of_lt_of_le below (opened _)⟩
        · rw [← same, held] at present
          obtain rfl := Option.some.inj present
          rw [header, id]
        · rw [← same, held] at present
          obtain rfl := Option.some.inj present
          rw [UdpService.admits, allow]
          exact admitted
      · exact ⟨was, by rw [lookup, if_neg same, present], header, admitted,
          Nat.lt_of_lt_of_le below (opened _)⟩
    · refine ⟨after, by rw [lookup, if_pos rfl], by rw [header, id], ?_, below⟩
      rw [UdpService.admits, allow]
      exact admitted
  · intro first second a b atFirst atSecond less
    obtain ⟨was, present, same⟩ := before first a atFirst
    obtain ⟨was', present', same'⟩ := before second b atSecond
    rw [← same, ← same']
    exact inv.ids first second was was' present present' less
  · intro other now' present
    obtain ⟨was, present', same⟩ := before other now' present
    rw [← same, session]
    exact inv.made other was present'
  · rw [replies]
    exact inv.increasing
  · rw [replies, session]
    exact inv.replied

theorem Inv.shrunk (inv : Inv decode this) {service : Nat} {found after : UdpService}
    (held : this.made[service]? = some found) (made : next.made = this.made.set service after)
    (id : after.id = found.id) (allow : after.allow = found.allow)
    (shrunk : Shrunk found.table after.table) (session : next.session = this.session)
    (replies : next.replies = this.replies) (issued : next.issued = this.issued)
    (sent : ∀ sent ∈ next.sent, ∃ header, decode sent.packet = some (header, sent.payload) ∧
      ∃ issued ∈ this.issued, issued.header = header ∧ issued.service = sent.service ∧
        issued.visitor = sent.visitor) : Inv decode next := by
  have opened : ∀ service, next.opened service = this.opened service := by
    intro service
    rw [Udp.opened, Udp.opened, issued]
  have old := inv.kept service found held
  apply inv.replace held made id allow session replies
  · refine ⟨shrunk.consistent, ?_, ?_⟩
    · rw [shrunk.next, opened]
      exact old.next
    · intro session visitor owned
      rw [issued, id]
      exact old.told session visitor (shrunk.kept session visitor owned)
  · rw [issued]
    exact fun _ told => told
  · exact fun other _ => opened other
  · rw [opened]
  · rw [issued]
    exact fun _ told => .inl told
  · rw [issued]
    exact inv.once
  · rw [issued]
    exact sent

theorem deliver_sends (inv : Inv decode this) {service : Nat} {found : UdpService}
    (held : this.made[service]? = some found) {packet payload : List UInt8} {visitor : SocketAddr}
    {now : Nat} (sends : (found.deliver decode packet now).1 = some (payload, visitor)) :
    ∃ header, decode packet = some (header, payload) ∧
      ∃ issued ∈ this.issued, issued.header = header ∧ issued.service = service ∧
        issued.visitor = visitor := by
  unfold UdpService.deliver at sends
  cases decoded : decode packet with
  | none => simp [decoded] at sends
  | some parts =>
      obtain ⟨header, rest⟩ := parts
      simp only [decoded, (outbound_eq found.table header.session now).1] at sends
      split_ifs at sends with other
      obtain ⟨owner, owned, same⟩ := Option.map_eq_some_iff.mp sends
      obtain ⟨rfl, rfl⟩ := Prod.mk.inj same
      obtain ⟨issued, told, place, headed, visitor⟩ :=
        (inv.kept service found held).told header.session owner owned
      refine ⟨header, rfl, issued, told, ?_, place, visitor⟩
      rw [headed, ← not_not.mp other]

theorem Inv.deliver (inv : Inv decode this) {service : Nat} {packet : List UInt8} {now : Nat}
    (delivered : this.deliver decode service packet now = some next) : Inv decode next := by
  unfold Udp.deliver at delivered
  cases held : this.made[service]? with
  | none => simp [held] at delivered
  | some found =>
      simp only [held, Option.some.injEq] at delivered
      subst delivered
      obtain ⟨id, allow, shrunk⟩ :=
        deliver_fields found packet now (inv.kept service found held).consistent
      refine inv.shrunk held rfl id allow shrunk rfl rfl rfl ?_
      intro sent listed
      rcases List.mem_append.mp listed with old | added
      · exact inv.sent sent old
      · obtain ⟨⟨payload, visitor⟩, sends, rfl⟩ := Option.map_eq_some_iff.mp (Option.mem_toList.mp added)
        exact deliver_sends inv held sends

theorem Inv.sweep (inv : Inv decode this) {service : Nat} {found : UdpService} (now : Nat)
    (held : this.made[service]? = some found) :
    Inv decode { this with
      made := this.made.set service { found with table := (found.table.sweep now).2 } } :=
  inv.shrunk held rfl rfl rfl (sweep_shrunk (inv.kept service found held).consistent now) rfl rfl rfl
    inv.sent

end Tables

section Inbound

theorem Inv.below (inv : Inv decode this) {service : Nat} {found : UdpService}
    (held : this.made[service]? = some found) : Below found.table := by
  intro session visitor owned
  have kept := inv.kept service found held
  obtain ⟨issued, told, rfl, headed, -⟩ := kept.told session visitor owned
  obtain ⟨-, -, -, -, below⟩ := inv.issued issued told
  rw [headed, ← kept.next] at below
  exact UInt32.lt_iff_toNat_lt.mpr below

/-- A new session is past every one told of; a known one was told of for this visitor. -/
theorem Inv.inbound_session (inv : Inv decode this) {service : Nat} {found : UdpService}
    (held : this.made[service]? = some found) {visitor : SocketAddr} {seen : SessionTable.Inbound}
    {table : SessionTable} (after : Seen found.table visitor seen table)
    (here : next.opened service = this.opened service + if seen.fresh = true then 1 else 0)
    (few : next.opened service < 2 ^ 32) :
    table.next.toNat = next.opened service ∧ seen.session.toNat < next.opened service ∧
      ∀ issued ∈ this.issued, issued.service = service → issued.header.session = seen.session →
        issued.visitor = visitor := by
  have old := inv.kept service found held
  cases fresh : seen.fresh with
  | true =>
      obtain ⟨session, grown⟩ := after.fresh fresh
      simp only [fresh, ↓reduceIte] at here
      rw [session, grown, UInt32.toNat_add, old.next, here, UInt32.toNat_one]
      refine ⟨Nat.mod_eq_of_lt (here ▸ few), Nat.lt_succ_self _, ?_⟩
      intro issued before place same
      obtain ⟨-, -, -, -, below⟩ := inv.issued issued before
      rw [same, place, old.next] at below
      exact absurd below (Nat.lt_irrefl _)
  | false =>
      obtain ⟨owned, same⟩ := after.again fresh
      obtain ⟨issued, before, place, headed, owner⟩ := old.told seen.session visitor owned
      obtain ⟨-, -, -, -, below⟩ := inv.issued issued before
      simp only [fresh, Bool.false_eq_true, ↓reduceIte, Nat.add_zero] at here
      rw [headed, place] at below
      rw [same, here]
      refine ⟨old.next, below, ?_⟩
      intro other before' place' session
      rw [← owner]
      exact inv.once other before' issued before (place'.trans place.symm)
        (session.trans (congrArg DatagramHeader.session headed).symm)

theorem Inv.inbound (inv : Inv decode this) {service : Nat} {found : UdpService}
    (held : this.made[service]? = some found) {visitor : SocketAddr}
    (admitted : found.admits visitor = true) {seen : SessionTable.Inbound} {table : SessionTable}
    (after : Seen found.table visitor seen table)
    (made : next.made = this.made.set service { found with table })
    (told : next.issued = this.issued ++ [⟨service, ⟨found.id, seen.session⟩, visitor, seen.fresh⟩])
    (session : next.session = this.session) (replies : next.replies = this.replies)
    (sent : next.sent = this.sent) (few : next.opened service < 2 ^ 32) : Inv decode next := by
  have old := inv.kept service found held
  have opened := fun other => opened_append other told
  have here := opened service
  simp only [true_and] at here
  have grows : ∀ issued ∈ this.issued, issued ∈ next.issued := by
    intro issued before
    rw [told]
    exact List.mem_append_left _ before
  obtain ⟨next', below, same⟩ := inv.inbound_session held after here few
  apply inv.replace held made rfl rfl session replies
  · refine ⟨after.consistent, next', ?_⟩
    intro session owner owned
    by_cases mine : session = seen.session
    · rw [mine, after.owned] at owned
      refine ⟨⟨service, ⟨found.id, seen.session⟩, visitor, seen.fresh⟩, by simp [told], rfl, ?_, ?_⟩
      · rw [mine]
      · exact Option.some.inj owned
    · obtain ⟨issued, before, rest⟩ := old.told session owner (after.others session owner mine owned)
      exact ⟨issued, grows issued before, rest⟩
  · exact grows
  · intro other different
    rw [opened, if_neg, Nat.add_zero]
    intro both
    exact different both.1.symm
  · rw [here]
    exact Nat.le_add_right _ _
  · intro issued listed
    rw [told] at listed
    rcases List.mem_append.mp listed with before | added
    · exact .inl before
    · obtain rfl := List.mem_singleton.mp added
      exact .inr ⟨rfl, rfl, admitted, below⟩
  · intro first listed second listed' place session
    rw [told] at listed listed'
    rcases List.mem_append.mp listed with before | added <;>
      rcases List.mem_append.mp listed' with before' | added'
    · exact inv.once first before second before' place session
    · obtain rfl := List.mem_singleton.mp added'
      exact same first before place session
    · obtain rfl := List.mem_singleton.mp added
      exact (same second before' place.symm session.symm).symm
    · obtain rfl := List.mem_singleton.mp added
      obtain rfl := List.mem_singleton.mp added'
      rfl
  · rw [sent]
    intro sent listed
    obtain ⟨header, decoded, issued, before, rest⟩ := inv.sent sent listed
    exact ⟨header, decoded, issued, grows issued before, rest⟩

end Inbound

section Control

theorem Inv.replied_with (inv : Inv decode this) (made : next.made = this.made)
    (issued : next.issued = this.issued) (sent : next.sent = this.sent) (id : Option UInt16)
    (ids : boundIds next.replies = boundIds this.replies ++ id.toList)
    (fresh : ∀ new, id = some new → this.session.lastId < new)
    (lastId : next.session.lastId = id.getD this.session.lastId) : Inv decode next := by
  obtain ⟨increasing, replied⟩ := Session.next_ascends inv.increasing inv.replied fresh lastId
  refine ⟨?_, ?_, ?_, ?_, ?_, ?_, ?_, ?_⟩
  · intro service found held
    rw [made] at held
    exact (inv.kept service found held).congr issued
  · rw [issued, made, opened_congr issued]
    exact inv.issued
  · rw [issued]
    exact inv.once
  · rw [issued, sent]
    exact inv.sent
  · rw [made]
    exact inv.ids
  · rw [made]
    intro service found held
    exact Session.le_next fresh lastId (inv.made service found held)
  · rw [ids]
    exact increasing
  · rw [ids]
    exact replied

theorem Inv.makes (inv : Inv decode this) {new : UdpService} (made : next.made = this.made ++ [new])
    (older : ∀ (service : Nat) (found : UdpService), this.made[service]? = some found →
      found.id < new.id)
    (issued : next.issued = this.issued) (sent : next.sent = this.sent)
    (replies : next.replies = this.replies) (session : next.session = this.session)
    (known : new.id ≤ this.session.lastId) {cap idle : Nat} (table : new.table = .new cap idle) :
    Inv decode next := by
  have lookup : ∀ (service : Nat) (found : UdpService), next.made[service]? = some found →
      this.made[service]? = some found ∨ (service = this.made.length ∧ found = new) := by
    intro service found held
    rw [made, List.getElem?_append] at held
    split_ifs at held with inside
    · exact .inl held
    · obtain ⟨place, same⟩ := List.getElem?_eq_some_iff.mp held
      have last : service - this.made.length = 0 := by simpa using place
      refine .inr ⟨by omega, ?_⟩
      simpa [last] using same.symm
  have present : ∀ (service : Nat) (found : UdpService), this.made[service]? = some found →
      next.made[service]? = some found := by
    intro service found held
    rw [made, List.getElem?_append_left (List.getElem?_eq_some_iff.mp held).1]
    exact held
  have unopened : this.opened this.made.length = 0 := by
    rw [Udp.opened, List.countP_eq_zero]
    intro old told
    obtain ⟨found, held, -⟩ := inv.issued old told
    have inside := (List.getElem?_eq_some_iff.mp held).1
    simp only [decide_eq_true_eq]
    omega
  refine ⟨?_, ?_, ?_, ?_, ?_, ?_, ?_, ?_⟩
  · intro service found held
    rcases lookup service found held with held | ⟨rfl, rfl⟩
    · exact (inv.kept service found held).congr issued
    · rw [← opened_congr issued] at unopened
      refine ⟨by rw [table]; exact new_consistent cap idle, by rw [table, unopened]; rfl, ?_⟩
      intro session visitor owned
      rw [table] at owned
      simp [visitorOf, SessionTable.new] at owned
  · rw [issued, opened_congr issued]
    intro old told
    obtain ⟨found, held, rest⟩ := inv.issued old told
    exact ⟨found, present _ found held, rest⟩
  · rw [issued]
    exact inv.once
  · rw [issued, sent]
    exact inv.sent
  · intro first second found found' held held' less
    rcases lookup first found held with held | ⟨rfl, rfl⟩ <;>
      rcases lookup second found' held' with held' | ⟨rfl, rfl⟩
    · exact inv.ids first second found found' held held' less
    · exact older first found held
    · have inside := (List.getElem?_eq_some_iff.mp held').1
      omega
    · omega
  · rw [session]
    intro service found held
    rcases lookup service found held with held | ⟨rfl, rfl⟩
    · exact inv.made service found held
    · exact known
  · rw [replies]
    exact inv.increasing
  · rw [replies, session]
    exact inv.replied

theorem Inv.bind (inv : Inv decode this) (service : String) (kind : Kind) (port : Option UInt16)
    (allow : List IpNet) (proxyProtocol : Bool) (opened : Except BindFailure Port) :
    Inv decode (this.bind udpSessions service kind port allow proxyProtocol opened) := by
  have answered := Session.bind_answered this.session service port allow proxyProtocol opened
  unfold Udp.bind
  revert answered
  generalize this.session.bind service port allow proxyProtocol opened = result
  obtain ⟨reply, session⟩ := result
  intro answered
  have replied : ∀ id, boundId reply = id → (∀ new, id = some new → this.session.lastId < new) →
      session.lastId = id.getD this.session.lastId →
      Inv decode { this with session, replies := this.replies ++ [reply] } := by
    intro id same fresh lastId
    refine inv.replied_with rfl rfl rfl id ?_ fresh lastId
    rw [boundIds_append, same]
  cases answered with
  | shutdown used reason => cases kind <;> exact replied none rfl (by simp) rfl
  | failed reason => cases kind <;> exact replied none rfl (by simp) rfl
  | bound id number admitted proxy free effective fresh got =>
      have newer := Session.nextId_lt fresh
      have before := replied (some id) rfl (fun new same => Option.some.inj same ▸ newer) rfl
      cases kind with
      | tcp => exact before
      | udp =>
          simp only [Std.ExtTreeMap.getElem?_insert_self]
          refine before.makes rfl ?_ rfl rfl rfl rfl ?_ rfl
          · intro other found held
            exact UInt16.lt_of_le_of_lt (inv.made other found held) newer
          · exact UInt16.le_refl _

theorem Inv.unbound (inv : Inv decode this) (session : Server.Session)
    (lastId : session.lastId = this.session.lastId) : Inv decode (this.unbound session) :=
  inv.replied_with rfl rfl rfl none (List.append_nil _).symm nofun lastId

theorem Inv.routed (inv : Inv decode this) (demux : Option (Nat × List UInt8)) :
    Inv decode { this with demux } :=
  inv.replied_with rfl rfl rfl none (List.append_nil _).symm nofun rfl

theorem step_inv {event : Udp.Event} (inv : Inv decode this) (few : ∀ service, next.opened service < 2 ^ 32)
    (stepped : this.step udpSessions decode event = some next) : Inv decode next := by
  cases event with
  | bind service kind port allow proxyProtocol opened =>
      cases stepped
      exact inv.bind service kind port allow proxyProtocol opened
  | unbind service =>
      cases stepped
      exact inv.unbound _ rfl
  | regrant policy =>
      cases stepped
      exact inv.unbound _ (Session.regrant_lastId this.session policy)
  | inbound service visitor now =>
      simp only [Udp.step] at stepped
      cases held : this.made[service]? with
      | none => simp [held] at stepped
      | some found =>
          simp only [held, UdpService.inbound] at stepped
          cases admitted : found.admits visitor with
          | false =>
              simp only [admitted, Bool.not_false, ↓reduceIte, Option.some.injEq] at stepped
              subst stepped
              refine inv.shrunk held rfl rfl rfl (.refl (inv.kept service found held).consistent) rfl rfl
                (List.append_nil _) inv.sent
          | true =>
              obtain ⟨seen, table, answered, after⟩ :=
                inbound_seen (inv.kept service found held).consistent (inv.below held) visitor now
              simp only [admitted, answered, Bool.not_true, Bool.false_eq_true, ↓reduceIte,
                Option.some.injEq] at stepped
              subst stepped
              exact inv.inbound held admitted after rfl rfl rfl rfl rfl (few service)
  | sweep service now =>
      simp only [Udp.step] at stepped
      cases held : this.made[service]? with
      | none => simp [held] at stepped
      | some found =>
          simp only [held, Option.some.injEq] at stepped
          subst stepped
          exact inv.sweep now held
  | routed packet =>
      simp only [Udp.step] at stepped
      split_ifs at stepped
      cases decoded : decode packet with
      | none =>
          simp only [decoded, Option.some.injEq] at stepped
          subst stepped
          exact inv
      | some parts =>
          simp only [decoded, Option.some.injEq] at stepped
          subst stepped
          exact inv.routed _
  | delivered now =>
      simp only [Udp.step] at stepped
      cases routed : this.demux with
      | none => simp [routed] at stepped
      | some parts =>
          simp only [routed] at stepped
          exact (inv.routed none).deliver stepped
  | bulk service packet now => exact inv.deliver stepped

end Control

section Runs

theorem step_opened {event : Udp.Event} (stepped : this.step udpSessions decode event = some next)
    (service : Nat) : this.opened service ≤ next.opened service := by
  have grows : ∃ more, next.issued = this.issued ++ more := by
    cases event with
    | bind service kind port allow proxyProtocol opened =>
        cases stepped
        refine ⟨[], ?_⟩
        unfold Udp.bind
        dsimp only
        split <;> exact (List.append_nil _).symm
    | unbind service =>
        cases stepped
        exact ⟨[], (List.append_nil _).symm⟩
    | regrant policy =>
        cases stepped
        exact ⟨[], (List.append_nil _).symm⟩
    | inbound other visitor now =>
        simp only [Udp.step] at stepped
        cases held : this.made[other]? with
        | none => simp [held] at stepped
        | some found =>
            cases received : found.inbound visitor now with
            | none => simp [held, received] at stepped
            | some result =>
                simp only [held, received, Option.some.injEq] at stepped
                subst stepped
                exact ⟨_, rfl⟩
    | sweep other now =>
        simp only [Udp.step] at stepped
        cases held : this.made[other]? with
        | none => simp [held] at stepped
        | some found =>
            simp only [held, Option.some.injEq] at stepped
            subst stepped
            exact ⟨[], (List.append_nil _).symm⟩
    | routed packet =>
        simp only [Udp.step] at stepped
        split_ifs at stepped
        split at stepped <;> cases stepped <;> exact ⟨[], (List.append_nil _).symm⟩
    | delivered now =>
        simp only [Udp.step] at stepped
        cases routed : this.demux with
        | none => simp [routed] at stepped
        | some parts =>
            simp only [routed] at stepped
            refine ⟨[], ?_⟩
            rw [deliver_issued stepped, List.append_nil]
    | bulk other packet now =>
        refine ⟨[], ?_⟩
        rw [deliver_issued stepped, List.append_nil]
  obtain ⟨more, grown⟩ := grows
  rw [Udp.opened, Udp.opened, grown, List.countP_append]
  exact Nat.le_add_right _ _

theorem start_inv (key : PublicKey) (grant : Grant) : Inv decode (Udp.start key grant) := by
  constructor <;> simp [Udp.start, Session.new, boundIds]

theorem reachable_inv {key : PublicKey} {grant : Grant}
    (reachable : (udp key grant udpSessions decode).Reachable this)
    (few : ∀ service, this.opened service < 2 ^ 32) : Inv decode this := by
  revert few
  apply reachable.invariant fun this => (∀ service, this.opened service < 2 ^ 32) → Inv decode this
  · intro start same _
    rw [same]
    exact start_inv key grant
  · intro before event after _ ih stepped few
    have earlier : ∀ service, before.opened service < 2 ^ 32 := by
      intro service
      exact Nat.lt_of_le_of_lt (step_opened stepped service) (few service)
    exact step_inv (ih earlier) few stepped

theorem bind_unbound (this : Server.Session) (service : String) (port : Option UInt16)
    (allow : List IpNet) (proxyProtocol : Bool) (opened : Except BindFailure Port)
    (fails : ∀ id, boundId (this.bind service port allow proxyProtocol opened).1 ≠ some id) :
    (this.bind service port allow proxyProtocol opened).2 = this := by
  have answered := Session.bind_answered this service port allow proxyProtocol opened
  revert fails answered
  generalize this.bind service port allow proxyProtocol opened = result
  obtain ⟨reply, session⟩ := result
  intro fails answered
  cases answered with
  | shutdown used reason => rfl
  | failed reason => rfl
  | bound id number admitted proxy free effective fresh got => exact absurd rfl (fails id)

theorem bind_used_up (this : Server.Session) {service : String} (port : Option UInt16)
    {allow : List IpNet} (proxyProtocol : Bool) (opened : Except BindFailure Port)
    (used : this.lastId = 65535) (valid : Name.validate service = .ok ())
    (free : service ∉ this.services) (effective : (AllowList.effective allow this.grant.allow).isSome) :
    (this.bind service port allow proxyProtocol opened).1 = .shutdown Session.usedEveryId := by
  obtain ⟨list, found⟩ := Option.isSome_iff_exists.mp effective
  have absent : this.services.contains service = false := by
    rw [← Bool.not_eq_true, Std.ExtTreeMap.contains_iff_mem]
    exact free
  have exhausted : Session.nextId this.lastId = none := by
    rw [used]
    rfl
  have checked : this.check service allow = .error (.shutdown Session.usedEveryId) := by
    simp [Session.check, valid, absent, found, exhausted]
  rw [Session.bind, checked]

theorem replies_isolated (key : PublicKey) (grant : Grant) (udpSessions : Nat) (decode : Decode)
    (this : Udp) (reachable : (udp key grant udpSessions decode).Reachable this)
    (few : ∀ service, this.opened service < 2 ^ 32) :
    (∀ sent ∈ this.sent, ∃ header found, decode sent.packet = some (header, sent.payload) ∧
      this.made[sent.service]? = some found ∧ found.id = header.serviceId ∧
      found.allow.permits sent.visitor.ip = true ∧
      (∃ issued ∈ this.issued, issued.header = header) ∧
      ∀ issued ∈ this.issued, issued.header = header →
        issued.service = sent.service ∧ issued.visitor = sent.visitor) ∧
    (boundIds this.replies).Pairwise (· < ·) ∧
    ∀ (service : String) (port : Option UInt16) (allow : List IpNet) (proxyProtocol : Bool)
      (opened : Except BindFailure Port),
      ((∀ id, boundId (this.session.bind service port allow proxyProtocol opened).1 ≠ some id) →
        (this.session.bind service port allow proxyProtocol opened).2 = this.session) ∧
      (65535 ∈ boundIds this.replies → Name.validate service = .ok () →
        service ∉ this.session.services →
        (AllowList.effective allow this.session.grant.allow).isSome →
        (this.session.bind service port allow proxyProtocol opened).1 =
          .shutdown Session.usedEveryId) := by
  have inv := reachable_inv reachable few
  refine ⟨?_, inv.increasing, ?_⟩
  · intro sent listed
    obtain ⟨header, decoded, issued, told, headed, place, owner⟩ := inv.sent sent listed
    obtain ⟨found, held, id, admitted, -⟩ := inv.issued issued told
    refine ⟨header, found, decoded, place ▸ held, by rw [← id, headed], owner ▸ admitted,
      ⟨issued, told, headed⟩, ?_⟩
    intro other told' headed'
    obtain ⟨service, visitor⟩ := inv.one_visitor told' told (headed'.trans headed.symm)
    exact ⟨service.trans place, visitor.trans owner⟩
  · intro service port allow proxyProtocol opened
    refine ⟨bind_unbound this.session service port allow proxyProtocol opened, ?_⟩
    intro issued valid free effective
    have used : this.session.lastId = 65535 := by
      have least := UInt16.le_iff_toNat_le.mp (inv.replied 65535 issued)
      have most := this.session.lastId.toNat_lt
      apply UInt16.toNat_inj.mp
      simp only [UInt16.reduceToNat] at least ⊢
      omega
    exact bind_used_up this.session port proxyProtocol opened used valid free effective

end Runs
end Isolation

section Example
attribute [local instance] ipnet

/-- A header whose two numbers take a byte each. -/
def shortDecode : Decode
  | serviceId :: session :: payload =>
      if serviceId < 128 ∧ session < 128 then
        some (⟨serviceId.toUInt16, session.toUInt32⟩, payload)
      else none
  | _ => none

def dnsVisitor : SocketAddr := ⟨.v4 0xcb007109#32, 5353⟩

def dnsRun : Option Udp :=
  Lib.System.run (Udp.step 16 shortDecode) (Udp.start (Vector.replicate 32 7) Session.webGrant)
    [.bind "dns" .udp (some 53) [] false (.ok ⟨53, .udp⟩), .inbound 0 dnsVisitor 0,
      .bulk 0 [1, 0, 104, 105] 1]

theorem replies_isolated_dns :
    ∃ this, dnsRun = some this ∧ this.sent = [⟨0, [1, 0, 104, 105], [104, 105], dnsVisitor⟩] ∧
      ∀ issued ∈ this.issued, issued.header = ⟨1, 0⟩ → issued.visitor = dnsVisitor := by
  obtain ⟨this, ran, sent, length⟩ : ∃ this, dnsRun = some this ∧
      this.sent = [⟨0, [1, 0, 104, 105], [104, 105], dnsVisitor⟩] ∧ this.issued.length = 1 :=
    ⟨_, rfl, rfl, rfl⟩
  have start : (udp (Vector.replicate 32 7) Session.webGrant 16 shortDecode).Reachable
      (Udp.start (Vector.replicate 32 7) Session.webGrant) := .initial rfl
  have reachable := start.run (fun _ _ _ stepped => stepped) _ ran
  have few : ∀ service, this.opened service < 2 ^ 32 := by
    intro service
    have counted : this.opened service ≤ this.issued.length := List.countP_le_length
    omega
  obtain ⟨isolated, -, -⟩ := replies_isolated _ _ _ _ this reachable few
  rw [sent] at isolated
  obtain ⟨header, found, decoded, -, -, -, -, only⟩ := isolated _ (.head _)
  obtain rfl : header = ⟨1, 0⟩ := by
    cases decoded
    rfl
  exact ⟨this, ran, sent, fun issued told headed => (only issued told headed).2⟩

end Example
end Hawse.Proof.Udp
