import Hawse.Server.Session
import Hawse.Proof.Allow

namespace Hawse.Proof.Session
open Hawse.Server

section Session
variable (this : Session)

theorem unbind_getElem? (service other : String) :
    (this.unbind service).2.services[other]? =
      if other = service then none else this.services[other]? := by
  simp only [Session.unbind, Std.ExtTreeMap.getElem?_erase, Std.compare_eq_iff_eq]
  by_cases same : service = other
  · simp [same]
  · simp [same, Ne.symm same]

theorem unbindAll_getElem? (services : List String) (other : String) :
    (this.unbindAll services).services[other]? =
      if other ∈ services then none else this.services[other]? := by
  induction services generalizing this with
  | nil => rfl
  | cons service services ih =>
      show ((this.unbind service).2.unbindAll services).services[other]? = _
      rw [ih, unbind_getElem?]
      by_cases same : other = service
      · simp [same]
      · simp [same]

theorem unbindAll_lastId (services : List String) :
    (this.unbindAll services).lastId = this.lastId := by
  induction services generalizing this with
  | nil => rfl
  | cons service services ih => exact ih (this.unbind service).2

theorem regrant_lastId (policy : Policy) : (this.regrant policy).2.lastId = this.lastId := by
  unfold Session.regrant
  cases policy.lookup this.key with
  | none => rfl
  | some grant =>
      dsimp only
      split_ifs
      · rfl
      · rw [unbindAll_lastId]

theorem unbindAll_grant (services : List String) :
    (this.unbindAll services).grant = this.grant ∧ (this.unbindAll services).key = this.key := by
  induction services generalizing this with
  | nil => exact ⟨rfl, rfl⟩
  | cons service services ih => exact ih (this.unbind service).2

def Loses (grant : Grant) (service : String) : Prop :=
  ∃ bound, this.services[service]? = some bound ∧ bound.fixed = true ∧
    grant.allows bound.port = false

theorem mem_lost (service : String) : service ∈ this.lost ↔ Loses this this.grant service := by
  simp only [Session.lost, List.mem_map, List.mem_filter, Bool.and_eq_true, Bool.not_eq_true']
  constructor
  · rintro ⟨⟨name, bound⟩, ⟨listed, fixed, ungranted⟩, same⟩
    subst same
    exact ⟨bound, Std.ExtTreeMap.mem_toList_iff_getElem?_eq_some.mp listed, fixed, ungranted⟩
  · rintro ⟨bound, held, fixed, ungranted⟩
    exact ⟨(service, bound), ⟨Std.ExtTreeMap.mem_toList_iff_getElem?_eq_some.mpr held, fixed,
      ungranted⟩, rfl⟩

theorem lost_nodup : this.lost.Nodup := by
  have distinct : (this.services.toList.map (·.1)).Nodup := by
    have pairwise := this.services.distinct_keys_toList
    rw [List.Nodup, List.pairwise_map]
    exact pairwise.imp fun different same => different (Std.compare_eq_iff_eq.mpr same)
  exact distinct.sublist (List.filter_sublist.map _)

inductive Regranted (policy : Policy) : List ServerMessage → Session → Prop
  | gone (none : policy.lookup this.key = none) (reason : String) :
      Regranted policy [.shutdown reason] this
  | changed (grant : Grant) (found : policy.lookup this.key = some grant)
      (differs : grant.name ≠ this.grant.name ∨ grant.bind ≠ this.grant.bind ∨
        grant.allow ≠ this.grant.allow) (reason : String) :
      Regranted policy [.shutdown reason] this
  | kept (grant : Grant) (found : policy.lookup this.key = some grant)
      (name : grant.name = this.grant.name) (bind : grant.bind = this.grant.bind)
      (allow : grant.allow = this.grant.allow) (next : Session) (key : next.key = this.key)
      (taken : next.grant = grant)
      (dropped : ∀ service, Loses this grant service → next.services[service]? = none)
      (left : ∀ service, ¬ Loses this grant service →
        next.services[service]? = this.services[service]?)
      (msgs : List ServerMessage) (nodup : msgs.Nodup)
      (told : ∀ msg, msg ∈ msgs ↔
        ∃ service, Loses this grant service ∧ msg = .bindFailed service .notGranted) :
      Regranted policy msgs next

theorem regrant_regranted (policy : Policy) :
    Regranted this policy (this.regrant policy).1 (this.regrant policy).2 := by
  unfold Session.regrant
  cases found : policy.lookup this.key with
  | none => exact .gone found _
  | some grant =>
      dsimp only
      split_ifs with same
      · simp only [Prod.mk.injEq, ne_eq, not_and_or] at same
        exact .changed grant found same _
      · simp only [Prod.mk.injEq, ne_eq, not_not] at same
        obtain ⟨name, bind, allow⟩ := same
        have kept := unbindAll_grant { this with grant } ({ this with grant } : Session).lost
        have lost : ∀ service, service ∈ ({ this with grant } : Session).lost ↔
            Loses this grant service := mem_lost { this with grant }
        refine .kept grant found name bind allow _ kept.2 kept.1 ?_ ?_ _ ?_ ?_
        · intro service loses
          rw [unbindAll_getElem?, if_pos ((lost service).mpr loses)]
        · intro service keeps
          rw [unbindAll_getElem?, if_neg (mt (lost service).mp keeps)]
        · exact (lost_nodup _).map fun _ _ same => by simpa using same
        · intro msg
          simp only [List.mem_map, lost]
          constructor
          · rintro ⟨service, loses, same⟩
            exact ⟨service, loses, same.symm⟩
          · rintro ⟨service, loses, same⟩
            exact ⟨service, loses, same.symm⟩

end Session

theorem claim_granted {grant : Grant} {kind : Kind} {number : UInt16} {ports : PortAllocator}
    {port : Port} (claimed : (Session.claim grant kind (some number) ports).1 = .ok port) :
    grant.allows port = true := by
  unfold Session.claim at claimed
  by_cases granted : grant.allows ⟨number, kind⟩ = true
  · simp only [granted] at claimed
    unfold PortAllocator.claim at claimed
    split_ifs at claimed
    simp_all
  · simp [granted] at claimed

def Walk.Granted (grant : Grant) (this : Walk) : Prop :=
  ∀ port, this.stage = .binding port ∨ this.stage = .leaving (.ok port) →
    this.fixed.isSome → grant.allows port = true

theorem step_walk_granted {grant : Grant} {this next : Walk} (step : Walk.Step grant this next)
    (granted : Walk.Granted grant this) : Walk.Granted grant next ∧ next.fixed = this.fixed := by
  cases step with
  | claim ports claiming =>
      unfold Walk.claim
      cases result : Session.claim grant this.kind this.fixed ports with
      | mk claimed ports' =>
          cases claimed with
          | error reason => exact ⟨by simp [Walk.Granted], rfl⟩
          | ok port =>
              refine ⟨?_, rfl⟩
              intro other same fixed
              obtain rfl : port = other := by simpa using same
              obtain ⟨number, asked⟩ := Option.isSome_iff_exists.mp fixed
              rw [asked] at result
              exact claim_granted (by rw [result])
  | host port accepts binding =>
      unfold Walk.host
      split_ifs with accepted fixed
      · refine ⟨?_, rfl⟩
        intro other same
        obtain rfl : port = other := by simpa using same
        exact granted port (.inl binding)
      · exact ⟨by simp [Walk.Granted], rfl⟩
      · exact ⟨by simp [Walk.Granted], rfl⟩
  | release outcome port refused leaving some_left => exact ⟨granted, rfl⟩

theorem opens_granted {grant : Grant} {kind : Kind} {fixed : Option UInt16} {port : Port}
    (opens : Walk.Opens grant kind fixed (.ok port)) (by_number : fixed.isSome) :
    grant.allows port = true := by
  obtain ⟨last, run, leaving, -⟩ := opens
  have granted : Walk.Granted grant last ∧ last.fixed = fixed := by
    clear leaving
    induction run with
    | refl => exact ⟨by simp [Walk.Granted, Walk.start], rfl⟩
    | tail _ step ih =>
        have next := step_walk_granted step ih.1
        exact ⟨next.1, next.2.trans ih.2⟩
  exact granted.1 port (.inr leaving) (by rwa [granted.2])

theorem reply_cases (this : Serve) (msg : ServerMessage) :
    (this.reply msg = this ∧ ∀ reason, msg ≠ .shutdown reason) ∨ (this.reply msg).ended = true := by
  cases msg with
  | shutdown reason => exact .inr rfl
  | welcome | denied | bound | bindFailed | ping | pong => exact .inl ⟨rfl, by simp⟩

theorem nextId_lt {last id : UInt16} (fresh : Session.nextId last = some id) : last < id := by
  unfold Session.nextId at fresh
  split_ifs at fresh with used
  obtain rfl := Option.some.inj fresh
  have notMax : last.toNat ≠ 65535 := by
    intro max
    exact used (UInt16.toNat_inj.mp max)
  have bounded := last.toNat_lt
  rw [UInt16.lt_iff_toNat_lt, UInt16.toNat_add]
  simp only [UInt16.toNat_one]
  omega

section Ids
variable {last next : UInt16} {id : Option UInt16}

theorem le_next {old : UInt16} (fresh : ∀ new, id = some new → last < new)
    (after : next = id.getD last) (bound : old ≤ last) : old ≤ next := by
  rw [after]
  cases id with
  | none => exact bound
  | some new => exact UInt16.le_trans bound (UInt16.le_of_lt (fresh new rfl))

theorem next_ascends {ids : List UInt16} (increasing : ids.Pairwise (· < ·))
    (bounded : ∀ old ∈ ids, old ≤ last) (fresh : ∀ new, id = some new → last < new)
    (after : next = id.getD last) :
    (ids ++ id.toList).Pairwise (· < ·) ∧ ∀ old ∈ ids ++ id.toList, old ≤ next := by
  constructor
  · rw [List.pairwise_append]
    refine ⟨increasing, ?_, ?_⟩
    · cases id <;> simp
    · intro old member new added
      exact UInt16.lt_of_le_of_lt (bounded old member) (fresh new (Option.mem_toList.mp added))
  · intro old member
    rcases List.mem_append.mp member with member | added
    · exact le_next fresh after (bounded old member)
    · rw [after, Option.mem_toList.mp added]
      exact UInt16.le_refl old

end Ids

section Grants
variable [Ipnet]

def Admits (grant : Grant) (ip : IpAddr) : Prop :=
  grant.allow = [] ∨ ∃ net ∈ grant.allow, net.Covers ip.toCanonical

structure Granted (grant : Grant) (bound : BoundService) : Prop where
  allow : ∃ client, AllowList.effective client grant.allow = some bound.allow
  addr : bound.addr = grant.bind
  port : bound.fixed = true → grant.allows bound.port = true

def AllGranted (this : Session) : Prop :=
  ∀ (service : String) (bound : BoundService), this.services[service]? = some bound →
    Granted this.grant bound

theorem check_ok {this : Session} {service : String} {client : List IpNet} {allow : AllowList}
    {id : UInt16} (checked : this.check service client = .ok (allow, id)) :
    this.services[service]? = none ∧ AllowList.effective client this.grant.allow = some allow ∧
      Session.nextId this.lastId = some id := by
  unfold Session.check at checked
  split at checked
  · cases checked
  · split_ifs at checked with free
    split at checked
    · cases checked
    · rename_i found
      split at checked
      · cases checked
      · rename_i fresh
        simp only [Except.ok.injEq, Prod.mk.injEq] at checked
        refine ⟨?_, by rw [found, checked.1], by rw [fresh, checked.2]⟩
        rw [Std.ExtTreeMap.contains_eq_isSome_getElem?] at free
        exact Option.not_isSome_iff_eq_none.mp free

inductive Answered (this : Session) (service : String) (fixed : Bool) (client : List IpNet)
    (opened : Except BindFailure Port) : ServerMessage → Session → Prop
  | shutdown (used : Session.nextId this.lastId = none) (reason : String) :
      Answered this service fixed client opened (.shutdown reason) this
  | failed (reason : BindFailure) :
      Answered this service fixed client opened (.bindFailed service reason) this
  | bound (id : UInt16) (port : Port) (allow : AllowList) (proxyProtocol : Bool)
      (free : this.services[service]? = none)
      (effective : AllowList.effective client this.grant.allow = some allow)
      (fresh : Session.nextId this.lastId = some id) (got : opened = .ok port) :
      Answered this service fixed client opened (.bound service id port.number this.grant.bind)
        { this with
          lastId := id
          services := this.services.insert service
            ⟨id, port, fixed, this.grant.bind, allow, proxyProtocol⟩ }

theorem check_error {this : Session} {service : String} {client : List IpNet} {reply : ServerMessage}
    (checked : this.check service client = .error reply) :
    (∃ reason, reply = .bindFailed service reason) ∨
      (Session.nextId this.lastId = none ∧ reply = .shutdown Session.usedEveryId) := by
  unfold Session.check at checked
  split at checked
  · cases checked
    exact .inl ⟨_, rfl⟩
  · split_ifs at checked
    · cases checked
      exact .inl ⟨_, rfl⟩
    · split at checked
      · cases checked
        exact .inl ⟨_, rfl⟩
      · split at checked
        · rename_i used
          cases checked
          exact .inr ⟨used, rfl⟩
        · cases checked

theorem bind_answered (this : Session) (service : String) (port : Option UInt16)
    (allow : List IpNet) (proxyProtocol : Bool) (opened : Except BindFailure Port) :
    Answered this service port.isSome allow opened
      (this.bind service port allow proxyProtocol opened).1
      (this.bind service port allow proxyProtocol opened).2 := by
  unfold Session.bind
  cases checked : this.check service allow with
  | error reply =>
      rcases check_error checked with ⟨reason, rfl⟩ | ⟨used, rfl⟩
      · exact .failed reason
      · exact .shutdown used _
  | ok checks =>
      obtain ⟨admitted, id⟩ := checks
      obtain ⟨free, effective, fresh⟩ := check_ok checked
      cases opened with
      | error reason => exact .failed reason
      | ok opened => exact .bound id opened admitted proxyProtocol free effective fresh rfl

theorem bind_granted {this : Session} (service : String) {kind : Kind} {port : Option UInt16}
    (allow : List IpNet) (proxyProtocol : Bool) {opened : Except BindFailure Port}
    (granted : AllGranted this) (opens : Walk.Opens this.grant kind port opened) :
    AllGranted (this.bind service port allow proxyProtocol opened).2 ∧
      (this.bind service port allow proxyProtocol opened).2.grant = this.grant ∧
      (this.bind service port allow proxyProtocol opened).2.key = this.key := by
  have answered := bind_answered this service port allow proxyProtocol opened
  revert answered
  generalize this.bind service port allow proxyProtocol opened = result
  obtain ⟨reply, next⟩ := result
  intro answered
  cases answered with
  | shutdown used reason => exact ⟨granted, rfl, rfl⟩
  | failed reason => exact ⟨granted, rfl, rfl⟩
  | bound id port' admitted proxy free effective fresh got =>
      subst got
      refine ⟨?_, rfl, rfl⟩
      intro other bound held
      simp only [Std.ExtTreeMap.getElem?_insert, Std.compare_eq_iff_eq] at held
      split_ifs at held with same
      · obtain rfl := Option.some.inj held
        exact ⟨⟨allow, effective⟩, rfl, opens_granted opens⟩
      · exact granted other bound held

theorem unbindAll_granted {this : Session} (granted : AllGranted this) (services : List String) :
    AllGranted (this.unbindAll services) := by
  intro service bound held
  rw [unbindAll_getElem?] at held
  split_ifs at held
  rw [(unbindAll_grant this services).1]
  exact granted service bound held

theorem regranted_granted {this next : Session} {policy : Policy} {msgs : List ServerMessage}
    (granted : AllGranted this) (regranted : Regranted this policy msgs next) :
    AllGranted next ∧ next.key = this.key ∧ next.grant.name = this.grant.name ∧
      (policy.lookup this.key = some next.grant ∨ ∃ reason, msgs = [.shutdown reason]) := by
  cases regranted with
  | gone none reason => exact ⟨granted, rfl, rfl, .inr ⟨reason, rfl⟩⟩
  | changed grant found differs reason => exact ⟨granted, rfl, rfl, .inr ⟨reason, rfl⟩⟩
  | kept grant found name bind allow next key taken dropped left msgs nodup told =>
      refine ⟨?_, key, by rw [taken, name], .inl (by rw [taken, found])⟩
      intro service bound held
      have keeps : ¬ Loses this grant service := by
        intro loses
        rw [dropped service loses] at held
        cases held
      rw [left service keeps] at held
      obtain ⟨admitted, addr, port⟩ := granted service bound held
      rw [taken]
      refine ⟨by rwa [allow], addr.trans bind.symm, ?_⟩
      intro fixed
      by_contra ungranted
      exact keeps ⟨bound, held, fixed, by simpa using ungranted⟩

/-- A session that has not ended is under a grant its checks were made against, and that is the
policy's once the policy is taken up, unless a `Shutdown` is on its way. -/
structure Inv (key : PublicKey) (first : Grant) (this : Serve) : Prop where
  owner : this.session.key = key
  name : this.session.grant.name = first.name
  granted : AllGranted this.session
  taken : this.changed = false → this.policy.lookup key = some this.session.grant ∨
    ∃ reason, this.pending = [.shutdown reason]

theorem step_inv {key : PublicKey} {first : Grant} {this next : Serve} {event : Serve.Event}
    (inv : Inv key first this) (step : (serve key first).step this event next) :
    next.ended = true ∨ Inv key first next := by
  obtain ⟨running, real, sent, stepped⟩ := step
  cases event with
  | reload policy =>
      simp only [Serve.step, Option.some.injEq, Prod.mk.injEq] at stepped
      obtain ⟨-, rfl⟩ := stepped
      exact .inr ⟨inv.owner, inv.name, inv.granted, by simp⟩
  | pop =>
      simp only [Serve.step] at stepped
      cases top : this.pending.getLast? with
      | none => simp [top] at stepped
      | some msg =>
          simp only [top, Option.some.injEq, Prod.mk.injEq] at stepped
          obtain ⟨-, rfl⟩ := stepped
          rcases reply_cases { this with pending := this.pending.dropLast } msg with
            ⟨same, notLast⟩ | ended
          · rw [same]
            refine .inr ⟨inv.owner, inv.name, inv.granted, ?_⟩
            intro unchanged
            rcases inv.taken unchanged with taken | ⟨reason, only⟩
            · exact .inl taken
            · rw [only] at top
              exact absurd (Option.some.inj top).symm (notLast reason)
          · exact .inl ended
  | ping =>
      simp only [Serve.step, Option.some.injEq, Prod.mk.injEq] at stepped
      obtain ⟨-, rfl⟩ := stepped
      exact .inr ⟨inv.owner, inv.name, inv.granted, inv.taken⟩
  | regrant pending =>
      simp only [Serve.step] at stepped
      split_ifs at stepped with enabled
      simp only [Option.some.injEq, Prod.mk.injEq] at stepped
      obtain ⟨-, rfl⟩ := stepped
      have result := regranted_granted inv.granted (regrant_regranted this.session this.policy)
      obtain ⟨granted, sameKey, sameName, taken⟩ := result
      refine .inr ⟨sameKey.trans inv.owner, sameName.trans inv.name, granted, ?_⟩
      intro _
      rw [inv.owner] at taken
      rcases taken with taken | ⟨reason, only⟩
      · exact .inl taken
      · rw [only] at enabled
        exact .inr ⟨reason, List.perm_singleton.mp enabled.2.2⟩
  | heard msg opened =>
      simp only [Serve.step] at stepped
      split_ifs at stepped with idle
      have taken : this.changed = false → this.policy.lookup key = some this.session.grant := by
        intro unchanged
        rcases inv.taken unchanged with taken | ⟨reason, only⟩
        · exact taken
        · rw [idle] at only
          cases only
      cases msg with
      | bind service kind port allow proxyProtocol =>
          simp only [Option.some.injEq, Prod.mk.injEq] at stepped
          obtain ⟨-, rfl⟩ := stepped
          obtain ⟨granted, sameGrant, sameKey⟩ :=
            bind_granted service allow proxyProtocol inv.granted real
          rcases reply_cases { this with
              session := (this.session.bind service port allow proxyProtocol opened).2 }
              (this.session.bind service port allow proxyProtocol opened).1 with ⟨same, -⟩ | ended
          · rw [same]
            refine .inr ⟨sameKey.trans inv.owner, ?_, granted, ?_⟩
            · simp only [sameGrant, inv.name]
            · intro unchanged
              simp only [sameGrant]
              exact .inl (taken unchanged)
          · exact .inl ended
      | unbind service =>
          simp only [Option.some.injEq, Prod.mk.injEq] at stepped
          obtain ⟨-, rfl⟩ := stepped
          exact .inr ⟨inv.owner, inv.name, unbindAll_granted inv.granted [service],
            fun unchanged => .inl (taken unchanged)⟩
      | ping nonce =>
          simp only [Option.some.injEq, Prod.mk.injEq] at stepped
          obtain ⟨-, rfl⟩ := stepped
          exact .inr inv
      | pong nonce =>
          simp only [Option.some.injEq, Prod.mk.injEq] at stepped
          obtain ⟨-, rfl⟩ := stepped
          exact .inr inv
      | hello name agent =>
          simp only [Option.some.injEq, Prod.mk.injEq] at stepped
          obtain ⟨-, rfl⟩ := stepped
          exact .inl rfl
  | stop =>
      simp only [Serve.step, Option.some.injEq, Prod.mk.injEq] at stepped
      obtain ⟨-, rfl⟩ := stepped
      exact .inl rfl

theorem reachable_inv {key : PublicKey} {first : Grant} {this : Serve}
    (reachable : (serve key first).Reachable this) : this.ended = true ∨ Inv key first this := by
  apply reachable.invariant (fun this => this.ended = true ∨ Inv key first this)
  · intro start ⟨policy, found, same⟩
    rw [same]
    refine .inr ⟨rfl, rfl, ?_, fun _ => .inl found⟩
    intro service bound held
    simp [Serve.start, Session.new] at held
  · intro before event after _ inv step
    rcases inv with ended | inv
    · rw [step.1] at ended
      cases ended
    · exact step_inv inv step

theorem session_within_grant [Ipnet.Documented] (key : PublicKey) (first : Grant) (this : Serve)
    (reachable : (serve key first).Reachable this) :
    (this.ended = false → this.changed = false → this.pending = [] →
      ∃ grant, this.policy.lookup key = some grant ∧ grant.name = first.name ∧
        ∀ (service : String) (bound : BoundService), this.session.services[service]? = some bound →
          (∀ ip, bound.allow.permits ip = true → Admits grant ip) ∧ bound.addr = grant.bind ∧
            (bound.fixed = true → grant.allows bound.port = true)) ∧
    ∀ policy, Regranted this.session policy (this.session.regrant policy).1
      (this.session.regrant policy).2 := by
  refine ⟨?_, regrant_regranted this.session⟩
  intro running unchanged idle
  rcases reachable_inv reachable with ended | inv
  · rw [running] at ended
    cases ended
  · rcases inv.taken unchanged with found | ⟨reason, only⟩
    · refine ⟨this.session.grant, found, inv.name, ?_⟩
      intro service bound held
      obtain ⟨⟨client, effective⟩, addr, port⟩ := inv.granted service bound held
      exact ⟨fun ip permits => ((effective_permits effective ip).mp permits).2, addr, port⟩
    · rw [idle] at only
      cases only

end Grants

section Example
attribute [local instance] ipnet

def webGrant : Grant := ⟨"nas", [⟨80, 90, .tcp⟩], .v4 0, []⟩

def webPolicy : Policy := ⟨Std.ExtTreeMap.empty.insert (Vector.replicate 32 7) webGrant⟩

theorem web_opens {number : UInt16} (allowed : webGrant.allows ⟨number, .tcp⟩ = true) :
    Walk.Opens webGrant .tcp (some number) (.ok ⟨number, .tcp⟩) := by
  have claimed : ((Walk.start .tcp (some number)).claim webGrant (.new ⟨40000, 50000⟩)).1 =
      ⟨.tcp, some number, [], .binding ⟨number, .tcp⟩⟩ := by
    simp [Walk.claim, Walk.start, Session.claim, allowed, PortAllocator.claim, PortAllocator.new]
  have claims := @Walk.Step.claim webGrant (Walk.start .tcp (some number)) (.new ⟨40000, 50000⟩) rfl
  rw [claimed] at claims
  exact ⟨⟨.tcp, some number, [], .leaving (.ok ⟨number, .tcp⟩)⟩,
    .tail (.single claims) (.host _ ⟨number, .tcp⟩ true rfl), rfl, rfl⟩

def webBound : Session :=
  ((Session.new (Vector.replicate 32 7) webGrant).bind "web" (some 80) [] false
    (.ok ⟨80, .tcp⟩)).2

def altBound : Session := (webBound.bind "alt" (some 85) [] false (.ok ⟨85, .tcp⟩)).2

def narrowPolicy : Policy :=
  ⟨Std.ExtTreeMap.empty.insert (Vector.replicate 32 7) ⟨"nas", [⟨81, 90, .tcp⟩], .v4 0, []⟩⟩

theorem narrow_lost : (altBound.regrant narrowPolicy).1 = [.bindFailed "web" .notGranted] := by decide +kernel

def narrowed : Serve := ⟨(altBound.regrant narrowPolicy).2, narrowPolicy, false, [], 0, false⟩

theorem web_turns {this next : Serve} (reachable : (serve (Vector.replicate 32 7) webGrant).Reachable this)
    (event : Serve.Event) (running : this.ended = false) (real : event.Real this) {sent : Option ServerMessage}
    (stepped : this.step event = some (sent, next)) : (serve (Vector.replicate 32 7) webGrant).Reachable next :=
  reachable.next ⟨running, real, sent, stepped⟩

/-- A reload takes the port of one of two services out of the grant. -/
theorem session_within_grant_web :
    (serve (Vector.replicate 32 7) webGrant).Reachable narrowed ∧
    narrowed.session.services["web"]? = none ∧
    ∃ grant bound, narrowPolicy.lookup (Vector.replicate 32 7) = some grant ∧ grant.name = "nas" ∧
      narrowed.session.services["alt"]? = some bound ∧ bound.addr = grant.bind ∧ grant.allows bound.port = true := by
  have documented := ipnet_documented
  have start : (serve (Vector.replicate 32 7) webGrant).Reachable
      (Serve.start (Vector.replicate 32 7) webGrant webPolicy) :=
    .initial ⟨webPolicy, by simp [Policy.lookup, webPolicy], rfl⟩
  have web := web_turns start (.heard (.bind "web" .tcp (some 80) [] false) (.ok ⟨80, .tcp⟩)) rfl (web_opens (by decide)) rfl
  have alt := web_turns web (.heard (.bind "alt" .tcp (some 85) [] false) (.ok ⟨85, .tcp⟩)) rfl (web_opens (by decide)) rfl
  have reloaded := web_turns alt (.reload narrowPolicy) rfl trivial rfl
  have regranted : (serve (Vector.replicate 32 7) webGrant).Reachable
      ⟨(altBound.regrant narrowPolicy).2, narrowPolicy, false, [.bindFailed "web" .notGranted], 0, false⟩ := by
    apply web_turns reloaded (.regrant [.bindFailed "web" .notGranted]) rfl trivial
    apply if_pos
    refine ⟨rfl, rfl, ?_⟩
    exact .of_eq narrow_lost.symm
  have told : (serve (Vector.replicate 32 7) webGrant).Reachable narrowed := web_turns regranted .pop rfl trivial rfl
  have lost : narrowed.session.services["web"]? = none := by decide +kernel
  have kept : narrowed.session.services["alt"]?.map (·.fixed) = some true := by decide +kernel
  obtain ⟨bound, held, fixed⟩ := Option.map_eq_some_iff.mp kept
  obtain ⟨rest, -⟩ := session_within_grant _ _ _ told
  obtain ⟨grant, found, name, within⟩ := rest rfl rfl rfl
  obtain ⟨-, addr, allowed⟩ := within "alt" bound held
  exact ⟨told, lost, grant, bound, found, name, held, addr, allowed fixed⟩

end Example
end Hawse.Proof.Session
