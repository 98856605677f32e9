import Hawse.Client.Services
import Hawse.Lib.Exchange

namespace Hawse.Proof.Client
open Lib Hawse.Client
open Std (ExtTreeMap)

def asked (service : String) : ClientMessage → Option Ask
  | .bind other _ _ _ _ => if other = service then some .bind else none
  | .unbind other => if other = service then some .unbind else none
  | _ => none

def asks (service : String) (msgs : List ClientMessage) : List Ask := msgs.filterMap (asked service)

theorem asks_append (service : String) (first second : List ClientMessage) :
    asks service (first ++ second) = asks service first ++ asks service second :=
  List.filterMap_append

section Entries
variable {β : Type} {service : String}

theorem filter_key {entries : List (String × β)} (distinct : (entries.map (·.1)).Nodup)
    {value : β} (listed : (service, value) ∈ entries) :
    (entries.filter fun entry => entry.1 = service) = [(service, value)] := by
  induction entries with
  | nil => cases listed
  | cons first entries ih =>
      simp only [List.map_cons, List.nodup_cons] at distinct
      rcases List.mem_cons.mp listed with rfl | listed
      · rw [List.filter_cons_of_pos (by simp), List.filter_eq_nil_iff.mpr]
        intro other member
        simp only [decide_eq_true_eq]
        intro same
        exact distinct.1 (List.mem_map.mpr ⟨other, member, same⟩)
      · have other : first.1 ≠ service := by
          intro same
          exact distinct.1 (List.mem_map.mpr ⟨_, listed, same.symm⟩)
        rw [List.filter_cons_of_neg (by simpa using other)]
        exact ih distinct.2 listed

theorem toList_distinct (map : ExtTreeMap String β) : (map.toList.map (·.1)).Nodup := by
  rw [List.Nodup, List.pairwise_map]
  exact map.distinct_keys_toList.imp fun different same => different (Std.compare_eq_iff_eq.mpr same)

theorem toList_filter_key (map : ExtTreeMap String β) (service : String) :
    (map.toList.filter fun entry => entry.1 = service) =
      (map[service]?.map fun value => (service, value)).toList := by
  cases found : map[service]? with
  | some value =>
      have listed := ExtTreeMap.mem_toList_iff_getElem?_eq_some.mpr found
      rw [filter_key (toList_distinct map) listed]
      rfl
  | none =>
      rw [List.filter_eq_nil_iff.mpr]
      · rfl
      · intro entry listed
        simp only [decide_eq_true_eq]
        intro same
        subst same
        have held := ExtTreeMap.mem_toList_iff_getElem?_eq_some.mp listed
        rw [found] at held
        cases held

theorem filter_key_of_filter (map : ExtTreeMap String β) (keep : String × β → Bool) :
    ((map.toList.filter keep).filter fun entry => entry.1 = service) =
      ((map[service]?.filter fun value => keep (service, value)).map
        fun value => (service, value)).toList := by
  rw [List.filter_filter]
  have swap : (fun entry : String × β => decide (entry.1 = service) && keep entry) =
      fun entry => keep entry && decide (entry.1 = service) := by
    funext entry
    rw [Bool.and_comm]
  rw [swap, ← List.filter_filter, toList_filter_key]
  cases map[service]? with
  | none => rfl
  | some value => cases kept : keep (service, value) <;> simp [Option.filter, kept]

theorem asks_map {message : String × β → ClientMessage} {ask : Ask}
    (aims : ∀ entry, asked service (message entry) = if entry.1 = service then some ask else none)
    (entries : List (String × β)) :
    asks service (entries.map message) =
      (entries.filter fun entry => entry.1 = service).map fun _ => ask := by
  induction entries with
  | nil => rfl
  | cons entry entries ih =>
      rw [List.map_cons, asks, List.filterMap_cons, aims, ← asks, ih]
      by_cases same : entry.1 = service
      · simp [same]
      · simp [same]

end Entries

theorem asked_bind (service other : String) (expose : Expose) :
    asked service (Client.bind other expose) = if other = service then some .bind else none := by
  unfold Client.bind
  cases expose.port <;> rfl

theorem asks_greeting (exposed : ExtTreeMap String Expose) (service : String) :
    asks service (Serve.greeting exposed) = Exchange.binds exposed[service]?.isSome := by
  have listed : asks service (Serve.greeting exposed) = _ :=
    asks_map (fun entry => asked_bind service entry.1 entry.2) exposed.toList
  rw [listed, toList_filter_key]
  cases exposed[service]? <;> rfl

section Rebind
variable (exposed next : ExtTreeMap String Expose) (retry : Finset String) (service : String)

def Touched : Prop := service ∈ retry ∨ exposed[service]? ≠ next[service]?

instance : Decidable (Touched exposed next retry service) :=
  inferInstanceAs (Decidable (_ ∨ _))

theorem differs_iff {expose : Expose} (held : exposed[service]? = some expose) :
    differs retry next service expose = true ↔ Touched exposed next retry service := by
  simp only [differs, Touched, held, decide_eq_true_eq]
  exact or_congr_right ne_comm

theorem asks_rebind :
    asks service (rebind exposed next retry) =
      if Touched exposed next retry service then
        (exposed[service]?.map fun _ => Ask.unbind).toList ++
          (next[service]?.map fun _ => Ask.bind).toList
      else [] := by
  unfold rebind
  rw [asks_append, asks_map (fun entry => rfl), filter_key_of_filter,
    asks_map (fun entry => asked_bind service entry.1 entry.2), filter_key_of_filter]
  have unbinds : (exposed[service]?.filter fun expose => differs retry next service expose) =
      if Touched exposed next retry service then exposed[service]? else none := by
    cases held : exposed[service]? with
    | none => simp
    | some expose => simp [Option.filter, differs_iff exposed next retry service held]
  have binds : (next[service]?.filter fun expose => differs retry exposed service expose) =
      if Touched exposed next retry service then next[service]? else none := by
    have same : Touched next exposed retry service ↔ Touched exposed next retry service := by
      exact or_congr_right ne_comm
    cases held : next[service]? with
    | none => simp
    | some expose =>
        simp [Option.filter, differs_iff next exposed retry service held, same]
  rw [unbinds, binds]
  split_ifs with touched
  · cases exposed[service]? <;> cases next[service]? <;> rfl
  · rfl

end Rebind

section Fields
variable (this : State) (service other : String)

theorem left_insert (services : Services) (count : Nat) :
    Services.left { services with unanswered := services.unanswered.insert service count } other =
      if other = service then count else services.left other := by
  simp only [Services.left, ExtTreeMap.getElem?_insert, Std.compare_eq_iff_eq]
  by_cases same : service = other
  · simp [same]
  · simp [same, Ne.symm same]

theorem ids_forgetService :
    (this.forgetService service).services.ids[other]? =
      if other = service then none else this.services.ids[other]? := by
  simp only [State.forgetService, ExtTreeMap.getElem?_erase, Std.compare_eq_iff_eq]
  by_cases same : service = other
  · simp [same]
  · simp [same, Ne.symm same]

theorem tell_fields (msg : ClientMessage) :
    (this.tell msg).services.exposed = this.services.exposed ∧
    (this.tell msg).services.left service =
      this.services.left service + (asks service [msg]).count .bind ∧
    (this.tell msg).services.ids[service]? =
      if .unbind ∈ asks service [msg] then none else this.services.ids[service]? := by
  cases msg with
  | bind other kind port allow proxyProtocol =>
      refine ⟨rfl, ?_, ?_⟩
      · simp only [State.tell, Services.asked, left_insert, asks, asked, List.filterMap_cons,
          List.filterMap_nil]
        by_cases same : service = other
        · simp [same]
        · simp [same, Ne.symm same]
      · by_cases same : other = service <;> simp [State.tell, Services.asked, asks, asked, same]
  | unbind other =>
      refine ⟨rfl, ?_, ?_⟩
      · by_cases same : other = service <;>
          simp [State.tell, State.forgetService, Services.left, asks, asked, same]
      · rw [State.tell, ids_forgetService]
        by_cases same : service = other
        · simp [asks, asked, same]
        · simp [asks, asked, same, Ne.symm same]
  | hello | ping | pong => exact ⟨rfl, rfl, rfl⟩

theorem foldl_tell_fields (msgs : List ClientMessage) :
    (msgs.foldl State.tell this).services.exposed = this.services.exposed ∧
    (msgs.foldl State.tell this).services.left service =
      this.services.left service + (asks service msgs).count .bind ∧
    (msgs.foldl State.tell this).services.ids[service]? =
      if .unbind ∈ asks service msgs then none else this.services.ids[service]? := by
  induction msgs generalizing this with
  | nil => exact ⟨rfl, rfl, rfl⟩
  | cons msg msgs ih =>
      obtain ⟨exposed, left, ids⟩ := tell_fields this service msg
      obtain ⟨exposed', left', ids'⟩ := ih (this.tell msg)
      rw [List.foldl_cons, show msg :: msgs = [msg] ++ msgs from rfl, asks_append,
        List.count_append, exposed', left', ids', exposed, left, ids]
      refine ⟨rfl, by omega, ?_⟩
      by_cases first : .unbind ∈ asks service [msg] <;>
        by_cases later : .unbind ∈ asks service msgs <;> simp [first, later]

theorem reexpose_fields (next : ExtTreeMap String Expose) :
    (this.reexpose next).2.services.exposed = next ∧
    (this.reexpose next).2.services.left service =
      this.services.left service + (asks service (this.reexpose next).1).count .bind ∧
    (this.reexpose next).2.services.ids[service]? =
      if .unbind ∈ asks service (this.reexpose next).1 then none
      else this.services.ids[service]? := by
  have fields := foldl_tell_fields
    { this with services := { this.services with failed := ∅ } } service
    (rebind this.services.exposed next this.services.failed)
  exact ⟨rfl, fields.2.1, fields.2.2⟩

theorem asks_reexpose (next : ExtTreeMap String Expose) :
    asks service (this.reexpose next).1 =
      if Touched this.services.exposed next this.services.failed service then
        Exchange.unbinds this.services.exposed[service]?.isSome ++
          Exchange.binds next[service]?.isSome
      else [] := by
  show asks service (rebind _ _ _) = _
  rw [asks_rebind]
  cases this.services.exposed[service]? <;> cases next[service]? <;> rfl

theorem untouched {exposed next : ExtTreeMap String Expose} {retry : Finset String} {service : String}
    (untold : ¬ Touched exposed next retry service) : next[service]? = exposed[service]? := by
  by_contra differs
  exact untold (.inr (Ne.symm differs))

end Fields

def answer : ServerMessage → Option (String × Option UInt16)
  | .bound service id _ _ => some (service, some id)
  | .bindFailed service _ => some (service, none)
  | _ => none

section Heard
variable (this : State) (remote : SocketAddr) {msg : ServerMessage}

theorem heard_other (quiet : answer msg = none) : (this.heard remote msg).2 = this := by
  cases msg with
  | bound | bindFailed => simp [answer] at quiet
  | welcome | denied | shutdown | ping | pong => rfl

theorem heard_reply {reply : Option ClientMessage} (service : String) (quiet : answer msg = none)
    (replied : (this.heard remote msg).1 = .ok reply) : asks service reply.toList = [] := by
  cases msg with
  | bound | bindFailed => simp [answer] at quiet
  | welcome | denied | shutdown => cases replied
  | pong nonce =>
      cases replied
      rfl
  | ping nonce =>
      cases replied
      rfl

def counted (service : String) : State :=
  { this with services := (this.services.answered service).2 }

def refused (service : String) : State :=
  { this.forgetService service with services :=
    { (this.forgetService service).services with
      failed := insert service (this.forgetService service).services.failed } }

inductive Heard (service : String) : Option UInt16 → State → Prop
  | stale (id : Option UInt16) (ignored : this.services.left service - 1 ≠ 0 ∨
      (id.isSome ∧ this.services.exposed[service]? = none)) :
      Heard service id (counted this service)
  | bound (id : UInt16) (expose : Expose) (listener : SocketAddr)
      (last : this.services.left service - 1 = 0)
      (wanted : this.services.exposed[service]? = some expose) :
      Heard service (some id) ((counted this service).takeUp service id expose listener)
  | failed (last : this.services.left service - 1 = 0) :
      Heard service none (refused (counted this service) service)

theorem heard_heard {service : String} {id : Option UInt16} (answers : answer msg = some (service, id)) :
    (this.heard remote msg).1 = .ok none ∧ Heard this service id (this.heard remote msg).2 := by
  cases msg with
  | bound other id' port address =>
      simp only [answer, Option.some.injEq, Prod.mk.injEq] at answers
      obtain ⟨rfl, rfl⟩ := answers
      simp only [State.heard, Services.answered]
      by_cases last : this.services.left other - 1 = 0
      · cases wanted : this.services.exposed[other]? with
        | none => exact ⟨rfl, .stale _ (.inr ⟨rfl, wanted⟩)⟩
        | some expose =>
            simp only [last, decide_true, Option.filter_some, ↓reduceIte]
            exact ⟨trivial, last ▸ .bound id' expose _ last wanted⟩
      · have ignored : (this.services.exposed[other]?.filter fun _ => decide
            (this.services.left other - 1 = 0)) = none := by
          cases this.services.exposed[other]? <;> simp [last]
        rw [ignored]
        exact ⟨rfl, .stale _ (.inl last)⟩
  | bindFailed other reason =>
      simp only [answer, Option.some.injEq, Prod.mk.injEq] at answers
      obtain ⟨rfl, rfl⟩ := answers
      simp only [State.heard, Services.answered]
      by_cases last : this.services.left other - 1 = 0
      · simp only [last, decide_true, Bool.not_true, Bool.false_eq_true, ↓reduceIte]
        exact ⟨trivial, last ▸ .failed last⟩
      · simp only [last, decide_false, Bool.not_false, ↓reduceIte]
        exact ⟨trivial, .stale _ (.inl last)⟩
  | welcome | denied | shutdown | ping | pong => simp [answer] at answers

theorem takeUp_fields (service : String) (id : UInt16) (expose : Expose) (listener : SocketAddr) :
    (this.takeUp service id expose listener).services =
      { this.services with
        failed := this.services.failed.erase service, ids := this.services.ids.insert service id } := by
  unfold State.takeUp State.registerBound
  cases expose.port.kind <;> rfl

theorem heard_fields {service : String} {id : Option UInt16} {next : State}
    (heard : Heard this service id next) (other : String) :
    next.services.exposed = this.services.exposed ∧
    next.services.left other =
      (if other = service then this.services.left service - 1 else this.services.left other) ∧
    next.services.ids[other]? =
      if other = service then Exchange.idAfter this.services.exposed[service]?.isSome
        (this.services.left service - 1 = 0) id this.services.ids[service]?
      else this.services.ids[other]? := by
  have left : (counted this service).services.left other =
      if other = service then this.services.left service - 1 else this.services.left other := by
    simp only [counted, Services.answered, left_insert]
  cases heard with
  | stale _ ignored =>
      refine ⟨rfl, left, ?_⟩
      by_cases same : other = service
      · subst same
        rcases ignored with notLast | ⟨isBound, gone⟩
        · simp [Exchange.idAfter, notLast, counted, Services.answered]
        · obtain ⟨bound, rfl⟩ := Option.isSome_iff_exists.mp isBound
          simp [Exchange.idAfter, gone, counted, Services.answered]
      · simp [same, counted, Services.answered]
  | bound id expose listener last wanted =>
      rw [takeUp_fields]
      refine ⟨rfl, left, ?_⟩
      simp only [ExtTreeMap.getElem?_insert, Std.compare_eq_iff_eq]
      by_cases same : service = other
      · simp [same, Exchange.idAfter, same ▸ last, same ▸ wanted]
      · simp [same, Ne.symm same, counted, Services.answered]
  | failed last =>
      refine ⟨rfl, left, ?_⟩
      show ((counted this service).forgetService service).services.ids[other]? = _
      rw [ids_forgetService]
      by_cases same : other = service
      · simp [same, Exchange.idAfter, last]
      · simp [same, counted, Services.answered]

theorem heard_exposed : (this.heard remote msg).2.services.exposed = this.services.exposed := by
  cases answered : answer msg with
  | none => rw [heard_other this remote answered]
  | some found => exact (heard_fields this (heard_heard this remote answered).2 found.1).1

end Heard

/-- Once the loop has taken up what the last reload published, it exposes that. -/
def Taken (this : Serve) : Prop := this.changed = false → this.state.services.exposed = this.wanted

theorem Taken.step {this next : Serve} {remote : SocketAddr} {event : Serve.Event}
    {sent : Except ClientError (Option ClientMessage)} (taken : Taken this)
    (stepped : this.step remote event = some (sent, next)) : Taken next := by
  cases event with
  | reload wanted =>
      obtain ⟨-, rfl⟩ := Prod.mk.inj (Option.some.inj stepped)
      intro unchanged
      cases unchanged
  | pop =>
      simp only [Serve.step] at stepped
      split at stepped
      · cases stepped
      · obtain ⟨-, rfl⟩ := Prod.mk.inj (Option.some.inj stepped)
        exact taken
  | changed =>
      simp only [Serve.step] at stepped
      split_ifs at stepped
      obtain ⟨-, rfl⟩ := Prod.mk.inj (Option.some.inj stepped)
      exact fun _ => rfl
  | ping =>
      obtain ⟨-, rfl⟩ := Prod.mk.inj (Option.some.inj stepped)
      exact taken
  | heard msg =>
      obtain ⟨-, rfl⟩ := Prod.mk.inj (Option.some.inj stepped)
      exact fun unchanged => (heard_exposed this.state remote).trans (taken unchanged)

/-- What the two maps hold under `id` for a service with settings `expose`. -/
def Entry (this : State) (id : UInt16) (service : String) (expose : Expose) : Prop :=
  match expose.port.kind with
  | .tcp => this.targets[id]? = some ⟨service, expose.localAddr, expose.proxyProtocol⟩ ∧
      this.udp[id]? = none
  | .udp => this.targets[id]? = none ∧ ∃ found, this.udp[id]? = some found ∧
      found.service = service ∧ found.id = id ∧ found.localAddr = expose.localAddr ∧
      found.proxy.isSome = expose.proxyProtocol

/-- The two maps hold the ids in `ids`, with their services' settings, and nothing else. -/
structure Registered (settings : String → Option Expose) (this : State) : Prop where
  entry : ∀ (service : String) (id : UInt16), this.services.ids[service]? = some id →
    ∃ expose, settings service = some expose ∧ Entry this id service expose
  only : ∀ id : UInt16, (∀ service : String, this.services.ids[service]? ≠ some id) →
    this.targets[id]? = none ∧ this.udp[id]? = none

section Registry
variable {settings : String → Option Expose} {this : State}

theorem Entry.service_eq {id : UInt16} {service other : String} {expose expose' : Expose}
    (first : Entry this id service expose) (second : Entry this id other expose') :
    service = other := by
  unfold Entry at first second
  split at first <;> split at second
  · simpa using congrArg (Option.map Target.service) (first.1.symm.trans second.1)
  · rw [second.1] at first
    cases first.1
  · rw [first.1] at second
    cases second.1
  · obtain ⟨-, found, held, rfl, -⟩ := first
    obtain ⟨-, found', held', rfl, -⟩ := second
    rw [held] at held'
    rw [Option.some.inj held']

theorem Entry.congr {next : State} {id : UInt16} {service : String} {expose : Expose}
    (entry : Entry this id service expose) (targets : next.targets[id]? = this.targets[id]?)
    (udp : next.udp[id]? = this.udp[id]?) : Entry next id service expose := by
  unfold Entry at *
  rw [targets, udp]
  exact entry

theorem Registered.injective (registered : Registered settings this) {service other : String}
    {id : UInt16} (first : this.services.ids[service]? = some id)
    (second : this.services.ids[other]? = some id) : service = other := by
  obtain ⟨_, _, entry⟩ := registered.entry service id first
  obtain ⟨_, _, entry'⟩ := registered.entry other id second
  exact entry.service_eq entry'

theorem Registered.of_ids {next : State} (registered : Registered settings this)
    (ids : next.services.ids = this.services.ids) (targets : next.targets = this.targets)
    (udp : next.udp = this.udp) : Registered settings next := by
  constructor
  · intro service id held
    rw [ids] at held
    obtain ⟨expose, known, entry⟩ := registered.entry service id held
    exact ⟨expose, known, entry.congr (by rw [targets]) (by rw [udp])⟩
  · intro id unused
    rw [ids] at unused
    rw [targets, udp]
    exact registered.only id unused

theorem Registered.of_settings (settings' : String → Option Expose)
    (registered : Registered settings this)
    (same : ∀ (service : String) (id : UInt16), this.services.ids[service]? = some id →
      settings' service = settings service) : Registered settings' this := by
  refine ⟨?_, registered.only⟩
  intro service id held
  rw [same service id held]
  exact registered.entry service id held

theorem new_ids (exposed : ExtTreeMap String Expose) (service : String) :
    (State.new exposed).services.ids[service]? = none :=
  ExtTreeMap.getElem?_empty

theorem new_left (exposed : ExtTreeMap String Expose) (service : String) :
    (State.new exposed).services.left service = (Exchange.binds exposed[service]?.isSome).length := by
  show ((exposed.map fun _ _ => 1)[service]?).getD 0 = _
  rw [ExtTreeMap.getElem?_map]
  cases exposed[service]? <;> rfl

theorem Registered.new (exposed : ExtTreeMap String Expose) : Registered settings (State.new exposed) := by
  constructor
  · intro service id held
    cases (new_ids exposed service).symm.trans held
  · intro id unused
    exact ⟨ExtTreeMap.getElem?_empty, ExtTreeMap.getElem?_empty⟩

def Holds (this : State) (service : String) (id : UInt16) : Prop :=
  (∃ target, this.targets[id]? = some target ∧ target.service = service) ∨
    ∃ found, this.udp[id]? = some found ∧ found.service = service

theorem Entry.holds {id : UInt16} {service : String} {expose : Expose}
    (entry : Entry this id service expose) : Holds this service id := by
  unfold Entry at entry
  split at entry
  · exact .inl ⟨_, entry.1, rfl⟩
  · obtain ⟨-, found, held, same, -⟩ := entry
    exact .inr ⟨found, held, same⟩

theorem Holds.service_eq {id : UInt16} {service other : String} {expose : Expose}
    (holds : Holds this service id) (entry : Entry this id other expose) : service = other := by
  unfold Entry at entry
  rcases holds with ⟨target, held, rfl⟩ | ⟨found, held, rfl⟩
  · split at entry
    · rw [held] at entry
      exact congrArg Target.service (Option.some.inj entry.1)
    · rw [held] at entry
      cases entry.1
  · split at entry
    · rw [held] at entry
      cases entry.2
    · obtain ⟨-, found', held', same, -⟩ := entry
      rw [held] at held'
      rw [Option.some.inj held', same]

theorem Registered.present (registered : Registered settings this) {id : UInt16}
    (present : id ∈ this.targets ∨ id ∈ this.udp) :
    ∃ service : String, this.services.ids[service]? = some id := by
  by_contra unused
  push Not at unused
  obtain ⟨noTarget, noUdp⟩ := registered.only id unused
  rw [ExtTreeMap.mem_iff_isSome_getElem?, ExtTreeMap.mem_iff_isSome_getElem?, noTarget, noUdp] at present
  simp at present

theorem Registered.holds_iff (registered : Registered settings this) {service : String} {id : UInt16} :
    Holds this service id ↔ this.services.ids[service]? = some id := by
  constructor
  · intro holds
    have present : id ∈ this.targets ∨ id ∈ this.udp := by
      rw [ExtTreeMap.mem_iff_isSome_getElem?, ExtTreeMap.mem_iff_isSome_getElem?]
      rcases holds with ⟨target, held, -⟩ | ⟨found, held, -⟩
      · exact .inl (Option.isSome_of_eq_some held)
      · exact .inr (Option.isSome_of_eq_some held)
    obtain ⟨other, held⟩ := registered.present present
    obtain ⟨expose, -, entry⟩ := registered.entry other id held
    rw [holds.service_eq entry]
    exact held
  · intro held
    obtain ⟨expose, -, entry⟩ := registered.entry service id held
    exact entry.holds

theorem forget_getElem? (this : State) (id : Option UInt16) (other : UInt16) :
    (this.forget id).targets[other]? = (if id = some other then none else this.targets[other]?) ∧
    (this.forget id).udp[other]? = if id = some other then none else this.udp[other]? := by
  cases id with
  | none => exact ⟨rfl, rfl⟩
  | some id =>
      simp only [State.forget, ExtTreeMap.getElem?_erase, Std.compare_eq_iff_eq, Option.some.injEq,
        and_self]

theorem Registered.forgetService (registered : Registered settings this) (service : String) :
    Registered settings (this.forgetService service) := by
  have maps := forget_getElem? this this.services.ids[service]?
  constructor
  · intro other id held
    rw [ids_forgetService] at held
    split_ifs at held with same
    obtain ⟨expose, known, entry⟩ := registered.entry other id held
    have notIt : this.services.ids[service]? ≠ some id := by
      intro also
      exact same (registered.injective held also)
    refine ⟨expose, known, entry.congr ?_ ?_⟩
    · exact (maps id).1.trans (if_neg notIt)
    · exact (maps id).2.trans (if_neg notIt)
  · intro id unused
    show (this.forget _).targets[id]? = none ∧ (this.forget _).udp[id]? = none
    rw [(maps id).1, (maps id).2]
    split_ifs with was
    · exact ⟨rfl, rfl⟩
    · apply registered.only
      intro other held
      by_cases same : other = service
      · exact was (same ▸ held)
      · apply unused other
        rw [ids_forgetService, if_neg same]
        exact held

theorem Registered.tell (registered : Registered settings this) (msg : ClientMessage) :
    Registered settings (this.tell msg) := by
  cases msg with
  | unbind service => exact registered.forgetService service
  | bind | hello | ping | pong => exact registered.of_ids rfl rfl rfl

theorem Registered.foldl_tell (registered : Registered settings this) (msgs : List ClientMessage) :
    Registered settings (msgs.foldl State.tell this) := by
  induction msgs generalizing this with
  | nil => exact registered
  | cons msg msgs ih => exact ih (registered.tell msg)

theorem Registered.reexpose (registered : Registered (this.services.exposed[·]?) this)
    (next : ExtTreeMap String Expose) :
    Registered (next[·]?) (this.reexpose next).2 := by
  have start : Registered (this.services.exposed[·]?)
      { this with services := { this.services with failed := ∅ } } := registered.of_ids rfl rfl rfl
  have told := start.foldl_tell (rebind this.services.exposed next this.services.failed)
  have settled : Registered (next[·]?) ((rebind this.services.exposed next
      this.services.failed).foldl State.tell
        { this with services := { this.services with failed := ∅ } }) := by
    apply told.of_settings
    intro service id held
    obtain ⟨expose, known, -⟩ := told.entry service id held
    have fields := (foldl_tell_fields { this with services := { this.services with failed := ∅ } }
      service (rebind this.services.exposed next this.services.failed)).2.2
    rw [held, asks_rebind] at fields
    by_contra differs
    have touched : Touched this.services.exposed next this.services.failed service :=
      .inr (Ne.symm differs)
    simp [touched, known] at fields
  exact settled.of_ids rfl rfl rfl

theorem takeUp_getElem? (this : State) (service : String) (id : UInt16) (expose : Expose)
    (listener : SocketAddr) {other : UInt16} (different : other ≠ id) :
    (this.takeUp service id expose listener).targets[other]? =
      (if this.services.ids[service]? = some other then none else this.targets[other]?) ∧
    (this.takeUp service id expose listener).udp[other]? =
      if this.services.ids[service]? = some other then none else this.udp[other]? := by
  have maps := forget_getElem? this this.services.ids[service]? other
  unfold State.takeUp State.registerBound
  cases expose.port.kind with
  | tcp =>
      refine ⟨?_, maps.2⟩
      simp only [ExtTreeMap.getElem?_insert, Std.compare_eq_iff_eq, different.symm, ↓reduceIte]
      exact maps.1
  | udp =>
      refine ⟨maps.1, ?_⟩
      simp only [ExtTreeMap.getElem?_insert, Std.compare_eq_iff_eq, different.symm, ↓reduceIte]
      exact maps.2

theorem takeUp_entry {service : String} {id : UInt16} (expose : Expose) (listener : SocketAddr)
    (unused : this.targets[id]? = none ∧ this.udp[id]? = none) :
    Entry (this.takeUp service id expose listener) id service expose := by
  have maps := forget_getElem? this this.services.ids[service]? id
  simp only [unused.1, unused.2, ite_self] at maps
  unfold State.takeUp State.registerBound Entry
  cases expose.port.kind with
  | tcp =>
      refine ⟨?_, maps.2⟩
      simp only [ExtTreeMap.getElem?_insert_self]
  | udp =>
      refine ⟨maps.1, _, ExtTreeMap.getElem?_insert_self, rfl, rfl, rfl, ?_⟩
      cases expose.proxyProtocol <;> rfl

theorem Registered.takeUp (registered : Registered settings this) {service : String} {id : UInt16}
    {expose : Expose} (listener : SocketAddr) (known : settings service = some expose)
    (fresh : ∀ other : String, this.services.ids[other]? ≠ some id) :
    Registered settings (this.takeUp service id expose listener) := by
  have ids : ∀ other : String, (this.takeUp service id expose listener).services.ids[other]? =
      if service = other then some id else this.services.ids[other]? := by
    intro other
    rw [takeUp_fields]
    simp only [ExtTreeMap.getElem?_insert, Std.compare_eq_iff_eq]
  constructor
  · intro other id' held
    rw [ids] at held
    split_ifs at held with same
    · subst same
      obtain rfl := Option.some.inj held
      exact ⟨expose, known, takeUp_entry expose listener (registered.only id fresh)⟩
    · obtain ⟨expose', known', entry⟩ := registered.entry other id' held
      have different : id' ≠ id := by
        intro equal
        exact fresh other (equal ▸ held)
      have notIt : this.services.ids[service]? ≠ some id' := by
        intro also
        exact same (registered.injective also held)
      have maps := takeUp_getElem? this service id expose listener different
      exact ⟨expose', known', entry.congr (maps.1.trans (if_neg notIt)) (maps.2.trans (if_neg notIt))⟩
  · intro id' unused
    have different : id' ≠ id := by
      intro equal
      apply unused service
      rw [ids, if_pos rfl, equal]
    have maps := takeUp_getElem? this service id expose listener different
    rw [maps.1, maps.2]
    split_ifs with was
    · exact ⟨rfl, rfl⟩
    · apply registered.only
      intro other held
      by_cases same : service = other
      · exact was (same ▸ held)
      · exact unused other (by rw [ids, if_neg same, held])

theorem Registered.heard (registered : Registered (this.services.exposed[·]?) this)
    {service : String} {id : Option UInt16} {next : State} (heard : Heard this service id next)
    (fresh : ∀ new, id = some new → ∀ other : String, this.services.ids[other]? ≠ some new) :
    Registered (next.services.exposed[·]?) next := by
  have exposed : next.services.exposed = this.services.exposed := (heard_fields this heard service).1
  rw [exposed]
  have counts : Registered (this.services.exposed[·]?) (counted this service) :=
    registered.of_ids rfl rfl rfl
  cases heard with
  | stale id ignored => exact counts
  | bound id expose listener last wanted => exact counts.takeUp listener wanted (fresh id rfl)
  | failed last => exact (counts.forgetService service).of_ids rfl rfl rfl

end Registry

def webExposed : ExtTreeMap String Expose :=
  ExtTreeMap.empty.insert "web" ⟨"127.0.0.1:3000", .fixed ⟨80, .tcp⟩, [], false⟩

def webMoved : ExtTreeMap String Expose :=
  ExtTreeMap.empty.insert "web" ⟨"127.0.0.1:9000", .fixed ⟨80, .tcp⟩, [], false⟩

/-- The service is bound, and the client has its id. -/
def webState : State := ((State.new webExposed).heard ⟨.v4 0, 7835⟩ (.bound "web" 1 80 (.v4 0))).2

theorem web_told : (webState.reexpose webMoved).1 =
    [.unbind "web", .bind "web" .tcp (some 80) [] false] := by
  decide +kernel

def webTold : State := (webState.reexpose webMoved).2

/-- It is bound anew, with the settings of the reload. -/
def webAgain : State := (webTold.heard ⟨.v4 0, 7835⟩ (.bound "web" 2 80 (.v4 0))).2

theorem web_again : webAgain.services.ids["web"]? = some 2 := by decide +kernel

end Hawse.Proof.Client
