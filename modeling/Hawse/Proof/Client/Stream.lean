import Hawse.Client.Stream
import Hawse.Lib.Numbered
import Hawse.Proof.Client.Services

namespace Hawse.Proof.Stream
open Lib Hawse.Client Client

variable {this next : Stream} {service : String}

def up (this : Stream) : List ClientMessage := this.toServer ++ this.client.pending

def numbered (service : String) (sent : List (Option Nat × ServerMessage)) :
    List (Option Nat × Option UInt16) :=
  sent.filterMap fun (number, msg) =>
    (answer msg).bind fun (other, id) => if other = service then some (number, id) else none

def boundIds (sent : List (Option Nat × ServerMessage)) : List UInt16 :=
  sent.filterMap fun (_, msg) => (answer msg).bind (·.2)

def grantedTo (granted : UInt16 → Option (String × Nat)) (service : String) (id : UInt16) : Option Nat :=
  (granted id).bind fun (other, number) => if other = service then some number else none

def view (service : String) (this : Stream) : Numbered UInt16 where
  wanted := this.client.state.services.exposed[service]?.isSome
  id := this.client.state.services.ids[service]?
  left := this.client.state.services.left service
  asked := (Stream.settings service this.queued).length
  handled := this.handled service
  down := numbered service this.toClient
  granted := grantedTo this.granted service

/-- What holds however a refusal nothing asked for is timed: the client's maps are those of its
services, under ids granted to them that the client will not hear again. -/
structure Inv (this : Stream) : Prop where
  registered : Registered (this.client.state.services.exposed[·]?) this.client.state
  distinct : (boundIds this.toClient).Nodup
  owned : ∀ number msg other id, (number, msg) ∈ this.toClient → answer msg = some (other, some id) →
    ∃ bind, this.granted id = some (other, bind)
  known : ∀ (other : String) (id : UInt16), this.client.state.services.ids[other]? = some id →
    (∃ bind, this.granted id = some (other, bind)) ∧ id ∉ boundIds this.toClient

/-- What holds of `service` as long as no refusal of it nothing asked for is heard too early. -/
structure Kept (service : String) (this : Stream) : Prop where
  sound : (view service this).Sound
  counted : this.handled service + (asks service (up this)).count .bind =
    (Stream.settings service this.queued).length
  current : ∀ expose, this.client.state.services.exposed[service]? = some expose →
    (Stream.settings service this.queued).getLast? = some expose

section Queued

theorem settings_append (first second : List (String × Expose)) :
    Stream.settings service (first ++ second) =
      Stream.settings service first ++ Stream.settings service second :=
  List.filterMap_append

theorem settings_made (wanted : Std.ExtTreeMap String Expose) (msgs : List ClientMessage) :
    Stream.settings service (Stream.made wanted msgs) =
      (asks service msgs).filterMap fun ask => if ask = .bind then wanted[service]? else none := by
  unfold Stream.settings Stream.made asks
  rw [List.filterMap_filterMap, List.filterMap_filterMap]
  congr 1
  funext msg
  cases msg with
  | bind other kind port allow proxyProtocol =>
      by_cases same : other = service
      · subst same
        cases found : wanted[other]? <;> simp [Stream.bindOf, asked, found]
      · cases wanted[other]? <;> simp [Stream.bindOf, asked, same]
  | unbind other => by_cases same : other = service <;> simp [Stream.bindOf, asked, same]
  | hello | ping | pong => rfl

theorem settings_rebind (exposed wanted : Std.ExtTreeMap String Expose) (retry : Finset String) :
    Stream.settings service (Stream.made wanted (rebind exposed wanted retry)) =
      if Touched exposed wanted retry service then wanted[service]?.toList else [] := by
  rw [settings_made, asks_rebind]
  split_ifs
  · cases exposed[service]? <;> cases found : wanted[service]? <;> simp
  · rfl

end Queued

section Inv

theorem Inv.sent (inv : Inv this) (state : next.client.state = this.client.state) {number : Option Nat}
    {msg : ServerMessage} (toClient : next.toClient = this.toClient ++ [(number, msg)])
    (grows : ∀ id grant, this.granted id = some grant → next.granted id = some grant)
    (fresh : ∀ other id, answer msg = some (other, some id) →
      this.granted id = none ∧ ∃ bind, next.granted id = some (other, bind)) : Inv next := by
  have ids : boundIds next.toClient = boundIds this.toClient ++ ((answer msg).bind (·.2)).toList := by
    rw [toClient, boundIds, List.filterMap_append]
    congr 1
  -- An id that is already in use is not the one sent now.
  have unused : ∀ id ∈ ((answer msg).bind (·.2)).toList, this.granted id = none := by
    intro id member
    obtain ⟨⟨other, found⟩, answered, same⟩ := Option.bind_eq_some_iff.mp (Option.mem_toList.mp member)
    dsimp only at same
    subst same
    exact (fresh other id answered).1
  have inUse : ∀ id ∈ boundIds this.toClient, this.granted id ≠ none := by
    intro id member
    obtain ⟨⟨number, msg⟩, listed, found⟩ := List.mem_filterMap.mp member
    obtain ⟨⟨other, found⟩, answered, same⟩ := Option.bind_eq_some_iff.mp found
    dsimp only at same
    subst same
    obtain ⟨bind, granted⟩ := inv.owned number msg other id listed answered
    simp [granted]
  refine ⟨?_, ?_, ?_, ?_⟩
  · rw [state]
    exact inv.registered
  · rw [ids, List.nodup_append]
    refine ⟨inv.distinct, ?_, ?_⟩
    · cases (answer msg).bind (·.2) <;> simp
    · intro old listed new added same
      subst same
      exact inUse old listed (unused old added)
  · rw [toClient]
    intro number' msg' other id listed answered
    rcases List.mem_append.mp listed with listed | added
    · obtain ⟨bind, granted⟩ := inv.owned number' msg' other id listed answered
      exact ⟨bind, grows id _ granted⟩
    · obtain ⟨-, rfl⟩ := Prod.mk.inj (List.mem_singleton.mp added)
      exact (fresh other id answered).2
  · rw [state, ids]
    intro other id held
    obtain ⟨⟨bind, granted⟩, unheard⟩ := inv.known other id held
    refine ⟨⟨bind, grows id _ granted⟩, ?_⟩
    intro member
    rcases List.mem_append.mp member with member | member
    · exact unheard member
    · rw [unused id member] at granted
      cases granted

theorem Inv.congr (inv : Inv this) (state : next.client.state = this.client.state)
    (toClient : next.toClient = this.toClient) (granted : next.granted = this.granted) : Inv next := by
  obtain ⟨registered, distinct, owned, known⟩ := inv
  refine ⟨?_, ?_, ?_, ?_⟩
  · rw [state]
    exact registered
  · rw [toClient]
    exact distinct
  · rw [toClient, granted]
    exact owned
  · rw [state, toClient, granted]
    exact known

theorem Inv.reexpose (inv : Inv this) (wanted : Std.ExtTreeMap String Expose)
    (state : next.client.state = (this.client.state.reexpose wanted).2)
    (toClient : next.toClient = this.toClient) (granted : next.granted = this.granted) : Inv next := by
  refine ⟨?_, ?_, ?_, ?_⟩
  · have registered := inv.registered.reexpose wanted
    rw [state]
    exact registered
  · rw [toClient]
    exact inv.distinct
  · rw [toClient, granted]
    exact inv.owned
  · rw [state, toClient, granted]
    intro other id held
    rw [(reexpose_fields this.client.state other wanted).2.2] at held
    split_ifs at held
    exact inv.known other id held

theorem Inv.hear (inv : Inv this) {number : Option Nat} {msg : ServerMessage} {other : String}
    {id : Option UInt16} (answered : answer msg = some (other, id))
    (heard : Heard this.client.state other id next.client.state)
    (toClient : this.toClient = (number, msg) :: next.toClient)
    (granted : next.granted = this.granted) : Inv next := by
  have ids : boundIds this.toClient = id.toList ++ boundIds next.toClient := by
    rw [toClient]
    cases id <;> simp [boundIds, answered]
  have distinct := inv.distinct
  rw [ids, List.nodup_append] at distinct
  have later : ∀ sent ∈ next.toClient, sent ∈ this.toClient := by
    intro sent member
    rw [toClient]
    exact .tail _ member
  refine ⟨?_, distinct.2.1, ?_, ?_⟩
  · apply inv.registered.heard heard
    intro new same service held
    apply (inv.known service new held).2
    rw [ids, same]
    exact .head _
  · rw [granted]
    intro number msg service id listed
    exact inv.owned number msg service id (later _ listed)
  · rw [granted]
    intro service held has
    rw [(heard_fields this.client.state heard service).2.2] at has
    have before : this.client.state.services.ids[service]? = some held ∨
        (service = other ∧ id = some held) := by
      split_ifs at has with mine
      · subst mine
        rcases Exchange.idAfter_eq_some has with before | same
        · exact .inl before
        · exact .inr ⟨rfl, same⟩
      · exact .inl has
    rcases before with before | ⟨rfl, rfl⟩
    · obtain ⟨owner, unheard⟩ := inv.known service held before
      refine ⟨owner, ?_⟩
      intro member
      apply unheard
      rw [ids]
      exact List.mem_append_right _ member
    · refine ⟨inv.owned number msg service held (by rw [toClient]; exact .head _) answered, ?_⟩
      intro member
      exact distinct.2.2 held (.head _) held member rfl

theorem Inv.hear_other (inv : Inv this) {number : Option Nat} {msg : ServerMessage}
    (quiet : answer msg = none) (state : next.client.state = this.client.state)
    (toClient : this.toClient = (number, msg) :: next.toClient)
    (granted : next.granted = this.granted) : Inv next := by
  have ids : boundIds this.toClient = boundIds next.toClient := by
    rw [toClient]
    simp [boundIds, quiet]
  obtain ⟨registered, distinct, owned, known⟩ := inv
  refine ⟨?_, ?_, ?_, ?_⟩
  · rw [state]
    exact registered
  · rw [← ids]
    exact distinct
  · rw [granted]
    intro number msg service id listed
    apply owned number msg service id
    rw [toClient]
    exact .tail _ listed
  · rw [state, granted, ← ids]
    exact known

end Inv

section Kept

theorem Kept.congr (kept : Kept service this) (same : view service next = view service this)
    (counts : (asks service (up next)).count .bind = (asks service (up this)).count .bind)
    (queued : Stream.settings service next.queued = Stream.settings service this.queued)
    (exposed : next.client.state.services.exposed = this.client.state.services.exposed) :
    Kept service next := by
  have handled : next.handled service = this.handled service := congrArg Numbered.handled same
  refine ⟨?_, ?_, ?_⟩
  · rw [same]
    exact kept.sound
  · rw [counts, queued, handled]
    exact kept.counted
  · rw [queued, exposed]
    exact kept.current

theorem Kept.reexpose (kept : Kept service this) (wanted : Std.ExtTreeMap String Expose)
    (state : next.client.state = (this.client.state.reexpose wanted).2)
    (sent : up next = up this ++ (this.client.state.reexpose wanted).1)
    (queued : next.queued = this.queued ++ Stream.made wanted (this.client.state.reexpose wanted).1)
    (toClient : next.toClient = this.toClient) (handled : next.handled = this.handled)
    (granted : next.granted = this.granted) : Kept service next := by
  obtain ⟨exposed, left, ids⟩ := reexpose_fields this.client.state service wanted
  have settings : Stream.settings service next.queued = Stream.settings service this.queued ++ _ :=
    (congrArg (Stream.settings service) queued).trans (settings_append _ _)
  have made : Stream.settings service (Stream.made wanted (this.client.state.reexpose wanted).1) = _ :=
    settings_rebind this.client.state.services.exposed wanted this.client.state.services.failed
  have msgs := asks_reexpose this.client.state service wanted
  rw [made] at settings
  by_cases touched : Touched this.client.state.services.exposed wanted
    this.client.state.services.failed service
  · rw [if_pos touched] at settings msgs
    have length : (Stream.settings service next.queued).length =
        (Stream.settings service this.queued).length +
          (Exchange.binds wanted[service]?.isSome).length := by
      rw [settings, List.length_append]
      cases wanted[service]? <;> rfl
    refine ⟨?_, ?_, ?_⟩
    · have same : view service next = { view service this with
          wanted := wanted[service]?.isSome
          id := if (view service this).wanted then none else (view service this).id
          left := (view service this).left + (Exchange.binds wanted[service]?.isSome).length
          asked := (view service this).asked + (Exchange.binds wanted[service]?.isSome).length } := by
        ext1
        · simp only [view, state, exposed]
        · simp only [view, state, ids, msgs, Exchange.unbind_mem]
          rfl
        · simp only [view, state, left, msgs, Exchange.count_bind]
        · exact length
        · simp only [view, handled]
        · simp only [view, toClient]
        · simp only [view, granted]
      rw [same]
      exact kept.sound.reload _
    · have counted := kept.counted
      rw [length, sent, asks_append, List.count_append, msgs, Exchange.count_bind, handled]
      omega
    · intro expose found
      rw [state, exposed] at found
      rw [settings, found]
      simp
  · rw [if_neg touched] at settings msgs
    rw [List.append_nil] at settings
    have unchanged := untouched touched
    refine ⟨?_, ?_, ?_⟩
    · have same : view service next = view service this := by
        simp only [view, state, exposed, ids, left, msgs, settings, handled, toClient, granted,
          unchanged, List.count_nil, Nat.add_zero, List.not_mem_nil, ↓reduceIte]
      rw [same]
      exact kept.sound
    · rw [settings, sent, asks_append, msgs, List.append_nil, handled]
      exact kept.counted
    · rw [settings, state, exposed, unchanged]
      exact kept.current

theorem numbered_answer {number : Option Nat} {msg : ServerMessage} {other : String}
    {id : Option UInt16} (answered : answer msg = some (other, id)) :
    numbered service [(number, msg)] = if other = service then [(number, id)] else [] := by
  by_cases same : other = service <;> simp [numbered, answered, same]

theorem numbered_quiet {number : Option Nat} {msg : ServerMessage} (quiet : answer msg = none) :
    numbered service [(number, msg)] = [] := by
  simp [numbered, quiet]

theorem numbered_append (first second : List (Option Nat × ServerMessage)) :
    numbered service (first ++ second) = numbered service first ++ numbered service second :=
  List.filterMap_append

theorem answerOf_answer {msg : ServerMessage} {other : String} {id : Option UInt16}
    (answered : answer msg = some (other, id)) : Stream.answerOf msg = some other := by
  cases msg <;> simp_all [answer, Stream.answerOf]

theorem asked_eq_bind {msg : ClientMessage} (asks : asked service msg = some .bind) :
    Stream.bindOf msg = some service := by
  cases msg <;> simp_all [asked, Stream.bindOf]

theorem Kept.quiet (kept : Kept service this) (answered : ¬ this.Unanswered service) :
    (view service this).Quiet := by
  constructor
  · have none_asked : (asks service (up this)).count .bind = 0 := by
      rw [List.count_eq_zero]
      intro member
      obtain ⟨msg, sent, asks⟩ := List.mem_filterMap.mp member
      exact answered (.inl ⟨msg, sent, asked_eq_bind asks⟩)
    have counted := kept.counted
    rw [none_asked] at counted
    exact counted.symm
  · apply List.filterMap_eq_nil_iff.mpr
    intro ⟨number, id⟩ member
    obtain ⟨⟨number', msg⟩, sent, found⟩ := List.mem_filterMap.mp member
    obtain ⟨⟨other, id'⟩, answers, same⟩ := Option.bind_eq_some_iff.mp found
    dsimp only at same
    split_ifs at same with mine
    obtain ⟨rfl, -⟩ := Prod.mk.inj (Option.some.inj same)
    subst mine
    cases number' with
    | none => rfl
    | some number => exact absurd (.inr ⟨_, sent, rfl, answerOf_answer answers⟩) answered

theorem Kept.hear (kept : Kept service this) {number : Option Nat} {msg : ServerMessage}
    {other : String} {id : Option UInt16} (answered : answer msg = some (other, id))
    (heard : Heard this.client.state other id next.client.state)
    (toClient : this.toClient = (number, msg) :: next.toClient) (sent : up next = up this)
    (queued : next.queued = this.queued) (handled : next.handled = this.handled)
    (granted : next.granted = this.granted)
    (timely : number = none → other = service → id = none → ¬ this.Unanswered service) :
    Kept service next := by
  obtain ⟨exposed, left, ids⟩ := heard_fields this.client.state heard service
  have down : numbered service this.toClient =
      numbered service [(number, msg)] ++ numbered service next.toClient := by
    rw [toClient, ← numbered_append]
    rfl
  rw [numbered_answer answered] at down
  by_cases mine : other = service
  · subst mine
    simp only [↓reduceIte, List.singleton_append] at down left ids
    refine ⟨?_, ?_, ?_⟩
    · have same : view other next = { view other this with
          id := Exchange.idAfter (view other this).wanted ((view other this).left - 1 = 0) id
            (view other this).id
          left := (view other this).left - 1
          down := numbered other next.toClient } := by
        ext1
        · simp only [view, exposed]
        · exact ids
        · exact left
        · simp only [view, queued]
        · simp only [view, handled]
        · rfl
        · simp only [view, granted]
      rw [same]
      apply kept.sound.hear down
      intro unasked
      have plain : id = none := by
        apply kept.sound.unasked
        show (none, id) ∈ numbered other this.toClient
        rw [down, unasked]
        exact .head _
      exact kept.quiet (timely unasked rfl plain)
    · rw [sent, queued, handled]
      exact kept.counted
    · rw [queued, exposed]
      exact kept.current
  · simp only [mine, Ne.symm mine, ↓reduceIte, List.nil_append] at down left ids
    apply kept.congr
    · simp only [view, exposed, left, ids, queued, handled, down, granted]
    · rw [sent]
    · rw [queued]
    · exact exposed

theorem asks_bindOf {msg : ClientMessage} {asking : String} (binds : Stream.bindOf msg = some asking) :
    asks service [msg] = if asking = service then [.bind] else [] := by
  cases msg with
  | bind other kind port allow proxyProtocol =>
      obtain rfl := Option.some.inj binds
      by_cases same : other = service <;> simp [asks, asked, same]
  | hello | unbind | ping | pong => cases binds

theorem asks_unbound {msg : ClientMessage} (unbound : Stream.bindOf msg = none) :
    (asks service [msg]).count .bind = 0 := by
  cases msg with
  | bind => cases unbound
  | unbind other => by_cases same : other = service <;> simp [asks, asked, same]
  | hello | ping | pong => rfl

def grants (granted : UInt16 → Option (String × Nat)) (asking : String) (number : Nat) :
    Option UInt16 → UInt16 → Option (String × Nat)
  | none => granted
  | some id => Function.update granted id (some (asking, number))

theorem grants_grow {granted : UInt16 → Option (String × Nat)} (asking : String) (number : Nat)
    {answer : Option UInt16} (fresh : ∀ id, answer = some id → granted id = none) {id : UInt16}
    {grant : String × Nat} (before : granted id = some grant) :
    grants granted asking number answer id = some grant := by
  cases answer with
  | none => exact before
  | some new =>
      have different : id ≠ new := by
        intro same
        rw [same, fresh new rfl] at before
        cases before
      rw [grants, Function.update_of_ne different]
      exact before

theorem grantedTo_grants {granted : UInt16 → Option (String × Nat)} {asking : String} {number : Nat}
    {answer : Option UInt16} (fresh : ∀ id, answer = some id → granted id = none)
    (different : asking ≠ service) :
    grantedTo (grants granted asking number answer) service = grantedTo granted service := by
  cases answer with
  | none => rfl
  | some new =>
      funext id
      by_cases same : id = new
      · subst same
        simp [grantedTo, grants, fresh id rfl, different]
      · simp [grantedTo, grants, same]

theorem Kept.answered (kept : Kept service this) {msg : ClientMessage} {asking : String}
    {reply : ServerMessage} {id : Option UInt16} (binds : Stream.bindOf msg = some asking)
    (replied : answer reply = some (asking, id)) (client : next.client = this.client)
    (toServer : this.toServer = msg :: next.toServer)
    (toClient : next.toClient = this.toClient ++ [(some (this.handled asking), reply)])
    (queued : next.queued = this.queued)
    (handled : next.handled = Function.update this.handled asking (this.handled asking + 1))
    (granted : next.granted = grants this.granted asking (this.handled asking) id)
    (fresh : ∀ new, id = some new → this.granted new = none) : Kept service next := by
  have asks' : asks service (up this) = asks service [msg] ++ asks service (up next) := by
    rw [← asks_append, up, up, client, toServer]
    rfl
  have down : numbered service next.toClient = numbered service this.toClient ++ _ :=
    (congrArg (numbered service) toClient).trans (numbered_append _ _)
  rw [asks_bindOf binds] at asks'
  rw [numbered_answer replied] at down
  by_cases mine : asking = service
  · subst mine
    simp only [↓reduceIte, List.singleton_append] at asks' down
    have counted := kept.counted
    rw [asks', List.count_cons_self] at counted
    refine ⟨?_, ?_, ?_⟩
    · have same : view asking next = { view asking this with
          handled := (view asking this).handled + 1
          down := (view asking this).down ++ [(some (view asking this).handled, id)]
          granted := grantedTo next.granted asking } := by
        ext1
        · simp only [view, client]
        · simp only [view, client]
        · simp only [view, client]
        · simp only [view, queued]
        · simp [view, handled]
        · exact down
        · rfl
      rw [same]
      apply kept.sound.answer
      · simp only [view]
        omega
      · intro new same
        subst same
        simp [grantedTo, granted, grants, view]
      · intro old number before
        obtain ⟨⟨other, number'⟩, found, same⟩ := Option.bind_eq_some_iff.mp before
        have after := grants_grow asking (this.handled asking) fresh found
        rw [← granted] at after
        simp only [grantedTo, after, Option.bind_some]
        exact same
    · rw [queued, handled, Function.update_self]
      omega
    · rw [queued, client]
      exact kept.current
  · simp only [mine, ↓reduceIte, List.nil_append, List.append_nil] at asks' down
    apply kept.congr
    · simp only [view, client, queued, handled, down, granted, grantedTo_grants fresh mine,
        Function.update_of_ne (Ne.symm mine)]
    · rw [asks']
    · rw [queued]
    · rw [client]

theorem Kept.send (kept : Kept service this) {msg : ServerMessage} (client : next.client = this.client)
    (unbound : ∀ other id, answer msg ≠ some (other, some id))
    (toServer : next.toServer = this.toServer)
    (toClient : next.toClient = this.toClient ++ [(none, msg)]) (queued : next.queued = this.queued)
    (handled : next.handled = this.handled) (granted : next.granted = this.granted) :
    Kept service next := by
  have sent : up next = up this := by rw [up, up, client, toServer]
  have down : numbered service next.toClient = numbered service this.toClient ++ _ :=
    (congrArg (numbered service) toClient).trans (numbered_append _ _)
  have other : numbered service [(none, msg)] = [] ∨ numbered service [(none, msg)] = [(none, none)] := by
    cases answered : answer msg with
    | none => exact .inl (numbered_quiet answered)
    | some found =>
        obtain ⟨asking, id⟩ := found
        cases id with
        | some id => exact absurd answered (unbound asking id)
        | none =>
            rw [numbered_answer answered]
            split_ifs
            · exact .inr rfl
            · exact .inl rfl
  rcases other with quiet | refused
  · rw [quiet, List.append_nil] at down
    apply kept.congr
    · simp only [view, client, queued, handled, down, granted]
    · rw [sent]
    · rw [queued]
    · rw [client]
  · rw [refused] at down
    refine ⟨?_, ?_, ?_⟩
    · have same : view service next =
          { view service this with down := (view service this).down ++ [(none, none)] } := by
        simp only [view, client, queued, handled, down, granted]
      rw [same]
      exact kept.sound.notify
    · rw [sent, queued, handled]
      exact kept.counted
    · rw [queued, client]
      exact kept.current

end Kept

section Steps
variable {remote : SocketAddr} {event : Stream.Event}

inductive Stepped (this : Stream) (event : Stream.Event) (next : Stream) : Prop
  | moved (state : next.client.state = this.client.state) (toClient : next.toClient = this.toClient)
      (queued : next.queued = this.queued) (handled : next.handled = this.handled)
      (granted : next.granted = this.granted)
      (binds : ∀ service, (asks service (up next)).count .bind = (asks service (up this)).count .bind)
  | reexposed (wanted : Std.ExtTreeMap String Expose)
      (state : next.client.state = (this.client.state.reexpose wanted).2)
      (sent : up next = up this ++ (this.client.state.reexpose wanted).1)
      (queued : next.queued = this.queued ++
        Stream.made wanted (this.client.state.reexpose wanted).1)
      (toClient : next.toClient = this.toClient) (handled : next.handled = this.handled)
      (granted : next.granted = this.granted)
  | heard (number : Option Nat) (msg : ServerMessage) (other : String) (id : Option UInt16)
      (hears : event = .turn (.heard msg)) (answered : answer msg = some (other, id))
      (heard : Heard this.client.state other id next.client.state)
      (toClient : this.toClient = (number, msg) :: next.toClient) (sent : up next = up this)
      (queued : next.queued = this.queued) (handled : next.handled = this.handled)
      (granted : next.granted = this.granted)
  | heardOther (number : Option Nat) (msg : ServerMessage) (quiet : answer msg = none)
      (state : next.client.state = this.client.state)
      (toClient : this.toClient = (number, msg) :: next.toClient)
      (queued : next.queued = this.queued) (handled : next.handled = this.handled)
      (granted : next.granted = this.granted)
      (binds : ∀ service, (asks service (up next)).count .bind = (asks service (up this)).count .bind)
  | answered (msg : ClientMessage) (asking : String) (reply : ServerMessage) (id : Option UInt16)
      (binds : Stream.bindOf msg = some asking) (replied : answer reply = some (asking, id))
      (client : next.client = this.client) (toServer : this.toServer = msg :: next.toServer)
      (toClient : next.toClient = this.toClient ++ [(some (this.handled asking), reply)])
      (queued : next.queued = this.queued)
      (handled : next.handled = Function.update this.handled asking (this.handled asking + 1))
      (granted : next.granted = grants this.granted asking (this.handled asking) id)
      (fresh : ∀ new, id = some new → this.granted new = none)
  | sent (msg : ServerMessage) (unbound : ∀ other id, answer msg ≠ some (other, some id))
      (client : next.client = this.client) (toServer : next.toServer = this.toServer)
      (toClient : next.toClient = this.toClient ++ [(none, msg)]) (queued : next.queued = this.queued)
      (handled : next.handled = this.handled) (granted : next.granted = this.granted)

theorem heard_stepped {msg : ServerMessage}
    (stepped : this.step remote (.turn (.heard msg)) = some next) :
    Stepped this (.turn (.heard msg)) next := by
  simp only [Stream.step, Stream.deliver] at stepped
  cases waiting : this.toClient with
  | nil => simp [waiting] at stepped
  | cons sent toClient =>
      obtain ⟨number, first⟩ := sent
      rw [waiting] at stepped
      by_cases same : first = msg
      · subst same
        simp only [↓reduceIte, Stream.turn, Serve.step, Stream.queues, List.append_nil] at stepped
        cases answered : answer first with
        | some found =>
            obtain ⟨other, id⟩ := found
            obtain ⟨silent, heard⟩ := heard_heard this.client.state remote answered
            simp only [silent, Option.some.injEq] at stepped
            subst stepped
            refine .heard number first other id rfl answered heard waiting ?_ rfl rfl rfl
            simp [up]
        | none =>
            have unchanged := heard_other this.client.state remote answered
            cases replied : (this.client.state.heard remote first).1 with
            | error reason =>
                simp only [replied, Option.some.injEq] at stepped
                subst stepped
                exact .heardOther number first answered unchanged waiting rfl rfl rfl fun _ => rfl
            | ok reply =>
                simp only [replied, Option.some.injEq] at stepped
                subst stepped
                refine .heardOther number first answered unchanged waiting rfl rfl rfl ?_
                intro service
                have silent := heard_reply this.client.state remote service answered replied
                simp [up, asks_append, silent]
      · simp [same] at stepped

theorem turn_stepped {turn : Serve.Event} (quiet : ∀ msg, turn ≠ .heard msg)
    (turned : this.turn remote turn = some next) : Stepped this (.turn turn) next := by
  unfold Stream.turn at turned
  cases turn with
  | reload wanted =>
      simp only [Serve.step, Stream.queues, Option.some.injEq] at turned
      subst turned
      refine .moved rfl rfl (List.append_nil _) rfl rfl ?_
      intro service
      simp [up]
  | pop =>
      cases waiting : this.client.pending with
      | nil => simp [Serve.step, waiting] at turned
      | cons msg pending =>
          simp only [Serve.step, waiting, Stream.queues, Option.some.injEq] at turned
          subst turned
          refine .moved rfl rfl (List.append_nil _) rfl rfl ?_
          intro service
          simp [up, waiting]
  | changed =>
      simp only [Serve.step] at turned
      split_ifs at turned
      simp only [Stream.queues, Option.some.injEq] at turned
      subst turned
      refine .reexposed this.client.wanted rfl ?_ rfl rfl rfl rfl
      simp [up]
  | ping =>
      simp only [Serve.step, Stream.queues, Option.some.injEq] at turned
      subst turned
      refine .moved rfl rfl (List.append_nil _) rfl rfl ?_
      intro service
      simp only [up, asks_append]
      rw [List.append_assoc]
      rfl
  | heard msg => exact absurd rfl (quiet msg)

theorem step_stepped (stepped : this.step remote event = some next) :
    Stepped this event next := by
  cases event with
  | turn turn =>
      by_cases hears : ∃ msg, turn = .heard msg
      · obtain ⟨msg, rfl⟩ := hears
        exact heard_stepped stepped
      · push Not at hears
        have turned : this.turn remote turn = some next := by
          cases turn with
          | heard msg => exact absurd rfl (hears msg)
          | reload | pop | changed | ping => exact stepped
        exact turn_stepped hears turned
  | answer reply =>
      simp only [Stream.step] at stepped
      cases waiting : this.toServer with
      | nil => simp [waiting] at stepped
      | cons msg toServer =>
          cases binds : Stream.bindOf msg with
          | none => simp [waiting, binds] at stepped
          | some asking =>
              simp only [waiting, binds] at stepped
              cases reply with
              | bound other id port address =>
                  simp only [Stream.answer] at stepped
                  split_ifs at stepped with valid
                  obtain ⟨rfl, fresh⟩ := valid
                  cases stepped
                  refine .answered msg other _ (some id) binds rfl rfl waiting rfl rfl rfl rfl ?_
                  intro new same
                  obtain rfl := Option.some.inj same
                  exact fresh
              | bindFailed other reason =>
                  simp only [Stream.answer] at stepped
                  split_ifs at stepped with same
                  subst same
                  cases stepped
                  exact .answered msg other _ none binds rfl rfl waiting rfl rfl rfl rfl (by simp)
              | welcome | denied | shutdown | ping | pong => cases stepped
  | skip =>
      simp only [Stream.step] at stepped
      cases waiting : this.toServer with
      | nil => simp [waiting] at stepped
      | cons msg toServer =>
          simp only [waiting] at stepped
          split_ifs at stepped with dropped
          cases stepped
          refine .moved rfl rfl rfl rfl rfl ?_
          intro service
          have split : asks service (up this) =
              asks service [msg] ++ asks service (toServer ++ this.client.pending) := by
            rw [← asks_append, up, waiting]
            rfl
          rw [split, List.count_append, asks_unbound dropped, Nat.zero_add]
          rfl
  | send msg =>
      cases msg with
      | bound => cases stepped
      | bindFailed | welcome | denied | shutdown | ping | pong =>
          cases stepped
          refine .sent _ ?_ rfl rfl rfl rfl rfl rfl
          simp [answer]

theorem step_inv (inv : Inv this) (stepped : Stepped this event next) : Inv next := by
  cases stepped with
  | moved state toClient queued handled granted binds => exact inv.congr state toClient granted
  | reexposed wanted state sent queued toClient handled granted =>
      exact inv.reexpose wanted state toClient granted
  | heard number msg other id hears answered heard toClient sent queued handled granted =>
      exact inv.hear answered heard toClient granted
  | heardOther number msg quiet state toClient queued handled granted binds =>
      exact inv.hear_other quiet state toClient granted
  | answered msg asking reply id binds replied client toServer toClient queued handled granted fresh =>
      apply inv.sent (by rw [client]) toClient
      · intro old grant before
        rw [granted]
        exact grants_grow asking (this.handled asking) fresh before
      · intro other new answered
        rw [replied] at answered
        obtain ⟨rfl, rfl⟩ := Prod.mk.inj (Option.some.inj answered)
        refine ⟨fresh new rfl, this.handled asking, ?_⟩
        rw [granted]
        exact Function.update_self _ _ _
  | sent msg unbound client toServer toClient queued handled granted =>
      apply inv.sent (by rw [client]) toClient
      · rw [granted]
        exact fun _ _ before => before
      · intro other new answered
        exact absurd answered (unbound other new)

theorem step_kept (kept : Kept service this) (timely : Stream.Timely service this event)
    (stepped : Stepped this event next) : Kept service next := by
  cases stepped with
  | moved state toClient queued handled granted binds =>
      apply kept.congr _ (binds service)
      · rw [queued]
      · rw [state]
      · simp only [view, state, queued, handled, toClient, granted]
  | reexposed wanted state sent queued toClient handled granted =>
      exact kept.reexpose wanted state sent queued toClient handled granted
  | heard number msg other id hears answered heard toClient sent queued handled granted =>
      apply kept.hear answered heard toClient sent queued handled granted
      intro unasked mine plain
      subst mine unasked plain
      cases msg with
      | bindFailed refused reason =>
          obtain ⟨rfl, -⟩ := Prod.mk.inj (Option.some.inj answered)
          exact timely reason hears (by rw [toClient]; rfl)
      | bound | welcome | denied | shutdown | ping | pong => simp [answer] at answered
  | heardOther number msg quiet state toClient queued handled granted binds =>
      have down : numbered service this.toClient = numbered service next.toClient := by
        rw [toClient, ← List.singleton_append, numbered_append, numbered_quiet quiet]
        rfl
      apply kept.congr _ (binds service)
      · rw [queued]
      · rw [state]
      · simp only [view, state, queued, handled, down, granted]
  | answered msg asking reply id binds replied client toServer toClient queued handled granted fresh =>
      exact kept.answered binds replied client toServer toClient queued handled granted fresh
  | sent msg unbound client toServer toClient queued handled granted =>
      exact kept.send client unbound toServer toClient queued handled granted

end Steps

section Runs

theorem settings_toList (exposed : Std.ExtTreeMap String Expose) :
    Stream.settings service exposed.toList = exposed[service]?.toList := by
  have filtered : ∀ entries : List (String × Expose), Stream.settings service entries =
      (entries.filter fun entry => entry.1 = service).map (·.2) := by
    intro entries
    rw [← List.filterMap_eq_map, List.filterMap_filter]
    simp [Stream.settings]
  rw [filtered, toList_filter_key]
  cases exposed[service]? <;> rfl

theorem start_inv (exposed : Std.ExtTreeMap String Expose) : Inv (Stream.start exposed) := by
  refine ⟨.new exposed, List.nodup_nil, nofun, ?_⟩
  intro other id held
  cases (new_ids exposed other).symm.trans held

theorem start_kept (exposed : Std.ExtTreeMap String Expose) (service : String) :
    Kept service (Stream.start exposed) := by
  have length : (Stream.settings service exposed.toList).length =
      (Exchange.binds exposed[service]?.isSome).length := by
    rw [settings_toList]
    cases exposed[service]? <;> rfl
  have quiet : (view service (Stream.start exposed)).down = [] := rfl
  refine ⟨⟨Nat.zero_le _, ?_, by simp [quiet, Numbered.numbers], by simp [quiet], by simp [quiet], ?_,
    ?_⟩, ?_, ?_⟩
  · exact (new_left exposed service).trans length.symm
  · intro id held
    cases (new_ids exposed service).symm.trans held
  · intro _
    exact new_ids exposed service
  · show 0 + (asks service (Serve.greeting exposed ++ [])).count .bind = _
    rw [List.append_nil, asks_greeting, Nat.zero_add]
    refine Eq.trans ?_ length.symm
    cases exposed[service]? <;> rfl
  · intro expose found
    show (Stream.settings service exposed.toList).getLast? = some expose
    rw [settings_toList]
    exact congrArg (fun found => found.toList.getLast?) found

theorem reachable_inv {remote : SocketAddr}
    (reachable : ((stream remote).restrict (Stream.Timely service)).Reachable this) :
    Inv this ∧ Kept service this := by
  apply reachable.invariant fun this => Inv this ∧ Kept service this
  · intro start ⟨exposed, same⟩
    rw [same]
    exact ⟨start_inv exposed, start_kept exposed service⟩
  · intro before event after _ ⟨inv, kept⟩ ⟨timely, running, stepped⟩
    have effect := step_stepped stepped
    exact ⟨step_inv inv effect, step_kept kept timely effect⟩

theorem deliver_client {turn : Serve.Event} (delivered : this.deliver turn = some next) :
    next.client = this.client := by
  unfold Stream.deliver at delivered
  split at delivered
  · split at delivered
    · cases delivered
    · split_ifs at delivered
      obtain rfl := Option.some.inj delivered
      rfl
  · obtain rfl := Option.some.inj delivered
    rfl

theorem answer_client {reply : ServerMessage} {asking : String} (answered : this.answer asking reply = some next) :
    next.client = this.client := by
  unfold Stream.answer at answered
  split at answered
  · split_ifs at answered
    obtain rfl := Option.some.inj answered
    rfl
  · split_ifs at answered
    obtain rfl := Option.some.inj answered
    rfl
  · cases answered

theorem taken_turn {remote : SocketAddr} {turn : Serve.Event} (taken : Taken this.client)
    (turned : this.turn remote turn = some next) : Taken next.client := by
  unfold Stream.turn at turned
  split at turned
  · cases turned
  · next reason client stepped =>
      obtain rfl := Option.some.inj turned
      exact taken.step stepped
  · next sent client stepped =>
      obtain rfl := Option.some.inj turned
      exact taken.step stepped

theorem taken_step {remote : SocketAddr} {event : Stream.Event} (taken : Taken this.client)
    (stepped : this.step remote event = some next) : Taken next.client := by
  cases event with
  | turn turn =>
      simp only [Stream.step] at stepped
      split at stepped
      · cases stepped
      · next middle delivered =>
          have same := deliver_client delivered
          exact taken_turn (same ▸ taken) stepped
  | answer reply =>
      simp only [Stream.step] at stepped
      split at stepped
      · cases stepped
      · split at stepped
        · cases stepped
        · rw [answer_client stepped]
          exact taken
  | skip =>
      simp only [Stream.step] at stepped
      split at stepped
      · cases stepped
      · split_ifs at stepped
        obtain rfl := Option.some.inj stepped
        exact taken
  | send msg =>
      simp only [Stream.step] at stepped
      split at stepped
      · cases stepped
      · obtain rfl := Option.some.inj stepped
        exact taken

theorem reachable_taken {remote : SocketAddr} (reachable : (stream remote).Reachable this) : Taken this.client := by
  apply reachable.invariant fun this => Taken this.client
  · intro start ⟨exposed, same⟩
    rw [same]
    exact fun _ => rfl
  · intro before event after _ taken ⟨_, stepped⟩
    exact taken_step taken stepped

/-- The only step that gives the service an id is the hearing of the answer to its last bind. -/
theorem registers_last {event : Stream.Event} (inv : Inv this) (kept : Kept service this)
    (stepped : Stepped this event next) {id : UInt16} (holds : Holds next.client.state service id)
    (new : ¬ Holds this.client.state service id) :
    ∃ number port address, event = .turn (.heard (.bound service id port address)) ∧
      this.toClient.head? = some (some number, .bound service id port address) ∧
      number + 1 = (Stream.settings service this.queued).length ∧
      service ∈ this.client.state.services.exposed := by
  rw [(step_inv inv stepped).registered.holds_iff] at holds
  rw [inv.registered.holds_iff] at new
  cases stepped with
  | moved state toClient queued handled granted binds =>
      rw [state] at holds
      exact absurd holds new
  | reexposed wanted state sent queued toClient handled granted =>
      rw [state, (reexpose_fields this.client.state service wanted).2.2] at holds
      split_ifs at holds
      exact absurd holds new
  | heardOther number msg quiet state toClient queued handled granted binds =>
      rw [state] at holds
      exact absurd holds new
  | answered msg asking reply id' binds replied client toServer toClient queued handled granted fresh =>
      rw [client] at holds
      exact absurd holds new
  | sent msg unbound client toServer toClient queued handled granted =>
      rw [client] at holds
      exact absurd holds new
  | heard number msg other id' hears answered heard toClient sent queued handled granted =>
      rw [(heard_fields this.client.state heard service).2.2] at holds
      split_ifs at holds with mine
      · subst mine
        obtain ⟨wanted, last, rfl⟩ := Exchange.idAfter_new holds new
        obtain ⟨port, address, rfl⟩ : ∃ port address, msg = .bound service id port address := by
          cases msg with
          | bound bound id' port address =>
              obtain ⟨rfl, same⟩ := Prod.mk.inj (Option.some.inj answered)
              obtain rfl := Option.some.inj same
              exact ⟨port, address, rfl⟩
          | bindFailed | welcome | denied | shutdown | ping | pong => simp [answer] at answered
        have down : (view service this).down = (number, some id) :: numbered service next.toClient := by
          show numbered service this.toClient = _
          rw [toClient, ← List.singleton_append, numbered_append, numbered_answer answered, if_pos rfl]
          rfl
        cases number with
        | none =>
            have plain := kept.sound.unasked (some id) (by rw [down]; exact .head _)
            cases plain
        | some number =>
            refine ⟨number, port, address, hears, by rw [toClient]; rfl, ?_, ?_⟩
            · exact kept.sound.last down (of_decide_eq_true last)
            · rw [Std.ExtTreeMap.mem_iff_isSome_getElem?]
              exact wanted
      · exact absurd holds new

theorem replaced_settings_unreachable (remote : SocketAddr) (service : String) (this : Stream)
    (reachable : ((stream remote).restrict (Stream.Timely service)).Reachable this) :
    (this.client.changed = false → this.client.state.services.exposed = this.client.wanted) ∧
    (∀ event next, ((stream remote).restrict (Stream.Timely service)).step this event next →
      ∀ id, Holds next.client.state service id → ¬ Holds this.client.state service id →
        ∃ number port address, event = .turn (.heard (.bound service id port address)) ∧
          this.toClient.head? = some (some number, .bound service id port address) ∧
          number + 1 = (Stream.settings service this.queued).length ∧
          service ∈ this.client.state.services.exposed) ∧
    ∀ id number, this.granted id = some (service, number) →
      id ∈ this.client.state.targets ∨ id ∈ this.client.state.udp →
      ∃ expose, (Stream.settings service this.queued)[number]? = some expose ∧
        number + 1 = (Stream.settings service this.queued).length ∧
        this.client.state.services.exposed[service]? = some expose := by
  obtain ⟨inv, kept⟩ := reachable_inv reachable
  refine ⟨reachable_taken reachable.of_restrict, ?_, ?_⟩
  · intro event next ⟨_, _, stepped⟩ id holds new
    exact registers_last inv kept (step_stepped stepped) holds new
  · intro id number granted present
    obtain ⟨other, held⟩ := inv.registered.present present
    -- An id is granted once, so the service it is registered for is the one it was granted to.
    obtain ⟨⟨bind, owner⟩, -⟩ := inv.known other id held
    rw [granted] at owner
    obtain ⟨rfl, rfl⟩ := Prod.mk.inj (Option.some.inj owner)
    obtain ⟨last, grantedTo', isLast⟩ := kept.sound.known id held
    have same : number = last := by
      simpa [view, grantedTo, granted] using grantedTo'
    subst same
    obtain ⟨expose, exposed, -⟩ := inv.registered.entry service id held
    refine ⟨expose, ?_, isLast, exposed⟩
    have current := kept.current expose exposed
    have index : (Stream.settings service this.queued).length - 1 = number := by
      show (view service this).asked - 1 = number
      omega
    rw [List.getLast?_eq_getElem?, index] at current
    exact current

end Runs

section Example

abbrev webStream : System Stream Stream.Event := (stream ⟨.v4 0, 7835⟩).restrict (Stream.Timely "web")

theorem web_turns (reachable : webStream.Reachable this) (event : Stream.Event) (running : this.ended = false)
    (timely : Stream.Timely "web" this event) (stepped : this.step ⟨.v4 0, 7835⟩ event = some next) :
    webStream.Reachable next :=
  reachable.next ⟨timely, running, stepped⟩

def webHeard : Stream :=
  { Stream.start webExposed with
    client := { Serve.new webExposed with state := webState }
    toServer := []
    handled := Function.update (fun _ => 0) "web" 1
    granted := Function.update (fun _ => none) 1 (some ("web", 0)) }

def webTaken : Stream :=
  { webHeard with
    client := { webHeard.client with
      wanted := webMoved
      state := webTold
      pending := [.unbind "web", .bind "web" .tcp (some 80) [] false] }
    queued := webExposed.toList ++ Stream.made webMoved [.unbind "web", .bind "web" .tcp (some 80) [] false] }

def webRebound : Stream :=
  { webTaken with
    client := { webTaken.client with state := webAgain, pending := [] }
    handled := Function.update webTaken.handled "web" 2
    granted := Function.update webTaken.granted 2 (some ("web", 1)) }

theorem replaced_settings_unreachable_web :
    webStream.Reachable webRebound ∧ 2 ∈ webRebound.client.state.targets ∧
    webRebound.client.state.services.exposed = webMoved ∧
    ∃ expose, (Stream.settings "web" webRebound.queued)[1]? = some expose ∧
      webRebound.client.state.services.exposed["web"]? = some expose := by
  have start : webStream.Reachable (Stream.start webExposed) := .initial ⟨webExposed, rfl⟩
  have answers := web_turns start (.answer (.bound "web" 1 80 (.v4 0))) rfl (by simp [Stream.Timely]) rfl
  have heard : webStream.Reachable webHeard :=
    web_turns answers (.turn (.heard (.bound "web" 1 80 (.v4 0)))) rfl (by simp [Stream.Timely]) rfl
  have reloaded := web_turns heard (.turn (.reload webMoved)) rfl (by simp [Stream.Timely]) rfl
  have taken : webStream.Reachable webTaken := by
    apply web_turns reloaded (.turn .changed) rfl (by simp [Stream.Timely])
    rw [webTaken, ← web_told]
    rfl
  have unbinds := web_turns taken (.turn .pop) rfl (by simp [Stream.Timely]) rfl
  have binds := web_turns unbinds (.turn .pop) rfl (by simp [Stream.Timely]) rfl
  have skipped := web_turns binds .skip rfl (by simp [Stream.Timely]) rfl
  have answered := web_turns skipped (.answer (.bound "web" 2 80 (.v4 0))) rfl (by simp [Stream.Timely]) rfl
  have rebound : webStream.Reachable webRebound :=
    web_turns answered (.turn (.heard (.bound "web" 2 80 (.v4 0)))) rfl (by simp [Stream.Timely]) rfl
  have present : 2 ∈ webRebound.client.state.targets := by
    rw [Std.ExtTreeMap.mem_iff_isSome_getElem?]
    decide +kernel
  obtain ⟨taken, -, last⟩ := replaced_settings_unreachable _ "web" webRebound rebound
  obtain ⟨expose, asked, -, exposed⟩ := last 2 1 rfl (.inl present)
  exact ⟨rebound, present, taken rfl, expose, asked, exposed⟩

end Example
end Hawse.Proof.Stream
