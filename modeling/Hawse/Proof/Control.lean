import Hawse.Control
import Hawse.Proof.Client.Services
import Hawse.Proof.Server.Session

namespace Hawse.Proof.Control
open Lib Hawse.Client Hawse.Server Client

variable {this next : Control} {service : String}

def sent (this : Control) : List ClientMessage := this.toServer ++ this.client.pending

def coming (this : Control) : List ServerMessage := this.toClient ++ this.server.pending.reverse

def answers (service : String) (msgs : List ServerMessage) : List (Option UInt16) :=
  msgs.filterMap fun msg => (answer msg).bind fun (other, id) => if other = service then some id else none

def boundIds (msgs : List ServerMessage) : List UInt16 := msgs.filterMap fun msg => (answer msg).bind (·.2)

def view (service : String) (this : Control) : Exchange UInt16 where
  wanted := this.client.state.services.exposed[service]?.isSome
  id := this.client.state.services.ids[service]?
  left := this.client.state.services.left service
  up := asks service (sent this)
  down := answers service (coming this)
  held := this.server.session.services[service]?.map (·.id)

theorem answers_append (first second : List ServerMessage) :
    answers service (first ++ second) = answers service first ++ answers service second :=
  List.filterMap_append

theorem boundIds_append (first second : List ServerMessage) :
    boundIds (first ++ second) = boundIds first ++ boundIds second :=
  List.filterMap_append

theorem answers_quiet {msg : ServerMessage} (quiet : answer msg = none) : answers service [msg] = [] := by
  simp [answers, quiet]

theorem boundIds_quiet {msg : ServerMessage} (quiet : answer msg = none) : boundIds [msg] = [] := by
  simp [boundIds, quiet]

/-- Each service's exchange is sound, the client's maps are those of its services, and ids reach
the client in the order the server gave them out, each higher than the last. -/
structure Inv (this : Control) : Prop where
  sound : ∀ service, (view service this).Sound
  registered : Registered (this.client.state.services.exposed[·]?) this.client.state
  increasing : (boundIds (coming this)).Pairwise (· < ·)
  newer : ∀ (service : String) (id : UInt16), this.client.state.services.ids[service]? = some id →
    ∀ later ∈ boundIds (coming this), id < later
  issued : ∀ id ∈ boundIds (coming this), id ≤ this.server.session.lastId
  known : ∀ (service : String) (id : UInt16), this.client.state.services.ids[service]? = some id →
    id ≤ this.server.session.lastId

theorem Inv.congr (inv : Inv this) (state : next.client.state = this.client.state)
    (session : next.server.session = this.server.session)
    (up : ∀ service, asks service (sent next) = asks service (sent this))
    (down : ∀ service, answers service (coming next) = answers service (coming this))
    (ids : boundIds (coming next) = boundIds (coming this)) : Inv next := by
  obtain ⟨sound, registered, increasing, newer, issued, known⟩ := inv
  refine ⟨?_, ?_, ?_, ?_, ?_, ?_⟩
  · intro service
    have same : view service next = view service this := by
      simp only [view, state, session, up, down]
    rw [same]
    exact sound service
  · rw [state]
    exact registered
  · rw [ids]
    exact increasing
  · rw [state, ids]
    exact newer
  · rw [ids, session]
    exact issued
  · rw [state, session]
    exact known

section ClientTurns

theorem view_reexpose (wanted : Std.ExtTreeMap String Expose)
    (state : next.client.state = (this.client.state.reexpose wanted).2)
    (server : next.server = this.server) (toClient : next.toClient = this.toClient)
    (queued : sent next = sent this ++ (this.client.state.reexpose wanted).1) :
    Exchange.Step (view service this) (view service next) := by
  obtain ⟨exposed, left, ids⟩ := reexpose_fields this.client.state service wanted
  have msgs := asks_reexpose this.client.state service wanted
  by_cases touched : Touched this.client.state.services.exposed wanted
    this.client.state.services.failed service
  · rw [if_pos touched] at msgs
    have same : view service next = { view service this with
        wanted := wanted[service]?.isSome
        id := if (view service this).wanted then none else (view service this).id
        left := (view service this).left + (Exchange.binds wanted[service]?.isSome).length
        up := (view service this).up ++ (Exchange.unbinds (view service this).wanted ++
          Exchange.binds wanted[service]?.isSome) } := by
      ext1
      · simp only [view, state, exposed]
      · simp only [view, state, ids, msgs, Exchange.unbind_mem]
        rfl
      · simp only [view, state, left, msgs, Exchange.count_bind]
      · simp only [view, queued, asks_append, msgs]
      · simp only [view, coming, toClient, server]
      · simp only [view, server]
    rw [same]
    exact .reload _
  · rw [if_neg touched] at msgs
    have unchanged := untouched touched
    have same : view service next = view service this := by
      simp only [view, state, exposed, ids, left, msgs, queued, asks_append, coming, toClient, server,
        unchanged, List.append_nil, List.count_nil, Nat.add_zero, List.not_mem_nil, ↓reduceIte]
    rw [same]
    exact .idle

theorem Inv.reexpose (inv : Inv this) (wanted : Std.ExtTreeMap String Expose)
    (state : next.client.state = (this.client.state.reexpose wanted).2)
    (server : next.server = this.server) (toClient : next.toClient = this.toClient)
    (queued : sent next = sent this ++ (this.client.state.reexpose wanted).1) : Inv next := by
  have came : coming next = coming this := by simp only [coming, server, toClient]
  have kept : ∀ (service : String) (id : UInt16),
      next.client.state.services.ids[service]? = some id →
        this.client.state.services.ids[service]? = some id := by
    intro service id held
    rw [state, (reexpose_fields this.client.state service wanted).2.2] at held
    split_ifs at held
    exact held
  refine ⟨?_, ?_, ?_, ?_, ?_, ?_⟩
  · intro service
    exact (inv.sound service).step (view_reexpose wanted state server toClient queued)
  · have registered := inv.registered.reexpose wanted
    rw [state]
    exact registered
  · rw [came]
    exact inv.increasing
  · intro service id held
    rw [came]
    exact inv.newer service id (kept service id held)
  · rw [came, server]
    exact inv.issued
  · intro service id held
    rw [server]
    exact inv.known service id (kept service id held)

theorem answers_answer {msg : ServerMessage} {service other : String} {id : Option UInt16}
    (answered : answer msg = some (service, id)) :
    answers other [msg] = if service = other then [id] else [] := by
  by_cases same : service = other <;> simp [answers, answered, same]

theorem boundIds_answer {msg : ServerMessage} {service : String} {id : Option UInt16}
    (answered : answer msg = some (service, id)) : boundIds [msg] = id.toList := by
  cases id <;> simp [boundIds, answered]

theorem view_heard {msg : ServerMessage} {answered : String} {id : Option UInt16}
    (answers' : answer msg = some (answered, id))
    (heard : Heard this.client.state answered id next.client.state)
    (server : next.server = this.server) (queued : sent next = sent this)
    (came : coming this = msg :: coming next) :
    Exchange.Step (view service this) (view service next) := by
  obtain ⟨exposed, left, ids⟩ := heard_fields this.client.state heard service
  have down : answers service (coming this) =
      answers service [msg] ++ answers service (coming next) := by
    rw [came, ← answers_append]
    rfl
  rw [answers_answer answers'] at down
  by_cases mine : answered = service
  · subst mine
    simp only [↓reduceIte, List.singleton_append] at down left ids
    have same : view answered next = { view answered this with
        id := Exchange.idAfter (view answered this).wanted ((view answered this).left - 1 = 0) id
          (view answered this).id
        left := (view answered this).left - 1
        down := answers answered (coming next) } := by
      ext1
      · simp only [view, exposed]
      · exact ids
      · exact left
      · simp only [view, queued]
      · simp only [view]
      · simp only [view, server]
    rw [same]
    exact .hear id _ down
  · simp only [mine, Ne.symm mine, ↓reduceIte, List.nil_append] at down left ids
    have same : view service next = view service this := by
      simp only [view, exposed, left, ids, queued, down, server]
    rw [same]
    exact .idle

theorem Inv.heard (inv : Inv this) {msg : ServerMessage} {answered : String} {id : Option UInt16}
    (answers' : answer msg = some (answered, id))
    (heard : Heard this.client.state answered id next.client.state)
    (server : next.server = this.server) (queued : sent next = sent this)
    (came : coming this = msg :: coming next) : Inv next := by
  have ids : boundIds (coming this) = id.toList ++ boundIds (coming next) := by
    rw [came, ← boundIds_answer answers', ← boundIds_append]
    rfl
  obtain ⟨sound, registered, increasing, newer, issued, known⟩ := inv
  rw [ids] at increasing newer issued
  have later : ∀ new ∈ boundIds (coming next), new ∈ id.toList ++ boundIds (coming next) :=
    fun new member => List.mem_append_right _ member
  -- An id the client has after the answer, it had before or is the answer's.
  have origin : ∀ (service : String) (held : UInt16),
      next.client.state.services.ids[service]? = some held →
        this.client.state.services.ids[service]? = some held ∨ id = some held := by
    intro service held has
    rw [(heard_fields this.client.state heard service).2.2] at has
    split_ifs at has with mine
    · subst mine
      exact Exchange.idAfter_eq_some has
    · exact .inl has
  refine ⟨?_, ?_, ?_, ?_, ?_, ?_⟩
  · intro service
    exact (sound service).step (view_heard answers' heard server queued came)
  · apply registered.heard heard
    intro new same other held
    have less := newer other new held new (by simp [same])
    exact absurd less (UInt16.lt_irrefl new)
  · exact (List.pairwise_append.mp increasing).2.1
  · intro service held has new member
    rcases origin service held has with before | answered
    · exact newer service held before new (later new member)
    · exact (List.pairwise_append.mp increasing).2.2 held (by simp [answered]) new member
  · rw [server]
    intro new member
    exact issued new (later new member)
  · rw [server]
    intro service held has
    rcases origin service held has with before | answered
    · exact known service held before
    · exact issued held (by simp [answered])

end ClientTurns

section ServerTurns

theorem answers_revoked {msgs : List ServerMessage} (nodup : msgs.Nodup)
    (refusals : ∀ msg ∈ msgs, ∃ other, msg = .bindFailed other .notGranted) :
    answers service msgs = if .bindFailed service .notGranted ∈ msgs then [none] else [] := by
  induction msgs with
  | nil => rfl
  | cons msg msgs ih =>
      obtain ⟨unlisted, nodup⟩ := List.nodup_cons.mp nodup
      have rest := ih nodup fun msg member => refusals msg (.tail _ member)
      obtain ⟨other, rfl⟩ := refusals msg (.head _)
      have first : answers service [.bindFailed other .notGranted] =
          if other = service then [none] else [] := answers_answer rfl
      rw [← List.singleton_append, answers_append, rest, first]
      by_cases same : other = service
      · subst same
        simp [unlisted]
      · simp [same, Ne.symm same]

theorem boundIds_revoked {msgs : List ServerMessage}
    (refusals : ∀ msg ∈ msgs, ∃ other, msg = .bindFailed other .notGranted) : boundIds msgs = [] := by
  apply List.filterMap_eq_nil_iff.mpr
  intro msg member
  obtain ⟨other, rfl⟩ := refusals msg member
  rfl

theorem view_regrant {grant : Grant} {msgs : List ServerMessage}
    (client : next.client = this.client) (toServer : next.toServer = this.toServer)
    (down : answers service (coming next) = answers service (coming this) ++ answers service msgs)
    (dropped : Session.Loses this.server.session grant service →
      next.server.session.services[service]? = none)
    (left : ¬ Session.Loses this.server.session grant service →
      next.server.session.services[service]? = this.server.session.services[service]?)
    (nodup : msgs.Nodup)
    (told : ∀ msg, msg ∈ msgs ↔ ∃ other, Session.Loses this.server.session grant other ∧
      msg = .bindFailed other .notGranted) :
    Exchange.Step (view service this) (view service next) := by
  have revoked : answers service msgs =
      if .bindFailed service .notGranted ∈ msgs then [none] else [] := by
    apply answers_revoked nodup
    intro msg member
    obtain ⟨other, -, same⟩ := (told msg).mp member
    exact ⟨other, same⟩
  have listed : .bindFailed service .notGranted ∈ msgs ↔
      Session.Loses this.server.session grant service := by
    simp [told]
  rw [revoked] at down
  by_cases loses : Session.Loses this.server.session grant service
  · have same : view service next = { view service this with
        down := (view service this).down ++ [none], held := none } := by
      simp only [view, sent, client, toServer, down, listed, loses, dropped loses, ↓reduceIte,
        Option.map_none]
    rw [same]
    apply Exchange.Step.revoke
    obtain ⟨bound, held, -⟩ := loses
    simp [view, held]
  · have same : view service next = view service this := by
      simp only [view, sent, client, toServer, down, listed, loses, left loses, ↓reduceIte,
        List.append_nil]
    rw [same]
    exact .idle

theorem Inv.server (inv : Inv this) (state : next.client.state = this.client.state)
    (steps : ∀ service, Exchange.Step (view service this) (view service next))
    {msgs : List ServerMessage} (came : coming next = coming this ++ msgs) (id : Option UInt16)
    (ids : boundIds msgs = id.toList)
    (fresh : ∀ new, id = some new → this.server.session.lastId < new)
    (lastId : next.server.session.lastId = id.getD this.server.session.lastId) : Inv next := by
  have ids' : boundIds (coming next) = boundIds (coming this) ++ id.toList := by
    rw [came, boundIds_append, ids]
  obtain ⟨increasing, issued⟩ := Session.next_ascends inv.increasing inv.issued fresh lastId
  refine ⟨?_, ?_, ?_, ?_, ?_, ?_⟩
  · intro service
    exact (inv.sound service).step (steps service)
  · rw [state]
    exact inv.registered
  · rw [ids']
    exact increasing
  · rw [state, ids']
    intro service old held new member
    rcases List.mem_append.mp member with member | added
    · exact inv.newer service old held new member
    · exact UInt16.lt_of_le_of_lt (inv.known service old held) (fresh new (Option.mem_toList.mp added))
  · rw [ids']
    exact issued
  · rw [state]
    intro service old held
    exact Session.le_next fresh lastId (inv.known service old held)

theorem Inv.regrant (inv : Inv this) {policy : Policy} {msgs : List ServerMessage}
    {session : Server.Session} (regranted : Session.Regranted this.server.session policy msgs session)
    (after : next.server.session = session)
    (lastId : next.server.session.lastId = this.server.session.lastId)
    (client : next.client = this.client) (toServer : next.toServer = this.toServer)
    (toClient : next.toClient = this.toClient) (idle : this.server.pending = [])
    (order : next.server.pending.Perm msgs) : Inv next := by
  have came : coming next = coming this ++ next.server.pending.reverse := by
    simp [coming, idle, toClient]
  have up : sent next = sent this := by simp only [sent, client, toServer]
  have shut : ∀ reason, msgs = [.shutdown reason] → next.server.session = this.server.session →
      Inv next := by
    intro reason same session
    rw [same, List.perm_singleton] at order
    rw [order] at came
    apply inv.congr (by rw [client]) session
    · intro service
      rw [up]
    · intro service
      rw [came, answers_append]
      exact List.append_nil _
    · rw [came, boundIds_append]
      exact List.append_nil _
  cases regranted with
  | gone none reason => exact shut reason rfl after
  | changed grant found differs reason => exact shut reason rfl after
  | kept grant found name bind allow session key taken dropped left msgs nodup told =>
      have reversed : next.server.pending.reverse.Perm msgs := (List.reverse_perm _).trans order
      have told' : ∀ msg, msg ∈ next.server.pending.reverse ↔
          ∃ other, Session.Loses this.server.session grant other ∧
            msg = .bindFailed other .notGranted := by
        intro msg
        rw [reversed.mem_iff]
        exact told msg
      apply inv.server (by rw [client]) _ came none
      · apply boundIds_revoked
        intro msg member
        obtain ⟨other, -, same⟩ := (told' msg).mp member
        exact ⟨other, same⟩
      · intro new same
        cases same
      · exact lastId
      · intro service
        apply view_regrant client toServer _ _ _ (reversed.nodup_iff.mpr nodup) told'
        · rw [came, answers_append]
        · rw [after]
          exact dropped service
        · rw [after]
          exact left service

theorem asks_heard {msg : ClientMessage} (heard : sent this = msg :: sent next) :
    asks service (sent this) = asks service [msg] ++ asks service (sent next) := by
  rw [heard, ← asks_append]
  rfl

theorem view_bind {asking : String} {msg : ClientMessage} {reply : ServerMessage} {id : Option UInt16}
    (asks' : ∀ service, asks service [msg] = if asking = service then [.bind] else [])
    (heard : sent this = msg :: sent next) (client : next.client = this.client)
    (held : ∀ service : String, next.server.session.services[service]?.map (·.id) =
      if asking = service ∧ this.server.session.services[asking]? = none then id
      else this.server.session.services[service]?.map (·.id))
    (refused : this.server.session.services[asking]? ≠ none → id = none)
    (replied : answer reply = some (asking, id)) (came : coming next = coming this ++ [reply]) :
    Exchange.Step (view service this) (view service next) := by
  have up : asks service (sent this) = asks service [msg] ++ asks service (sent next) := asks_heard heard
  have down : answers service (coming next) = answers service (coming this) ++ answers service [reply] := by
    rw [came, answers_append]
  rw [asks'] at up
  rw [answers_answer replied] at down
  by_cases mine : asking = service
  · subst mine
    simp only [↓reduceIte, List.singleton_append] at up down
    specialize held asking
    by_cases free : this.server.session.services[asking]? = none
    · simp only [free, and_self, ↓reduceIte] at held
      have same : view asking next = { view asking this with
          up := asks asking (sent next)
          down := (view asking this).down ++ [id]
          held := id } := by
        simp only [view, client, down, held]
      rw [same]
      apply Exchange.Step.answer id _ up
      simp [view, free]
    · simp only [free, and_false, ↓reduceIte] at held
      obtain rfl := refused free
      have same : view asking next = { view asking this with
          up := asks asking (sent next), down := (view asking this).down ++ [none] } := by
        simp only [view, client, down, held]
      rw [same]
      apply Exchange.Step.refuse _ up
      simpa [view] using free
  · have others := held service
    simp only [mine, false_and, ↓reduceIte, List.nil_append, List.append_nil] at up down others
    have same : view service next = view service this := by
      simp only [view, client, others, down, up]
    rw [same]
    exact .idle

theorem view_unbind {asking : String}
    (heard : sent this = .unbind asking :: sent next) (client : next.client = this.client)
    (session : next.server.session = (this.server.session.unbind asking).2)
    (came : coming next = coming this) : Exchange.Step (view service this) (view service next) := by
  have up : asks service (sent this) =
      (if asking = service then [.unbind] else []) ++ asks service (sent next) := by
    rw [asks_heard heard]
    by_cases mine : asking = service <;> simp [asks, asked, mine]
  have held : next.server.session.services[service]? =
      if service = asking then none else this.server.session.services[service]? := by
    rw [session, Session.unbind_getElem?]
  by_cases mine : asking = service
  · simp only [mine, ↓reduceIte, List.singleton_append] at up held
    have same : view service next = { view service this with
        up := asks service (sent next), held := none } := by
      simp only [view, client, came, held, Option.map_none]
    rw [same]
    exact .unbind _ up
  · simp only [mine, Ne.symm mine, ↓reduceIte, List.nil_append] at up held
    have same : view service next = view service this := by
      simp only [view, client, came, held, up]
    rw [same]
    exact .idle

theorem Inv.bind [Ipnet] (inv : Inv this) {asking : String} {kind : Kind} {port : Option UInt16}
    {allow : List IpNet} {proxyProtocol : Bool} {opened : Except BindFailure Port}
    {reply : ServerMessage} {session : Server.Session}
    (answered : Session.Answered this.server.session asking port.isSome allow opened reply session)
    (goesOn : ∀ reason, reply ≠ .shutdown reason) (after : next.server.session = session)
    (heard : sent this = .bind asking kind port allow proxyProtocol :: sent next)
    (client : next.client = this.client) (came : coming next = coming this ++ [reply]) : Inv next := by
  have asks' : ∀ service, asks service [.bind asking kind port allow proxyProtocol] =
      if asking = service then [.bind] else [] := by
    intro service
    by_cases mine : asking = service <;> simp [asks, asked, mine]
  cases answered with
  | shutdown used reason => exact absurd rfl (goesOn reason)
  | failed reason =>
      apply inv.server (by rw [client]) _ came none
      · exact boundIds_answer rfl
      · intro new same
        cases same
      · rw [after]
        rfl
      · intro service
        apply view_bind asks' heard client _ (fun _ => rfl) rfl came
        intro other
        rw [after]
        split_ifs with free
        · rw [← free.1, free.2]
          rfl
        · rfl
  | bound id number admitted proxy free effective fresh got =>
      apply inv.server (by rw [client]) _ came (some id)
      · exact boundIds_answer rfl
      · intro new same
        obtain rfl := Option.some.inj same
        exact Session.nextId_lt fresh
      · rw [after]
        rfl
      · intro service
        apply view_bind asks' heard client _ (fun had => absurd free had) rfl came
        intro other
        rw [after]
        simp only [Std.ExtTreeMap.getElem?_insert, Std.compare_eq_iff_eq, free, and_true]
        split_ifs <;> rfl

theorem Inv.unbind (inv : Inv this) {asking : String}
    (heard : sent this = .unbind asking :: sent next) (client : next.client = this.client)
    (session : next.server.session = (this.server.session.unbind asking).2)
    (came : coming next = coming this) : Inv next := by
  have came' : coming next = coming this ++ [] := by rw [came, List.append_nil]
  apply inv.server (by rw [client]) _ came' none rfl
  · intro new same
    cases same
  · rw [session]
    rfl
  · intro service
    exact view_unbind heard client session came

end ServerTurns

section Steps
variable [Ipnet] {remote : SocketAddr}

theorem client_step_inv (inv : Inv this) {event : Client.Serve.Event}
    (quiet : ∀ msg, event ≠ .heard msg) (turned : this.turn remote (.client event) = some next) :
    Inv next := by
  simp only [Control.turn] at turned
  cases event with
  | reload wanted =>
      simp only [Client.Serve.step, Option.some.injEq] at turned
      subst turned
      refine inv.congr rfl rfl ?_ (fun _ => rfl) rfl
      intro service
      simp [sent]
  | pop =>
      cases waiting : this.client.pending with
      | nil => simp [Client.Serve.step, waiting] at turned
      | cons msg pending =>
          simp only [Client.Serve.step, waiting, Option.some.injEq] at turned
          subst turned
          refine inv.congr rfl rfl ?_ (fun _ => rfl) rfl
          intro service
          simp [sent, waiting]
  | changed =>
      simp only [Client.Serve.step] at turned
      split_ifs at turned
      simp only [Option.some.injEq] at turned
      subst turned
      refine inv.reexpose this.client.wanted rfl rfl rfl ?_
      simp [sent]
  | ping =>
      simp only [Client.Serve.step, Option.some.injEq] at turned
      subst turned
      refine inv.congr rfl rfl ?_ (fun _ => rfl) rfl
      intro service
      simp only [sent, asks_append]
      rw [List.append_assoc]
      rfl
  | heard msg => exact absurd rfl (quiet msg)

theorem client_heard_inv (inv : Inv this) {msg : ServerMessage}
    (stepped : this.step remote (.client (.heard msg)) = some next) :
    next.ended = true ∨ Inv next := by
  simp only [Control.step, Control.deliver] at stepped
  split_ifs at stepped with first
  obtain ⟨rest, split⟩ := List.head?_eq_some_iff.mp first
  simp only [Control.turn, Client.Serve.step, split, List.tail_cons] at stepped
  cases answered : answer msg with
  | some found =>
      obtain ⟨service, id⟩ := found
      obtain ⟨silent, heard⟩ := heard_heard this.client.state remote answered
      rw [silent] at stepped
      simp only [Option.some.injEq] at stepped
      subst stepped
      refine .inr (inv.heard answered heard rfl ?_ ?_)
      · simp [sent]
      · simp [coming, split]
  | none =>
      have same := heard_other this.client.state remote answered
      have came : ∀ service, answers service (coming this) =
          answers service (rest ++ this.server.pending.reverse) := by
        intro service
        rw [coming, split, List.cons_append, ← List.singleton_append, answers_append,
          answers_quiet answered]
        rfl
      have ids : boundIds (coming this) = boundIds (rest ++ this.server.pending.reverse) := by
        rw [coming, split, List.cons_append, ← List.singleton_append, boundIds_append,
          boundIds_quiet answered]
        rfl
      rw [same] at stepped
      cases replied : (this.client.state.heard remote msg).1 with
      | error reason =>
          simp only [replied, Option.some.injEq] at stepped
          subst stepped
          exact .inl rfl
      | ok reply =>
          simp only [replied, Option.some.injEq] at stepped
          subst stepped
          refine .inr (inv.congr rfl rfl ?_ (fun service => (came service).symm) ids.symm)
          intro service
          have silent := heard_reply this.client.state remote service answered replied
          simp [sent, asks_append, silent]

theorem server_step_inv (inv : Inv this) {event : Server.Serve.Event}
    (quiet : ∀ msg opened, event ≠ .heard msg opened)
    (turned : this.turn remote (.server event) = some next) : next.ended = true ∨ Inv next := by
  simp only [Control.turn] at turned
  cases event with
  | reload policy =>
      simp only [Server.Serve.step, Option.some.injEq] at turned
      subst turned
      refine .inr (inv.congr rfl rfl (fun _ => rfl) ?_ ?_)
      · intro service
        simp [coming]
      · simp [coming]
  | pop =>
      cases top : this.server.pending.getLast? with
      | none => simp [Server.Serve.step, top] at turned
      | some msg =>
          simp only [Server.Serve.step, top, Option.some.injEq] at turned
          subst turned
          rcases Session.reply_cases { this.server with pending := this.server.pending.dropLast } msg
            with ⟨same, -⟩ | ended
          · rw [same]
            have came : this.toClient ++ (some msg).toList ++ this.server.pending.dropLast.reverse =
                coming this := by
              obtain ⟨rest, split⟩ := List.getLast?_eq_some_iff.mp top
              simp [coming, split]
            refine .inr (inv.congr rfl rfl (fun _ => rfl) ?_ ?_)
            · intro service
              exact congrArg (answers service) came
            · exact congrArg boundIds came
          · exact .inl ended
  | ping =>
      simp only [Server.Serve.step, Option.some.injEq] at turned
      subst turned
      refine .inr (inv.congr rfl rfl (fun _ => rfl) ?_ ?_)
      · intro service
        simp [coming, answers, answer]
      · simp [coming, boundIds, answer]
  | regrant pending =>
      simp only [Server.Serve.step] at turned
      split_ifs at turned with enabled
      simp only [Option.some.injEq] at turned
      subst turned
      refine .inr (inv.regrant (Session.regrant_regranted this.server.session this.server.policy) rfl
        (Session.regrant_lastId _ _) rfl rfl ?_ enabled.2.1 enabled.2.2)
      simp
  | heard msg opened => exact absurd rfl (quiet msg opened)
  | stop =>
      simp only [Server.Serve.step, Option.some.injEq] at turned
      subst turned
      exact .inl rfl

theorem server_heard_inv (inv : Inv this) {msg : ClientMessage} {opened : Except BindFailure Port}
    (stepped : this.step remote (.server (.heard msg opened)) = some next) :
    next.ended = true ∨ Inv next := by
  simp only [Control.step, Control.deliver] at stepped
  split_ifs at stepped with first
  obtain ⟨rest, split⟩ := List.head?_eq_some_iff.mp first
  simp only [Control.turn, Server.Serve.step, split, List.tail_cons] at stepped
  split_ifs at stepped with idle
  have heard : sent this = msg :: (rest ++ this.client.pending) := by simp [sent, split]
  cases msg with
  | bind service kind port allow proxyProtocol =>
      simp only [Option.some.injEq] at stepped
      subst stepped
      have answered := Session.bind_answered this.server.session service port allow proxyProtocol opened
      rcases Session.reply_cases { this.server with
          session := (this.server.session.bind service port allow proxyProtocol opened).2 }
          (this.server.session.bind service port allow proxyProtocol opened).1 with
        ⟨same, goesOn⟩ | ended
      · rw [same]
        refine .inr (inv.bind answered goesOn rfl heard rfl ?_)
        simp [coming, idle]
      · exact .inl ended
  | unbind service =>
      simp only [Option.some.injEq] at stepped
      subst stepped
      refine .inr (inv.unbind heard rfl rfl ?_)
      simp [coming]
  | ping nonce =>
      simp only [Option.some.injEq] at stepped
      subst stepped
      refine .inr (inv.congr rfl rfl ?_ ?_ ?_)
      · intro service
        rw [heard]
        rfl
      · intro service
        simp [coming, answers, answer]
      · simp [coming, boundIds, answer]
  | pong nonce =>
      simp only [Option.some.injEq] at stepped
      subst stepped
      refine .inr (inv.congr rfl rfl ?_ ?_ ?_)
      · intro service
        rw [heard]
        rfl
      · intro service
        simp [coming]
      · simp [coming]
  | hello name agent =>
      simp only [Option.some.injEq] at stepped
      subst stepped
      exact .inl rfl

theorem step_inv {key : PublicKey} {event : Control.Event} (inv : Inv this)
    (step : (control remote key).step this event next) : next.ended = true ∨ Inv next := by
  obtain ⟨-, -, stepped⟩ := step
  cases event with
  | client event =>
      by_cases hears : ∃ msg, event = .heard msg
      · obtain ⟨msg, rfl⟩ := hears
        exact client_heard_inv inv stepped
      · push Not at hears
        have turned : this.turn remote (.client event) = some next := by
          cases event with
          | heard msg => exact absurd rfl (hears msg)
          | reload | pop | changed | ping => exact stepped
        exact .inr (client_step_inv inv hears turned)
  | server event =>
      rcases Control.step_server stepped with ⟨msg, opened, rfl⟩ | ⟨quiet, turned⟩
      · exact server_heard_inv inv stepped
      · exact server_step_inv inv quiet turned

end Steps

section Rest

theorem start_inv {key : PublicKey} (exposed : Std.ExtTreeMap String Expose) (grant : Grant) (policy : Policy) :
    Inv (Control.start exposed key grant policy) := by
  have nobody : ∀ service : String, (State.new exposed).services.ids[service]? = none := new_ids exposed
  refine ⟨?_, .new exposed, List.Pairwise.nil, ?_, ?_, ?_⟩
  · intro service
    have fields : view service (Control.start exposed key grant policy) =
        { wanted := exposed[service]?.isSome
          id := none
          left := (Exchange.binds exposed[service]?.isSome).length
          up := Exchange.binds exposed[service]?.isSome
          down := []
          held := none } := by
      ext1
      · rfl
      · exact nobody service
      · exact new_left exposed service
      · show asks service (Client.Serve.greeting exposed ++ []) = _
        rw [List.append_nil, asks_greeting]
      · rfl
      · rfl
    rw [fields]
    cases exposed[service]?.isSome with
    | false => exact ⟨Nat.le_refl 0, trivial, fun _ => ⟨rfl, .inr ⟨rfl, rfl⟩⟩, by simp⟩
    | true => exact ⟨Nat.le_refl 1, ⟨rfl, trivial⟩, by simp, fun _ => .inl rfl⟩
  · intro service id held
    cases (nobody service).symm.trans held
  · nofun
  · intro service id held
    cases (nobody service).symm.trans held

theorem taken_turn [Ipnet] {remote : SocketAddr} {event : Control.Event} (taken : Taken this.client)
    (turned : this.turn remote event = some next) : Taken next.client := by
  cases event with
  | client event =>
      simp only [Control.turn] at turned
      split at turned
      · cases turned
      · next reason client stepped =>
          obtain rfl := Option.some.inj turned
          exact taken.step stepped
      · next sent client stepped =>
          obtain rfl := Option.some.inj turned
          exact taken.step stepped
  | server event =>
      simp only [Control.turn] at turned
      split at turned
      · cases turned
      · obtain rfl := Option.some.inj turned
        exact taken

theorem deliver_client [Ipnet] {event : Control.Event} (delivered : this.deliver event = some next) :
    next.client = this.client := by
  unfold Control.deliver at delivered
  split at delivered
  · split_ifs at delivered
    obtain rfl := Option.some.inj delivered
    rfl
  · split_ifs at delivered
    obtain rfl := Option.some.inj delivered
    rfl
  · obtain rfl := Option.some.inj delivered
    rfl

theorem reachable_taken [Ipnet] {remote : SocketAddr} {key : PublicKey}
    (reachable : (control remote key).Reachable this) : Taken this.client := by
  apply reachable.invariant fun this => Taken this.client
  · intro start ⟨exposed, grant, policy, found, same⟩
    rw [same]
    exact fun _ => rfl
  · intro before event after _ taken ⟨_, _, stepped⟩
    unfold Control.step at stepped
    split at stepped
    · cases stepped
    · next middle delivered =>
        have same := deliver_client delivered
        exact taken_turn (same ▸ taken) stepped

theorem reachable_inv [Ipnet] {remote : SocketAddr} {key : PublicKey}
    (reachable : (control remote key).Reachable this) :
    this.ended = true ∨ Inv this := by
  apply reachable.invariant fun this => this.ended = true ∨ Inv this
  · intro start ⟨exposed, grant, policy, found, same⟩
    rw [same]
    exact .inr (start_inv exposed grant policy)
  · intro before event after _ inv step
    rcases inv with ended | inv
    · rw [step.1] at ended
      cases ended
    · exact step_inv inv step

theorem ends_agree_at_rest [Ipnet] (remote : SocketAddr) (key : PublicKey) (this : Control)
    (reachable : (control remote key).Reachable this) (rest : this.AtRest) :
    this.client.state.services.exposed = this.client.wanted ∧
    (∀ (service : String) (id : UInt16), this.client.state.services.ids[service]? = some id ↔
      ∃ bound, this.server.session.services[service]? = some bound ∧ bound.id = id) ∧
    (∀ service ∈ this.server.session.services, service ∈ this.client.state.services.exposed) ∧
    (∀ (service : String) (id : UInt16), this.client.state.services.ids[service]? = some id →
      ∃ expose, this.client.state.services.exposed[service]? = some expose ∧
        Entry this.client.state id service expose) ∧
    ∀ id : UInt16, id ∈ this.client.state.targets ∨ id ∈ this.client.state.udp →
      ∃ service : String, this.client.state.services.ids[service]? = some id := by
  obtain ⟨running, toServer, toClient, clientPending, serverPending, clientTaken, -⟩ := rest
  rcases reachable_inv reachable with ended | inv
  · rw [running] at ended
    cases ended
  have agree : ∀ service : String, this.client.state.services.ids[service]? =
        this.server.session.services[service]?.map (·.id) ∧
      (this.client.state.services.exposed[service]?.isSome = false →
        this.server.session.services[service]?.map (·.id) = none) := by
    intro service
    apply (inv.sound service).agree
    · simp [view, sent, toServer, clientPending, asks]
    · simp [view, coming, toClient, serverPending, answers]
  refine ⟨reachable_taken reachable clientTaken, ?_, ?_, inv.registered.entry, ?_⟩
  · intro service id
    rw [(agree service).1, Option.map_eq_some_iff]
  · intro service held
    rw [Std.ExtTreeMap.mem_iff_isSome_getElem?] at held ⊢
    by_contra gone
    have free := (agree service).2 (Bool.eq_false_iff.mpr gone)
    rw [Option.map_eq_none_iff.mp free] at held
    cases held
  · intro id present
    exact inv.registered.present present

end Rest

section Example
attribute [local instance] ipnet

abbrev webControl : System Control Control.Event := control ⟨.v4 0, 7835⟩ (Vector.replicate 32 7)

theorem web_turns (reachable : webControl.Reachable this) (event : Control.Event) (running : this.ended = false)
    (real : event.Real this) (stepped : this.step ⟨.v4 0, 7835⟩ event = some next) : webControl.Reachable next :=
  reachable.next ⟨running, real, stepped⟩

def webAgreed : Control where
  client := { Client.Serve.new webExposed with state := webState }
  server := ⟨Session.webBound, Session.webPolicy, false, [], 0, false⟩
  toServer := []
  toClient := []
  ended := false

def webTaken : Control :=
  { webAgreed with client := { webAgreed.client with
      wanted := webMoved
      state := webTold
      pending := [.unbind "web", .bind "web" .tcp (some 80) [] false] } }

def webAnswered : Control :=
  { webTaken with
    client := { webTaken.client with pending := [] }
    server := { webTaken.server with
      session := ((Session.webBound.unbind "web").2.bind "web" (some 80) [] false (.ok ⟨80, .tcp⟩)).2 }
    toClient := [.bound "web" 2 80 (.v4 0)] }

def webRebound : Control :=
  { webAnswered with client := { webAnswered.client with state := webAgain }, toClient := [] }

/-- The service is bound, a reload gives it another local address, and it is unbound and bound anew. -/
theorem ends_agree_at_rest_web :
    webControl.Reachable webRebound ∧ webRebound.AtRest ∧
    webRebound.client.state.services.exposed = webMoved ∧
    ∃ bound, webRebound.server.session.services["web"]? = some bound ∧ bound.id = 2 := by
  have start : webControl.Reachable
      (Control.start webExposed (Vector.replicate 32 7) Session.webGrant Session.webPolicy) :=
    .initial ⟨webExposed, Session.webGrant, Session.webPolicy,
      by simp [Policy.lookup, Session.webPolicy], rfl⟩
  have asked := web_turns start (.server (.heard (.bind "web" .tcp (some 80) [] false) (.ok ⟨80, .tcp⟩)))
    rfl (Session.web_opens (by decide)) rfl
  have agreed : webControl.Reachable webAgreed :=
    web_turns asked (.client (.heard (.bound "web" 1 80 (.v4 0)))) rfl trivial rfl
  have reloaded := web_turns agreed (.client (.reload webMoved)) rfl trivial rfl
  have taken : webControl.Reachable webTaken := by
    apply web_turns reloaded (.client .changed) rfl trivial
    rw [webTaken, ← web_told]
    rfl
  have unbinds := web_turns taken (.client .pop) rfl trivial rfl
  have binds := web_turns unbinds (.client .pop) rfl trivial rfl
  have unbound := web_turns binds (.server (.heard (.unbind "web") (.error .inUse))) rfl trivial rfl
  have answered : webControl.Reachable webAnswered := web_turns unbound
    (.server (.heard (.bind "web" .tcp (some 80) [] false) (.ok ⟨80, .tcp⟩))) rfl (Session.web_opens (by decide)) rfl
  have heard : webControl.Reachable webRebound :=
    web_turns answered (.client (.heard (.bound "web" 2 80 (.v4 0)))) rfl trivial rfl
  have rest : webRebound.AtRest := ⟨rfl, rfl, rfl, rfl, rfl, rfl, rfl⟩
  obtain ⟨exposed, agree, -⟩ := ends_agree_at_rest _ _ webRebound heard rest
  exact ⟨heard, rest, exposed, (agree "web" 2).mp web_again⟩

end Example
end Hawse.Proof.Control
