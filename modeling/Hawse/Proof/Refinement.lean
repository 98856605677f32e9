import Hawse.Control
import Hawse.Client.Stream
import Hawse.Proof.Server.Session

namespace Hawse.Proof.Refinement
open Lib Hawse.Client Hawse.Server

variable {this next : Control} {seen after : Stream} {remote : SocketAddr}

/-- A session as its client sees it. The server has no `Bound` waiting to be sent, and has granted
no id past its last. -/
structure Sees (this : Control) (seen : Stream) : Prop where
  client : seen.client = this.client
  toServer : seen.toServer = this.toServer
  toClient : seen.toClient.map (·.2) = this.toClient
  running : seen.ended = false
  pending : ∀ msg ∈ this.server.pending, ∀ service id port address, msg ≠ .bound service id port address
  granted : ∀ id, seen.granted id ≠ none → id ≤ this.server.session.lastId

def Follows (remote : SocketAddr) (seen : Stream) (next : Control) : Prop :=
  (stream remote).Reachable seen →
    ∃ after, (stream remote).Reachable after ∧ (next.ended = true ∨ Sees next after)

theorem Follows.of_step {event : Stream.Event} (running : seen.ended = false)
    (stepped : seen.step remote event = some after) (sees : next.ended = true ∨ Sees next after) :
    Follows remote seen next := by
  intro reachable
  exact ⟨after, reachable.next ⟨running, stepped⟩, sees⟩

theorem Sees.unseen (sees : Sees this seen) (client : next.client = this.client)
    (toServer : next.toServer = this.toServer) (toClient : next.toClient = this.toClient)
    (lastId : next.server.session.lastId = this.server.session.lastId)
    (pending : ∀ msg ∈ next.server.pending, ∀ service id port address,
      msg ≠ .bound service id port address) : Sees next seen :=
  ⟨sees.client.trans client.symm, sees.toServer.trans toServer.symm, sees.toClient.trans toClient.symm,
    sees.running, pending, by rw [lastId]; exact sees.granted⟩

theorem Sees.send (sees : Sees this seen) (msg : ServerMessage)
    (unbound : ∀ service id port address, msg ≠ .bound service id port address)
    (client : next.client = this.client) (toServer : next.toServer = this.toServer)
    (toClient : next.toClient = this.toClient ++ [msg])
    (lastId : next.server.session.lastId = this.server.session.lastId)
    (pending : ∀ msg ∈ next.server.pending, msg ∈ this.server.pending) : Follows remote seen next := by
  have stepped : seen.step remote (.send msg) =
      some { seen with toClient := seen.toClient ++ [(none, msg)] } := by
    cases msg with
    | bound service id port address => exact absurd rfl (unbound service id port address)
    | welcome | denied | bindFailed | shutdown | ping | pong => rfl
  refine .of_step sees.running stepped (.inr ⟨sees.client.trans client.symm,
    sees.toServer.trans toServer.symm, ?_, sees.running, ?_, ?_⟩)
  · rw [List.map_append, sees.toClient, toClient]
    rfl
  · intro msg waiting
    exact sees.pending msg (pending msg waiting)
  · rw [lastId]
    exact sees.granted

section Client

theorem Sees.deliver (sees : Sees this seen) {event : Client.Serve.Event}
    (delivered : this.deliver (.client event) = some next) :
    ∃ after, seen.deliver event = some after ∧ Sees next after := by
  cases event with
  | heard msg =>
      simp only [Control.deliver] at delivered
      split_ifs at delivered with first
      cases delivered
      obtain ⟨rest, split⟩ := List.head?_eq_some_iff.mp first
      have came := sees.toClient
      rw [split] at came
      obtain ⟨⟨number, next⟩, later, waiting, rfl, same⟩ := List.map_eq_cons_iff.mp came
      refine ⟨{ seen with toClient := later }, ?_, ?_⟩
      · simp [Stream.deliver, waiting]
      · refine ⟨sees.client, sees.toServer, ?_, sees.running, sees.pending, sees.granted⟩
        rw [same, split]
        rfl
  | reload | pop | changed | ping =>
      cases delivered
      exact ⟨seen, rfl, sees⟩

variable [Ipnet]

theorem Sees.turn (sees : Sees this seen) {event : Client.Serve.Event}
    (turned : this.turn remote (.client event) = some next) :
    ∃ after, seen.turn remote event = some after ∧ (next.ended = true ∨ Sees next after) := by
  unfold Control.turn at turned
  unfold Stream.turn
  rw [sees.client]
  cases result : this.client.step remote event with
  | none => simp [result] at turned
  | some outcome =>
      obtain ⟨sent, client⟩ := outcome
      cases sent with
      | error reason =>
          simp only [result, Option.some.injEq] at turned
          subst turned
          exact ⟨_, rfl, .inl rfl⟩
      | ok sent =>
          simp only [result, Option.some.injEq] at turned
          subst turned
          refine ⟨_, rfl, .inr ⟨rfl, ?_, sees.toClient, sees.running, sees.pending, sees.granted⟩⟩
          simp only [sees.toServer]

theorem Sees.client_step (sees : Sees this seen) {event : Client.Serve.Event}
    (stepped : this.step remote (.client event) = some next) : Follows remote seen next := by
  unfold Control.step at stepped
  cases delivered : this.deliver (.client event) with
  | none => simp [delivered] at stepped
  | some middle =>
      simp only [delivered] at stepped
      obtain ⟨between, delivers, sees'⟩ := sees.deliver delivered
      obtain ⟨after, turns, result⟩ := sees'.turn stepped
      have together : seen.step remote (.turn event) = some after := by
        simp only [Stream.step, delivers, turns]
      exact .of_step sees.running together result

end Client

section Server

theorem Sees.answer [Ipnet] (sees : Sees this seen) {service : String} {kind : Kind}
    {port : Option UInt16} {allow : List IpNet} {proxyProtocol : Bool}
    {opened : Except BindFailure Port} {reply : ServerMessage} {session : Server.Session}
    (answered : Session.Answered this.server.session service port.isSome allow opened reply session)
    (goesOn : ∀ reason, reply ≠ .shutdown reason)
    (heard : this.toServer = .bind service kind port allow proxyProtocol :: next.toServer)
    (client : next.client = this.client) (toClient : next.toClient = this.toClient ++ [reply])
    (result : next.server.session = session) (pending : next.server.pending = this.server.pending) :
    Follows remote seen next := by
  have waiting : seen.toServer = .bind service kind port allow proxyProtocol :: next.toServer :=
    sees.toServer.trans heard
  have came : ∀ number : Nat, (seen.toClient ++ [(some number, reply)]).map (·.2) = next.toClient := by
    intro number
    rw [List.map_append, sees.toClient, toClient]
    rfl
  have stillUnbound : ∀ msg ∈ next.server.pending, ∀ service id port address,
      msg ≠ .bound service id port address := by
    rw [pending]
    exact sees.pending
  cases answered with
  | shutdown used reason => exact absurd rfl (goesOn reason)
  | failed reason =>
      have stepped : seen.step remote (.answer (.bindFailed service reason)) = some { seen with
          toServer := next.toServer
          toClient := seen.toClient ++ [(some (seen.handled service), .bindFailed service reason)]
          handled := Function.update seen.handled service (seen.handled service + 1) } := by
        simp [Stream.step, waiting, Stream.bindOf, Stream.answer]
      refine .of_step sees.running stepped (.inr ⟨sees.client.trans client.symm, rfl, came _,
        sees.running, stillUnbound, ?_⟩)
      rw [result]
      exact sees.granted
  | bound id number admitted proxy free effective fresh got =>
      have newer := Session.nextId_lt fresh
      have ungranted : seen.granted id = none := by
        by_contra used
        exact absurd (UInt16.lt_of_lt_of_le newer (sees.granted id used)) (UInt16.lt_irrefl _)
      have stepped : seen.step remote
          (.answer (.bound service id number.number this.server.session.grant.bind)) = some { seen with
            toServer := next.toServer
            toClient := seen.toClient ++ [(some (seen.handled service),
              .bound service id number.number this.server.session.grant.bind)]
            handled := Function.update seen.handled service (seen.handled service + 1)
            granted := Function.update seen.granted id (some (service, seen.handled service)) } := by
        simp [Stream.step, waiting, Stream.bindOf, Stream.answer, ungranted]
      refine .of_step sees.running stepped (.inr ⟨sees.client.trans client.symm, rfl, came _,
        sees.running, stillUnbound, ?_⟩)
      intro old granted
      rw [result]
      by_cases same : old = id
      · rw [same]
        exact UInt16.le_refl _
      · simp only [Function.update_of_ne same] at granted
        exact UInt16.le_trans (sees.granted old granted) (UInt16.le_of_lt newer)

theorem Sees.skip (sees : Sees this seen) {msg : ClientMessage} (unbound : Stream.bindOf msg = none)
    (heard : this.toServer = msg :: next.toServer) (client : next.client = this.client)
    (toClient : next.toClient = this.toClient)
    (lastId : next.server.session.lastId = this.server.session.lastId)
    (pending : next.server.pending = this.server.pending) : Follows remote seen next := by
  have stepped : seen.step remote .skip = some { seen with toServer := next.toServer } := by
    simp [Stream.step, sees.toServer.trans heard, unbound]
  refine .of_step sees.running stepped (.inr ⟨sees.client.trans client.symm, rfl,
    sees.toClient.trans toClient.symm, sees.running, ?_, ?_⟩)
  · rw [pending]
    exact sees.pending
  · rw [lastId]
    exact sees.granted

theorem regranted_unbound {session session' : Server.Session} {policy : Policy}
    {msgs : List ServerMessage} (regranted : Session.Regranted session policy msgs session') :
    ∀ msg ∈ msgs, ∀ service id port address, msg ≠ .bound service id port address := by
  intro msg listed
  cases regranted with
  | gone none reason =>
      rw [List.mem_singleton.mp listed]
      simp
  | changed grant found differs reason =>
      rw [List.mem_singleton.mp listed]
      simp
  | kept grant found name bind allow next key taken dropped left msgs nodup told =>
      obtain ⟨service, -, rfl⟩ := (told msg).mp listed
      simp

variable [Ipnet]

theorem Sees.server_turn (sees : Sees this seen) {event : Server.Serve.Event}
    (quiet : ∀ msg opened, event ≠ .heard msg opened)
    (turned : this.turn remote (.server event) = some next) : Follows remote seen next := by
  have stays : next.ended = true ∨ Sees next seen → Follows remote seen next :=
    fun result reachable => ⟨seen, reachable, result⟩
  simp only [Control.turn] at turned
  cases event with
  | reload policy =>
      simp only [Server.Serve.step, Option.some.injEq] at turned
      subst turned
      exact stays (.inr (sees.unseen rfl rfl (List.append_nil _) rfl sees.pending))
  | pop =>
      cases top : this.server.pending.getLast? with
      | none => simp [Server.Serve.step, top] at turned
      | some msg =>
          simp only [Server.Serve.step, top, Option.some.injEq] at turned
          subst turned
          rcases Session.reply_cases { this.server with pending := this.server.pending.dropLast } msg
            with ⟨same, -⟩ | ended
          · rw [same]
            refine sees.send msg (sees.pending msg (List.mem_of_getLast? top)) rfl rfl rfl rfl ?_
            exact fun msg waiting => List.mem_of_mem_dropLast waiting
          · exact stays (.inl ended)
  | ping =>
      simp only [Server.Serve.step, Option.some.injEq] at turned
      subst turned
      exact sees.send (.ping _) (by simp) rfl rfl rfl rfl fun _ waiting => waiting
  | regrant pending =>
      simp only [Server.Serve.step] at turned
      split_ifs at turned with enabled
      simp only [Option.some.injEq] at turned
      subst turned
      refine stays (.inr (sees.unseen rfl rfl (List.append_nil _) (Session.regrant_lastId _ _) ?_))
      intro msg waiting
      exact regranted_unbound (Session.regrant_regranted this.server.session this.server.policy) msg
        (enabled.2.2.mem_iff.mp waiting)
  | heard msg opened => exact absurd rfl (quiet msg opened)
  | stop =>
      simp only [Server.Serve.step, Option.some.injEq] at turned
      subst turned
      exact stays (.inl rfl)

theorem Sees.server_heard (sees : Sees this seen) (running : this.ended = false) {msg : ClientMessage}
    {opened : Except BindFailure Port}
    (stepped : this.step remote (.server (.heard msg opened)) = some next) :
    Follows remote seen next := by
  simp only [Control.step, Control.deliver] at stepped
  split_ifs at stepped with first
  obtain ⟨rest, split⟩ := List.head?_eq_some_iff.mp first
  simp only [Control.turn, Server.Serve.step, split, List.tail_cons] at stepped
  split_ifs at stepped
  cases msg with
  | bind service kind port allow proxyProtocol =>
      simp only [Option.some.injEq] at stepped
      subst stepped
      have answered := Session.bind_answered this.server.session service port allow proxyProtocol opened
      rcases Session.reply_cases { this.server with
          session := (this.server.session.bind service port allow proxyProtocol opened).2 }
          (this.server.session.bind service port allow proxyProtocol opened).1 with
        ⟨same, goesOn⟩ | ended
      · rw [same]
        exact sees.answer answered goesOn split rfl rfl rfl rfl
      · exact fun reachable => ⟨seen, reachable, .inl ended⟩
  | unbind service =>
      simp only [Option.some.injEq] at stepped
      subst stepped
      exact sees.skip rfl split rfl (List.append_nil _) rfl rfl
  | pong nonce =>
      simp only [Option.some.injEq] at stepped
      subst stepped
      exact sees.skip rfl split rfl (List.append_nil _) rfl rfl
  | ping nonce =>
      simp only [Option.some.injEq] at stepped
      subst stepped
      -- The ping is dropped, and then the pong sent.
      have skipped : Follows remote seen { this with toServer := rest } :=
        sees.skip rfl split rfl rfl rfl rfl
      intro reachable
      obtain ⟨between, reached, ended | sees'⟩ := skipped reachable
      · cases running.symm.trans ended
      · exact sees'.send (.pong nonce) (by simp) rfl rfl rfl rfl (fun _ waiting => waiting) reached
  | hello name agent =>
      simp only [Option.some.injEq] at stepped
      subst stepped
      exact fun reachable => ⟨seen, reachable, .inl rfl⟩

end Server

theorem step_follows [Ipnet] {key : PublicKey} {event : Control.Event} (sees : Sees this seen)
    (step : (control remote key).step this event next) : Follows remote seen next := by
  obtain ⟨running, -, stepped⟩ := step
  cases event with
  | client event => exact sees.client_step stepped
  | server event =>
      rcases Control.step_server stepped with ⟨msg, opened, rfl⟩ | ⟨quiet, turned⟩
      · exact sees.server_heard running stepped
      · exact sees.server_turn quiet turned

/-- The server of this development is one of those the client's stream is with. -/
theorem control_is_stream [Ipnet] {key : PublicKey} (reachable : (control remote key).Reachable this)
    (running : this.ended = false) :
    ∃ seen, (stream remote).Reachable seen ∧ seen.client = this.client ∧
      seen.toServer = this.toServer ∧ seen.toClient.map (·.2) = this.toClient := by
  have simulated : ∃ seen, (stream remote).Reachable seen ∧ (this.ended = true ∨ Sees this seen) := by
    apply reachable.simulated fun this seen => this.ended = true ∨ Sees this seen
    · rintro start ⟨exposed, grant, policy, found, same⟩
      rw [same]
      refine ⟨.start exposed, ⟨exposed, rfl⟩, .inr ⟨rfl, rfl, rfl, rfl, ?_, ?_⟩⟩
      · intro msg waiting
        cases waiting
      · intro id granted
        exact absurd rfl granted
    · intro before event after seen step result reached
      rcases result with ended | sees
      · cases step.1.symm.trans ended
      · exact step_follows sees step reached
  obtain ⟨seen, reached, ended | sees⟩ := simulated
  · cases running.symm.trans ended
  · exact ⟨seen, reached, sees.client, sees.toServer, sees.toClient⟩

end Hawse.Proof.Refinement
