import Hawse.Client.Run
import Hawse.Proof.Client.Frame
import Hawse.Proof.Client.Services

namespace Hawse.Proof.Client
open Hawse.Client Terminal
open Std (ExtTreeMap)

/-! ## Services and their status -/

/-- What a status says of a session's services: one that is served is shown bound, one whose bind
failed refused, and an exposed one with no bind left to answer is one or the other. -/
structure Answers (services : Services) (answers : ExtTreeMap String Status.Answer) : Prop where
  bound : ∀ (service : String) (id : UInt16), services.ids[service]? = some id →
    ∃ port, answers[service]? = some (.bound port)
  refused : ∀ service ∈ services.failed, ∃ reason, answers[service]? = some (.refused reason)
  settled : ∀ service : String, services.exposed[service]?.isSome → services.left service = 0 →
    services.ids[service]?.isSome ∨ service ∈ services.failed

section Answers
variable {this : Client.State} {model : Status.Model} {answers : ExtTreeMap String Status.Answer} {service : String}

theorem told_bound_ignored (remote : SocketAddr) (id port : UInt16) (address : IpAddr)
    (ignored : this.services.left service - 1 ≠ 0 ∨ this.services.exposed[service]? = none) :
    this.told (.bound service id port address) = none ∧
      (this.heard remote (.bound service id port address)).2 = counted this service := by
  have filtered : (this.services.exposed[service]?.filter fun _ => decide (this.services.left service - 1 = 0)) = none := by
    rcases ignored with more | gone
    · cases this.services.exposed[service]? <;> simp [more]
    · rw [gone]
      rfl
  simp only [State.told, State.heard, Services.answered, filtered]
  exact ⟨rfl, rfl⟩

theorem told_bound {expose : Expose} (remote : SocketAddr) (id port : UInt16) (address : IpAddr)
    (last : this.services.left service - 1 = 0) (wanted : this.services.exposed[service]? = some expose) :
    this.told (.bound service id port address) = some (.bound service ⟨port, expose.port.kind⟩) ∧
      (this.heard remote (.bound service id port address)).2 =
        (counted this service).takeUp service id expose (listenerAddr address remote port) := by
  simp only [State.told, State.heard, Services.answered, counted, wanted, last, decide_true, Option.filter_some, ↓reduceIte]
  exact ⟨rfl, trivial⟩

theorem told_failed_ignored (remote : SocketAddr) (reason : BindFailure) (more : this.services.left service - 1 ≠ 0) :
    this.told (.bindFailed service reason) = none ∧
      (this.heard remote (.bindFailed service reason)).2 = counted this service := by
  simp only [State.told, State.heard, Services.answered, more, decide_false, Bool.not_false, ↓reduceIte, Bool.false_eq_true]
  exact ⟨trivial, rfl⟩

theorem told_failed (remote : SocketAddr) (reason : BindFailure) (last : this.services.left service - 1 = 0) :
    this.told (.bindFailed service reason) = some (.bindFailed service reason) ∧
      (this.heard remote (.bindFailed service reason)).2 = refused (counted this service) service := by
  simp only [State.told, State.heard, Services.answered, counted, refused, last, decide_true, Bool.not_true, ↓reduceIte,
    Bool.false_eq_true]
  exact ⟨trivial, trivial⟩

theorem Answers.new (exposed : ExtTreeMap String Expose) : Answers (State.new exposed).services ∅ where
  bound service id held := by
    rw [new_ids] at held
    cases held
  refused service member := absurd member (Finset.notMem_empty service)
  settled service wanted settled := by
    have wanted : exposed[service]?.isSome := wanted
    rw [new_left, wanted] at settled
    cases settled

theorem left_counted (other : String) : (counted this service).services.left other =
    if other = service then this.services.left service - 1 else this.services.left other := by
  simp only [counted, Services.answered, left_insert]

theorem Answers.counted (shown : Answers this.services answers)
    (ignored : this.services.left service - 1 ≠ 0 ∨ this.services.exposed[service]? = none) :
    Answers (counted this service).services answers where
  bound := shown.bound
  refused := shown.refused
  settled other wanted settled := by
    rw [left_counted] at settled
    split_ifs at settled with same
    · subst same
      rcases ignored with more | gone
      · exact absurd settled more
      · have wanted : this.services.exposed[other]?.isSome := wanted
        rw [gone] at wanted
        cases wanted
    · exact shown.settled other wanted settled

theorem Answers.takeUp (shown : Answers this.services answers) (id : UInt16) (expose : Expose) (listener : SocketAddr)
    (port : Port) : Answers ((Client.counted this service).takeUp service id expose listener).services
      (answers.insert service (.bound port)) := by
  rw [takeUp_fields]
  constructor
  · intro other found held
    have held : (this.services.ids.insert service id)[other]? = some found := held
    rw [ExtTreeMap.getElem?_insert] at held ⊢
    split_ifs at held ⊢ with same
    · exact ⟨port, rfl⟩
    · exact shown.bound other found held
  · intro other member
    obtain ⟨apart, member⟩ := Finset.mem_erase.mp member
    rw [ExtTreeMap.getElem?_insert, if_neg (fun same => apart (Std.compare_eq_iff_eq.mp same).symm)]
    exact shown.refused other member
  · intro other wanted settled
    by_cases same : other = service
    · subst same
      exact .inl (by simp)
    · have settled : (Client.counted this service).services.left other = 0 := settled
      rw [left_counted, if_neg same] at settled
      have held : (this.services.ids.insert service id)[other]? = this.services.ids[other]? := by
        rw [ExtTreeMap.getElem?_insert, if_neg (fun equal => same (Std.compare_eq_iff_eq.mp equal).symm)]
      exact (shown.settled other wanted settled).imp (fun bound => held ▸ bound) fun failed =>
        Finset.mem_erase.mpr ⟨same, failed⟩

theorem Answers.refuse (shown : Answers this.services answers) (reason : BindFailure) :
    Answers (Client.refused (Client.counted this service) service).services
      (answers.insert service (.refused reason)) := by
  have ids (other : String) : (Client.refused (Client.counted this service) service).services.ids[other]? =
      if other = service then none else this.services.ids[other]? := ids_forgetService (Client.counted this service) service other
  constructor
  · intro other found held
    rw [ids] at held
    split_ifs at held with same
    rw [ExtTreeMap.getElem?_insert, if_neg (fun equal => same (Std.compare_eq_iff_eq.mp equal).symm)]
    exact shown.bound other found held
  · intro other member
    rw [ExtTreeMap.getElem?_insert]
    split_ifs with same
    · exact ⟨reason, rfl⟩
    · rcases Finset.mem_insert.mp member with rfl | member
      · exact absurd (Std.compare_eq_iff_eq.mpr rfl) same
      · exact shown.refused other member
  · intro other wanted settled
    by_cases same : other = service
    · exact .inr (Finset.mem_insert.mpr (.inl same))
    · have settled : (Client.counted this service).services.left other = 0 := settled
      rw [left_counted, if_neg same] at settled
      rw [ids, if_neg same]
      exact (shown.settled other wanted settled).imp_right Finset.mem_insert_of_mem

/-- What an answer does to the services is what it tells of them. -/
theorem Answers.heard (shown : Answers this.services model.answers) (remote : SocketAddr) (msg : ServerMessage)
    (now : Nat) : Answers (this.heard remote msg).2.services
      ((this.told msg).toList.foldl (fun model event => model.apply event now) model).answers := by
  cases msg with
  | welcome | denied | shutdown | ping | pong => exact shown
  | bound service id port address =>
      by_cases last : this.services.left service - 1 = 0
      · cases wanted : this.services.exposed[service]? with
        | none =>
            obtain ⟨quiet, next⟩ := told_bound_ignored remote id port address (.inr wanted)
            rw [quiet, next]
            exact shown.counted (.inr wanted)
        | some expose =>
            obtain ⟨told, next⟩ := told_bound remote id port address last wanted
            rw [told, next]
            exact shown.takeUp id expose _ _
      · obtain ⟨quiet, next⟩ := told_bound_ignored remote id port address (.inl last)
        rw [quiet, next]
        exact shown.counted (.inl last)
  | bindFailed service reason =>
      by_cases last : this.services.left service - 1 = 0
      · obtain ⟨told, next⟩ := told_failed remote reason last
        rw [told, next]
        exact shown.refuse reason
      · obtain ⟨quiet, next⟩ := told_failed_ignored remote reason last
        rw [quiet, next]
        exact shown.counted (.inl last)

theorem foldl_tell_failed (msgs : List ClientMessage) : (msgs.foldl State.tell this).services.failed = this.services.failed := by
  induction msgs generalizing this with
  | nil => rfl
  | cons msg msgs ih =>
      rw [List.foldl_cons, ih]
      cases msg <;> rfl

theorem Answers.reexpose (shown : Answers this.services answers) (next : ExtTreeMap String Expose) :
    Answers (this.reexpose next).2.services answers := by
  have failed : (this.reexpose next).2.services.failed = ∅ := foldl_tell_failed _
  constructor
  · intro service id held
    obtain ⟨-, -, ids⟩ := reexpose_fields this service next
    rw [ids] at held
    split_ifs at held
    exact shown.bound service id held
  · intro service member
    rw [failed] at member
    exact absurd member (Finset.notMem_empty service)
  · intro service wanted settled
    obtain ⟨exposed, left, ids⟩ := reexpose_fields this service next
    rw [exposed] at wanted
    rw [left, asks_reexpose] at settled
    rw [ids, asks_reexpose]
    by_cases touched : Touched this.services.exposed next this.services.failed service
    · -- A service that is asked for again has that bind left.
      rw [if_pos touched, wanted, List.count_append] at settled
      have asked : (Lib.Exchange.binds true).count .bind = 1 := rfl
      omega
    · rw [if_neg touched] at settled ⊢
      rw [untouched touched] at wanted
      exact .inl ((shown.settled service wanted settled).resolve_right fun failed => touched (.inl failed))

end Answers
end Hawse.Proof.Client

namespace Hawse.Proof.Client.Run
open Hawse.Client Terminal
open Std (ExtTreeMap)

/-! ## The status of a run -/

def applied (model : Status.Model) (told : List (Event × Nat)) : Status.Model :=
  told.foldl (fun model entry => model.apply entry.1 entry.2) model

/-- What a status has of the run so far. -/
def status (s : Run.State) : Status.Model := applied .default s.events

/-- No session is up, and the wait of the last one that failed is over. -/
def Away (now : Nat) (link : Link) : Prop :=
  link = .connecting ∨ ∃ since retryAt, link = .down since retryAt ∧ retryAt ≤ now

def Up (welcomed : Option Nat) (transport : TransportKind) (link : Link) : Prop :=
  ∃ roundTrip since, link = .up transport roundTrip since ∧ welcomed = some since

def ShownIn (s : Run.State) : Run.Phase → Prop
  | .dialing => s.welcomed = none ∧ Away s.now (status s).link
  | .greeting session _ =>
      (s.welcomed = none ∧ Away s.now (status s).link) ∧ ∃ exposed, session.serve.state = .new exposed
  | .asking session _ | .serving session _ _ =>
      Up s.welcomed session.transport (status s).link ∧ Answers session.serve.state.services (status s).answers
  | .ending (.ok _) => s.cancelled = true ∧ ∃ transport, Up s.welcomed transport (status s).link
  | .ending (.error _) =>
      (s.welcomed = none ∧ Away s.now (status s).link) ∨ ∃ transport, Up s.welcomed transport (status s).link
  | .waiting wake => ∃ since, (status s).link = .down since wake
  | .returned => s.cancelled = true ∨ (status s).link = .stopped

/-- What the status says in each phase of the run. -/
def Shown (s : Run.State) : Prop := ShownIn s s.phase

section Tell
variable {s : Run.State} {model : Status.Model} {session : Run.Session} {welcomed : Option Nat} {transport : TransportKind}

end Tell

/-! ## What a step does -/

/-- The steps of a run, with the phase each is taken in. -/
inductive Stepped [Postcard] (setting : Run.Setting) (s : Run.State) : Run.Input → Run.State → Prop
  | pass (time : Nat) : Stepped setting s (.pass time) { s with now := s.now + time }
  | cancel : Stepped setting s .cancel { s with cancelled := true }
  | reload (expose : ExtTreeMap String Expose) :
      Stepped setting s (.reload expose) { s with expose, phase := s.phase.publish expose }
  | dialed (remote : SocketAddr) (transport : TransportKind) (phase : s.phase = .dialing) :
      Stepped setting s (.dialed (.ok (remote, transport))) (s.enter (.greeting ⟨remote, transport, .new s.expose⟩ s.now))
  | undialed (error : SessionError) (phase : s.phase = .dialing) :
      Stepped setting s (.dialed (.error error)) (s.enter (.ending (.error error)))
  | greeted (session : Run.Session) (asked : Nat) (written : Bool) (reply : Option ServerMessage)
      (phase : s.phase = .greeting session asked) :
      Stepped setting s (.greeted written reply) (s.greet setting session asked written reply)
  | began (session : Run.Session) (written : Bool) (phase : s.phase = .asking session []) :
      Stepped setting s (.asked written) (s.enter (.serving session none s.now))
  | asked (session : Run.Session) (msg : ClientMessage) (left : List ClientMessage) (written : Bool)
      (phase : s.phase = .asking session (msg :: left)) (sent : sendMsg msg written = .ok ()) :
      Stepped setting s (.asked written) (s.enter (.asking session left))
  | unasked (session : Run.Session) (msg : ClientMessage) (left : List ClientMessage) (written : Bool)
      (error : SessionError) (phase : s.phase = .asking session (msg :: left)) (sent : sendMsg msg written = .error error) :
      Stepped setting s (.asked written) (s.enter (.ending (.error error)))
  | turned (session : Run.Session) (pinged : Option (UInt64 × Nat)) (lastHeard : Nat) (event : Serve.Event)
      (written : Bool) (t : Run.State) (phase : s.phase = .serving session pinged lastHeard)
      (turned : s.turn session pinged lastHeard event written = some t) : Stepped setting s (.turn event written) t
  | broke (session : Run.Session) (pinged : Option (UInt64 × Nat)) (lastHeard : Nat) (error : SessionError)
      (phase : s.phase = .serving session pinged lastHeard)
      (due : error = .unresponsive → lastHeard + Heartbeat.pongDeadline ≤ s.now) :
      Stepped setting s (.broke error) (s.enter (.ending (.error error)))
  | stopped (cancelled : s.cancelled = true) (phase : s.phase = .dialing ∨ ∃ wake, s.phase = .waiting wake) :
      Stepped setting s .stopped (s.enter .returned)
  | ended (session : Run.Session) (pinged : Option (UInt64 × Nat)) (lastHeard : Nat) (cancelled : s.cancelled = true)
      (phase : s.phase = .serving session pinged lastHeard) : Stepped setting s .stopped (s.enter (.ending (.ok ())))
  | left (unit : ℚ) (phase : s.phase = .ending (.ok ())) : Stepped setting s (.left unit) (s.enter .returned)
  | failed (error : SessionError) (unit : ℚ) (t : Run.State) (phase : s.phase = .ending (.error error))
      (failed : s.failed setting error unit = some t) : Stepped setting s (.left unit) t
  | returned (wake : Nat) (phase : s.phase = .waiting wake) (cancelled : s.cancelled = true) :
      Stepped setting s .woke (s.enter .returned)
  | woke (wake : Nat) (phase : s.phase = .waiting wake) (passed : wake ≤ s.now) :
      Stepped setting s .woke ({ s with welcomed := none }.enter .dialing)

theorem step_stepped [Postcard] {setting : Run.Setting} {s t : Run.State} {input : Run.Input}
    (stepped : s.step setting input = some t) : Stepped setting s input t := by
  cases input with
  | pass time =>
      cases stepped
      exact .pass time
  | cancel =>
      cases stepped
      exact .cancel
  | reload expose =>
      cases stepped
      exact .reload expose
  | dialed done =>
      unfold Run.State.step at stepped
      dsimp only at stepped
      split at stepped
      next remote transport phase =>
        cases stepped
        exact .dialed remote transport phase
      next error phase =>
        cases stepped
        exact .undialed error phase
      next => cases stepped
  | greeted written reply =>
      rw [Run.State.step] at stepped
      split at stepped
      next session asked phase =>
        cases stepped
        exact .greeted session asked written reply phase
      next => cases stepped
  | asked written =>
      rw [Run.State.step] at stepped
      split at stepped
      next session phase =>
        cases stepped
        exact .began session written phase
      next session msg left phase =>
        split at stepped
        next error sent =>
          cases stepped
          exact .unasked session msg left written error phase sent
        next sent =>
          cases stepped
          exact .asked session msg left written phase sent
      next => cases stepped
  | turn event written =>
      unfold Run.State.step at stepped
      dsimp only at stepped
      split at stepped
      next => cases stepped
      next session pinged lastHeard phase notReload => exact .turned session pinged lastHeard _ written t phase stepped
      next => cases stepped
  | broke error =>
      unfold Run.State.step at stepped
      dsimp only at stepped
      split at stepped
      next session pinged lastHeard phase =>
        cases stepped
        exact .broke session pinged lastHeard _ phase SessionError.noConfusion
      next session pinged lastHeard phase =>
        cases stepped
        exact .broke session pinged lastHeard _ phase SessionError.noConfusion
      next session pinged lastHeard phase =>
        split_ifs at stepped with due
        cases stepped
        exact .broke session pinged lastHeard _ phase fun _ => due
      next => cases stepped
  | stopped =>
      rw [Run.State.step] at stepped
      split_ifs at stepped with cancelled
      split at stepped
      next phase =>
        cases stepped
        exact .stopped cancelled (.inl phase)
      next wake phase =>
        cases stepped
        exact .stopped cancelled (.inr ⟨wake, phase⟩)
      next session pinged lastHeard phase =>
        cases stepped
        exact .ended session pinged lastHeard cancelled phase
      next => cases stepped
  | left unit =>
      rw [Run.State.step] at stepped
      split at stepped
      next phase =>
        cases stepped
        exact .left unit phase
      next error phase => exact .failed error unit t phase stepped
      next => cases stepped
  | woke =>
      rw [Run.State.step] at stepped
      split at stepped
      next wake phase =>
        split_ifs at stepped with passed cancelled
        · cases stepped
          exact .returned wake phase cancelled
        · cases stepped
          exact .woke wake phase passed
      next => cases stepped

/-! ## What a step shows -/

section Step
variable {setting : Run.Setting} {s t : Run.State} {session : Run.Session}

theorem Away.later {now : Nat} {link : Link} (away : Away now link) (time : Nat) : Away (now + time) link :=
  away.imp_right <| by
    rintro ⟨since, retryAt, link, passed⟩
    exact ⟨since, retryAt, link, passed.trans (Nat.le_add_right now time)⟩

end Step
/-- What a step adds to the events, which is no failure once the run is cancelled. -/
def Tells (s t : Run.State) : Prop :=
  ∃ told, t.events = s.events ++ told ∧
    (s.cancelled = true → ∀ entry ∈ told, ∀ why retryIn, entry.1 ≠ .disconnected why retryIn)

section Tells
variable {setting : Run.Setting} {s t : Run.State}

theorem Tells.silent (same : t.events = s.events) : Tells s t :=
  ⟨[], by rw [List.append_nil, same], fun _ _ member => absurd member List.not_mem_nil⟩

theorem Tells.one {event : Event} (added : t.events = s.events ++ [(event, s.now)])
    (other : s.cancelled = true → ∀ why retryIn, event ≠ .disconnected why retryIn) : Tells s t := by
  refine ⟨_, added, fun cancelled entry member => ?_⟩
  rw [List.mem_singleton.mp member]
  exact other cancelled

end Tells

section Example
attribute [local instance] Frame.postcard Frame.lawfulPostcard

def overQuic : Run.Session := ⟨⟨.v4 0xc0000201#32, 7700⟩, .quic, .new ∅⟩

def dialed : Run.State := (Run.State.start ∅ 0).enter (.greeting overQuic 0)

end Example
end Hawse.Proof.Client.Run
