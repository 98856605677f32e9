import Hawse.Lib.Journal
import Hawse.Proof.Server.Claim
import Hawse.Proof.Server.Reload
import Hawse.Proof.Server.Session
import Hawse.Status.Server

namespace Hawse.Proof.Status
open Std (ExtTreeMap)
open Hawse.Server Hawse.Server.Watched Hawse.Status Hawse.Lib

section Told

def clientOf : Watched.Event → Option String
  | .connected client _ _ _ => some client
  | .bound client _ _ _ => some client
  | .unbound client _ _ => some client
  | .ended client => some client
  | .denied _ _ => none

def connects (client : String) : Watched.Event → Bool
  | .connected name _ _ _ => name = client
  | _ => false

def ends : Watched.Event → Bool
  | .ended _ => true
  | _ => false

/-- What an event makes of the services of the session it speaks of, one at a time: an end says
nothing of any. -/
def record (services : ExtTreeMap String (IpAddr × Port)) : Watched.Event → ExtTreeMap String (IpAddr × Port)
  | .connected _ _ _ _ => ∅
  | .bound _ service bind port => services.insert service (bind, port)
  | .unbound _ service _ => services.erase service
  | .ended _ => services
  | .denied _ _ => services

def of (client : String) (told : Told) : Option Watched.Event :=
  if clientOf told.event = some client then some told.event else none

def own (i : Nat) (told : Told) : Option Watched.Event := if told.teller = some i then some told.event else none

/-- What the events under one name say is bound, whichever session told them. -/
def recorded (client : String) : List Told → ExtTreeMap String (IpAddr × Port) :=
  Journal.replay record ∅ (of client)

/-- What one session said it bound and did not itself unbind. -/
def bindings (i : Nat) : List Told → ExtTreeMap String (IpAddr × Port) := Journal.replay record ∅ (own i)

def hasEnded (i : Nat) (told : List Told) : Bool := told.any fun told => told.teller = some i && ends told.event

/-- What one session has bound, as far as it said: its services are unbound with it. -/
def boundBy (i : Nat) (told : List Told) : ExtTreeMap String (IpAddr × Port) :=
  if hasEnded i told then ∅ else bindings i told

def lastConnected (client : String) : List (Told × Nat) → Option (Told × Nat) :=
  Journal.last fun entry => connects client entry.1.event

theorem lastConnected_concat (client : String) (applied : List (Told × Nat)) (entry : Told × Nat) :
    lastConnected client (applied ++ [entry]) =
      if connects client entry.1.event then some entry else lastConnected client applied :=
  Journal.last_concat _ _ _

variable {client : String} {i : Nat} {entry : Told}

theorem recorded_own (told : List Told) (same : clientOf entry.event = some client) :
    recorded client (told ++ [entry]) = record (recorded client told) entry.event :=
  Journal.replay_taken (if_pos same)

theorem recorded_other (told : List Told) (other : clientOf entry.event ≠ some client) :
    recorded client (told ++ [entry]) = recorded client told :=
  Journal.replay_left (if_neg other)

theorem bindings_own (told : List Told) (same : entry.teller = some i) :
    bindings i (told ++ [entry]) = record (bindings i told) entry.event :=
  Journal.replay_taken (if_pos same)

theorem bindings_other (told : List Told) (other : entry.teller ≠ some i) :
    bindings i (told ++ [entry]) = bindings i told :=
  Journal.replay_left (if_neg other)

end Told

section Keeper

def keep (applied : List (Told × Nat)) : Keeper :=
  applied.foldl (fun keeper entry => keeper.apply entry.1.event entry.2) .default

theorem keep_concat (applied : List (Told × Nat)) (entry : Told × Nat) :
    keep (applied ++ [entry]) = (keep applied).apply entry.1.event entry.2 := by
  simp [keep]

def opens (services : ExtTreeMap String (IpAddr × Port)) (entry : Told × Nat) : Option Keeper.Session :=
  match entry.1.event with
  | .connected _ _ transport agent => some ⟨transport, agent, entry.2, services⟩
  | _ => none

theorem connects_eq {client : String} {event : Watched.Event} (connected : connects client event = true) :
    ∃ remote transport agent, event = .connected client remote transport agent := by
  cases event with
  | connected name remote transport agent =>
      obtain rfl : name = client := by simpa [connects] using connected
      exact ⟨remote, transport, agent, rfl⟩
  | bound | unbound | ended | denied => simp [connects] at connected

theorem apply_other (keeper : Keeper) {client : String} {event : Watched.Event} (now : Nat)
    (other : clientOf event ≠ some client) :
    (keeper.apply event now).sessions[client]? = keeper.sessions[client]? := by
  cases event with
  | connected name remote transport agent =>
      have differs : name ≠ client := fun same => other (congrArg some same)
      simp [Keeper.apply, ExtTreeMap.getElem?_insert, differs]
  | bound name service bind port | unbound name service port =>
      have differs : name ≠ client := fun same => other (congrArg some same)
      cases found : keeper.sessions[name]? with
      | none => simp [Keeper.apply, found]
      | some session => simp [Keeper.apply, found, ExtTreeMap.getElem?_insert, differs]
  | ended | denied => rfl

theorem apply_own (keeper : Keeper) {client : String} {event : Watched.Event} (now : Nat)
    (same : clientOf event = some client) (unconnected : connects client event = false) :
    (keeper.apply event now).sessions[client]? = keeper.sessions[client]?.map fun session =>
      { session with services := record session.services event } := by
  cases event with
  | connected name remote transport agent => simp_all [clientOf, connects]
  | bound name service bind port | unbound name service port =>
      obtain rfl : name = client := Option.some.inj same
      cases found : keeper.sessions[name]? with
      | none => simp [Keeper.apply, found]
      | some session => simp [Keeper.apply, found, record]
  | ended => simp [Keeper.apply, record]
  | denied => cases same

theorem opens_record (services : ExtTreeMap String (IpAddr × Port)) (event : Watched.Event)
    (entry : Told × Nat) : opens (record services event) entry =
      (opens services entry).map fun session => { session with services := record session.services event } := by
  unfold opens
  cases entry.1.event <;> rfl

/-- The keeper's record of a name is of the session that connected under it last, with what was said
of the name's services since, by whichever session. -/
theorem keep_sessions (client : String) (applied : List (Told × Nat)) :
    (keep applied).sessions[client]? =
      (lastConnected client applied).bind (opens (recorded client (applied.map (·.1)))) := by
  induction applied using List.reverseRecOn with
  | nil => simp [keep, Keeper.default, lastConnected]
  | append_singleton applied entry ih =>
      obtain ⟨told, now⟩ := entry
      rw [keep_concat, List.map_append, List.map_singleton, lastConnected_concat]
      by_cases same : clientOf told.event = some client
      · rw [recorded_own _ same]
        cases connected : connects client told.event with
        | true =>
            obtain ⟨remote, transport, agent, event⟩ := connects_eq connected
            simp [event, Keeper.apply, opens, record]
        | false =>
            rw [apply_own _ _ same connected, ih, if_neg Bool.false_ne_true]
            cases lastConnected client applied with
            | none => rfl
            | some entry => exact (opens_record _ _ entry).symm
      · have unconnected : connects client told.event = false := by
          cases connected : connects client told.event with
          | false => rfl
          | true =>
              obtain ⟨remote, transport, agent, event⟩ := connects_eq connected
              exact absurd (congrArg clientOf event) same
        rw [recorded_other _ same, apply_other _ _ same, ih, unconnected, if_neg Bool.false_ne_true]

end Keeper

section Stages
open Hawse.Server.Claims Hawse.Proof.Claims
variable {s t : Claims} {i : Nat} {run : Run} {key : PublicKey} {old new : Stage}

def Early : Stage → Prop
  | .staked _ | .waiting _ | .welcoming => True
  | _ => False

def Late : Stage → Prop
  | .leaving | .dropping | .gone => True
  | _ => False

structure Moved (s t : Claims) (i : Nat) (key : PublicKey) (old new : Stage) : Prop where
  before : stageOf s i = some (key, old)
  after : ∀ j, stageOf t j = if i = j then some (key, new) else stageOf s j
  length : t.runs.length = s.runs.length
  sessions : ∀ (key : PublicKey) (j : Nat), t.sessions[key]? = some j → s.sessions[key]? = some j

theorem moved_update (stored : s.runs[i]? = some run) (was : run.stage = old) (done : Bool) :
    Moved s (s.update i { run with stage := new, done }) i run.key old new where
  before := stageOf_eq_some.mpr ⟨run, stored, rfl, was⟩
  after := stageOf_update stored _
  length := List.length_set
  sessions _ _ found := found

theorem Moved.cancel (moved : Moved s t i key old new) (previous : Nat) :
    Moved s (t.cancel previous) i key old new where
  before := moved.before
  after j := (stageOf_cancel previous j).trans (moved.after j)
  length := (List.length_modify _ _ _).trans moved.length
  sessions := moved.sessions

theorem Moved.giveUp (moved : Moved s t i key old new) (j : Nat) (given : PublicKey) :
    Moved s (t.giveUp j given) i key old new where
  before := moved.before
  after k := by
    rw [stageOf, giveUp_runs]
    exact moved.after k
  length := by rw [giveUp_runs, moved.length]
  sessions key k found := by
    apply moved.sessions
    unfold Claims.giveUp at found
    split_ifs at found
    · rw [ExtTreeMap.getElem?_erase] at found
      split_ifs at found
      exact found
    · exact found

inductive Passes : Claims.Event → Nat → Stage → Stage → Prop
  | early {event : Claims.Event} (i : Nat) {old new : Stage} (was : Early old) (now : Early new ∨ Late new)
      (silent : ∀ server : Watched, server.passed event = (server, none)) : Passes event i old new
  | late {event : Claims.Event} (i : Nat) {old new : Stage} (was : Late old) (now : Late new)
      (silent : ∀ server : Watched, server.passed event = (server, none)) : Passes event i old new
  | welcomed (i : Nat) : Passes (.welcome i true) i .welcoming .serving
  | superseded (i : Nat) : Passes (.superseded i) i .serving .leaving
  | ended (i : Nat) : Passes (.ended i) i .serving .leaving

theorem claims_step_passes {event : Claims.Event} (stepped : s.step event = some t)
    (staked : ∀ key, event ≠ .stake key) :
    ∃ i key old new, Moved s t i key old new ∧ Passes event i old new := by
  cases step_stepped stepped with
  | stake key => exact absurd rfl (staked key)
  | first stored was =>
      exact ⟨_, _, _, _, moved_update stored was _, .early _ trivial (.inl trivial) fun _ => rfl⟩
  | waits previous stored was =>
      exact ⟨_, _, _, _, (moved_update stored was _).cancel previous,
        .early _ trivial (.inl trivial) fun _ => rfl⟩
  | woken previous stored was | elapsed previous stored was =>
      exact ⟨_, _, _, _, moved_update stored was _, .early _ trivial (.inl trivial) fun _ => rfl⟩
  | shutdown previous stored was =>
      exact ⟨_, _, _, _, moved_update stored was _, .early _ trivial (.inr trivial) fun _ => rfl⟩
  | welcomed stored was => exact ⟨_, _, _, _, moved_update stored was _, .welcomed _⟩
  | unwelcomed stored was =>
      exact ⟨_, _, _, _, moved_update stored was _, .early _ trivial (.inr trivial) fun _ => rfl⟩
  | superseded stored was => exact ⟨_, _, _, _, moved_update stored was _, .superseded _⟩
  | ended stored was => exact ⟨_, _, _, _, moved_update stored was _, .ended _⟩
  | done stored was => exact ⟨_, _, _, _, moved_update stored was _, .late _ trivial trivial fun _ => rfl⟩
  | giveUp stored was =>
      exact ⟨_, _, _, _, (moved_update stored was _).giveUp _ _, .late _ trivial trivial fun _ => rfl⟩

end Stages

section Turn
open Hawse.Server.Claims
variable {this next : Greeted} {old new : Stage} {event : Option Watched.Event} {i : Nat} {told : List Told}

structure Same (this next : Greeted) : Prop where
  remote : next.remote = this.remote
  transport : next.transport = this.transport
  agent : next.agent = this.agent
  key : next.session.key = this.session.key
  grant : next.session.grant = this.session.grant

inductive Turn (this : Greeted) : Stage → Stage → Greeted → Option Watched.Event → Prop
  | early {old new : Stage} (was : Early old) (now : Early new ∨ Late new) : Turn this old new this none
  | late {old new : Stage} (was : Late old) (now : Late new) : Turn this old new this none
  | welcomed : Turn this .welcoming .serving this (some this.connected)
  | idle (next : Greeted) (same : Same this next) (kept : next.session.services = this.session.services) :
      Turn this .serving .serving next none
  | bound (next : Greeted) (same : Same this next) (service : String) (bound : BoundService)
      (inserted : next.session.services = this.session.services.insert service bound) :
      Turn this .serving .serving next (some (.bound this.name service bound.addr bound.port))
  | unbound (next : Greeted) (same : Same this next) (service : String) (port : Port)
      (erased : next.session.services = this.session.services.erase service) :
      Turn this .serving .serving next (some (.unbound this.name service port))
  | ended (next : Greeted) (same : Same this next) (cleared : next.session.services = ∅) :
      Turn this .serving .leaving next (some (.ended this.name))

theorem Same.refl (this : Greeted) : Same this this := ⟨rfl, rfl, rfl, rfl, rfl⟩

theorem Same.name (same : Same this next) : next.name = this.name := congrArg Grant.name same.grant

theorem Same.connected (same : Same this next) : next.connected = this.connected := by
  unfold Greeted.connected
  rw [same.name, same.remote, same.transport, same.agent]

theorem Turn.same (turn : Turn this old new next event) : Same this next := by
  cases turn with
  | early | late | welcomed => exact .refl this
  | idle _ same | bound _ same | unbound _ same | ended _ same => exact same

def Tells (this : Greeted) (event : Watched.Event) : Prop :=
  clientOf event = some this.name ∧ (connects this.name event = true → event = this.connected)

theorem Turn.tells (turn : Turn this old new next event) {told : Watched.Event} (tells : event = some told) :
    Tells this told ∧ (old ≠ .serving → told = this.connected) := by
  cases turn with
  | early | late | idle => cases tells
  | welcomed =>
      obtain rfl := Option.some.inj tells
      exact ⟨⟨rfl, fun _ => rfl⟩, fun _ => rfl⟩
  | bound | unbound | ended =>
      obtain rfl := Option.some.inj tells
      exact ⟨⟨rfl, fun connected => Bool.noConfusion connected⟩, fun other => absurd rfl other⟩

def Silent (i : Nat) (told : List Told) : Prop := ∀ entry ∈ told, entry.teller ≠ some i

def place (bound : BoundService) : IpAddr × Port := (bound.addr, bound.port)

/-- Where a session stands in what was told: nothing of it before it is welcomed, and nothing bound
once it left. -/
def Phase (i : Nat) (told : List Told) (services : ExtTreeMap String BoundService) : Stage → Prop
  | .staked _ | .waiting _ | .welcoming => Silent i told ∧ services = ∅
  | .serving => ¬ Silent i told ∧ hasEnded i told = false ∧
      ∀ service : String, (bindings i told)[service]? = services[service]?.map place
  | .leaving | .dropping | .gone => (Silent i told ∨ hasEnded i told = true) ∧ services = ∅

variable {services : ExtTreeMap String BoundService} {stage : Stage} {entry : Told}

theorem phase_early (early : Early stage) :
    Phase i told services stage ↔ Silent i told ∧ services = ∅ := by
  cases stage with
  | staked | waiting | welcoming => exact Iff.rfl
  | serving | leaving | dropping | gone => exact early.elim

theorem phase_late (late : Late stage) :
    Phase i told services stage ↔ (Silent i told ∨ hasEnded i told = true) ∧ services = ∅ := by
  cases stage with
  | leaving | dropping | gone => exact Iff.rfl
  | staked | waiting | welcoming | serving => exact late.elim

theorem silent_other (other : entry.teller ≠ some i) : Silent i (told ++ [entry]) ↔ Silent i told := by
  simp [Silent, or_imp, forall_and, other]

theorem not_silent_own (told : List Told) (same : entry.teller = some i) : ¬ Silent i (told ++ [entry]) :=
  fun silent => silent entry (by simp) same

theorem hasEnded_other (other : entry.teller ≠ some i) : hasEnded i (told ++ [entry]) = hasEnded i told := by
  simp [hasEnded, other]

theorem hasEnded_own (told : List Told) (same : entry.teller = some i) :
    hasEnded i (told ++ [entry]) = (hasEnded i told || ends entry.event) := by
  simp [hasEnded, same]

theorem Silent.hasEnded (silent : Silent i told) : hasEnded i told = false := by
  unfold Status.hasEnded
  rw [List.any_eq_false]
  intro entry member
  simp [silent entry member]

theorem Silent.bindings (silent : Silent i told) : bindings i told = ∅ := by
  have nothing : told.filterMap (own i) = [] := by
    rw [List.filterMap_eq_nil_iff]
    intro entry member
    exact if_neg (silent entry member)
  rw [Status.bindings, Journal.replay, nothing]
  rfl

theorem Phase.other (phase : Phase i told services stage) (other : entry.teller ≠ some i) :
    Phase i (told ++ [entry]) services stage := by
  cases stage with
  | staked | waiting | welcoming => exact ⟨(silent_other other).mpr phase.1, phase.2⟩
  | serving =>
      obtain ⟨spoke, alive, same⟩ := phase
      refine ⟨fun silent => spoke ((silent_other other).mp silent), (hasEnded_other other).trans alive, ?_⟩
      rw [bindings_other told other]
      exact same
  | leaving | dropping | gone =>
      refine ⟨?_, phase.2⟩
      rw [silent_other other, hasEnded_other other]
      exact phase.1

theorem Phase.bound (phase : Phase i told services stage) (service : String) :
    (boundBy i told)[service]? = services[service]?.map place := by
  have nothing (silent : Silent i told ∨ hasEnded i told = true) : boundBy i told = ∅ := by
    unfold boundBy
    rcases silent with silent | finished
    · rw [silent.hasEnded, silent.bindings]
      rfl
    · rw [if_pos finished]
  cases stage with
  | staked | waiting | welcoming =>
      obtain ⟨silent, rfl⟩ := phase
      simp [nothing (.inl silent)]
  | serving =>
      obtain ⟨-, alive, same⟩ := phase
      rw [boundBy, alive]
      exact same service
  | leaving | dropping | gone =>
      obtain ⟨silent, rfl⟩ := phase
      simp [nothing silent]

theorem Turn.phase (turn : Turn this old new next event) (phase : Phase i told this.session.services old) :
    Phase i (told ++ (event.map (⟨some i, ·⟩)).toList) next.session.services new := by
  cases turn with
  | early was now =>
      obtain ⟨silent, empty⟩ := (phase_early was).mp phase
      rw [Option.map_none, Option.toList_none, List.append_nil]
      rcases now with now | now
      · exact (phase_early now).mpr ⟨silent, empty⟩
      · exact (phase_late now).mpr ⟨.inl silent, empty⟩
  | late was now =>
      rw [Option.map_none, Option.toList_none, List.append_nil]
      exact (phase_late now).mpr ((phase_late was).mp phase)
  | welcomed =>
      obtain ⟨silent, empty⟩ := phase
      refine ⟨not_silent_own told rfl, ?_, ?_⟩
      · exact (hasEnded_own told rfl).trans (by rw [silent.hasEnded]; rfl)
      · intro service
        have afresh : bindings i (told ++ [⟨some i, this.connected⟩]) = ∅ := bindings_own told rfl
        rw [Option.map_some, Option.toList_some, afresh, empty]
        rfl
  | idle _ same kept =>
      rw [Option.map_none, Option.toList_none, List.append_nil, kept]
      exact phase
  | bound _ same service bound inserted =>
      obtain ⟨spoke, alive, listed⟩ := phase
      refine ⟨not_silent_own told rfl, ?_, ?_⟩
      · exact (hasEnded_own told rfl).trans (by rw [alive]; rfl)
      · intro other
        have added : bindings i (told ++ [⟨some i, .bound this.name service bound.addr bound.port⟩]) =
            (bindings i told).insert service (place bound) := bindings_own told rfl
        rw [Option.map_some, Option.toList_some, added, inserted, ExtTreeMap.getElem?_insert,
          ExtTreeMap.getElem?_insert, listed]
        split_ifs <;> rfl
  | unbound _ same service port erased =>
      obtain ⟨spoke, alive, listed⟩ := phase
      refine ⟨not_silent_own told rfl, ?_, ?_⟩
      · exact (hasEnded_own told rfl).trans (by rw [alive]; rfl)
      · intro other
        have removed : bindings i (told ++ [⟨some i, .unbound this.name service port⟩]) =
            (bindings i told).erase service := bindings_own told rfl
        rw [Option.map_some, Option.toList_some, removed, erased, ExtTreeMap.getElem?_erase,
          ExtTreeMap.getElem?_erase, listed]
        split_ifs <;> rfl
  | ended _ same cleared =>
      refine ⟨.inr ?_, cleared⟩
      exact (hasEnded_own told rfl).trans (by simp [ends])

end Turn

section Step
open Hawse.Server.Claims Hawse.Proof.Claims
variable {policy : Policy} {this next : Watched} {told : Option Told}

theorem set_same {α : Type*} {l : List α} {i : Nat} {x : α} (stored : l[i]? = some x) : l.set i x = l := by
  obtain ⟨bound, rfl⟩ := List.getElem?_eq_some_iff.mp stored
  exact List.set_getElem_self bound

inductive Stepped (policy : Policy) (this : Watched) : Watched → Option Told → Prop
  | staked (key : PublicKey) (remote : SocketAddr) (transport : TransportKind) (agent : String) (grant : Grant)
      (granted : policy.lookup key = some grant) :
      Stepped policy this ⟨this.claims.stake key, this.greeted ++ [⟨remote, transport, agent, .new key grant⟩]⟩
        none
  | turned (i : Nat) (key : PublicKey) (old new : Stage) (claims : Claims) (before after : Greeted)
      (event : Option Watched.Event) (moved : Moved this.claims claims i key old new)
      (stored : this.greeted[i]? = some before) (turn : Turn before old new after event) :
      Stepped policy this ⟨claims, this.greeted.set i after⟩ (event.map (⟨some i, ·⟩))
  | denied (key : PublicKey) (remote : SocketAddr) :
      Stepped policy this this (some ⟨none, .denied key remote⟩)

theorem moved_still {s : Claims} {i : Nat} {run : Run} (stored : s.runs[i]? = some run) :
    Moved s s i run.key run.stage run.stage where
  before := stageOf_eq_some.mpr ⟨run, stored, rfl, rfl⟩
  after j := by
    split_ifs with same
    · exact same ▸ stageOf_eq_some.mpr ⟨run, stored, rfl, rfl⟩
    · rfl
  length := rfl
  sessions _ _ found := found

theorem serving_some {i : Nat} {greeted : Greeted} (serving : this.serving i = some greeted) :
    this.greeted[i]? = some greeted ∧ ∃ key, Moved this.claims this.claims i key .serving .serving := by
  obtain ⟨run, stored, serving⟩ := Option.bind_eq_some_iff.mp serving
  split_ifs at serving with stage
  refine ⟨serving, run.key, ?_⟩
  have still := moved_still stored
  rwa [stage] at still

theorem unbindAll_turn (greeted : Greeted) :
    Turn greeted .serving .leaving greeted.unbindAll (some (.ended greeted.name)) := by
  obtain ⟨grant, key⟩ := Session.unbindAll_grant greeted.session greeted.session.services.keys
  refine .ended _ ⟨rfl, rfl, rfl, key, grant⟩ ?_
  apply ExtTreeMap.ext_getElem?
  intro service
  have cleared := Session.unbindAll_getElem? greeted.session greeted.session.services.keys service
  rw [Greeted.unbindAll, cleared]
  simp

theorem bind_turn [Ipnet] (greeted : Greeted) (service : String) (port : Option UInt16) (allow : List IpNet)
    (proxyProtocol : Bool) (opened : Except BindFailure Port) :
    Turn greeted .serving .serving (greeted.bind service port allow proxyProtocol opened).1
      (greeted.bind service port allow proxyProtocol opened).2 := by
  have answered := Session.bind_answered greeted.session service port allow proxyProtocol opened
  unfold Greeted.bind
  revert answered
  generalize greeted.session.bind service port allow proxyProtocol opened = result
  obtain ⟨reply, session⟩ := result
  intro answered
  cases answered with
  | shutdown | failed => exact .idle _ (.refl greeted) rfl
  | bound id port' admitted proxy =>
      simp only [ExtTreeMap.getElem?_insert_self, Option.map_some]
      refine Turn.bound _ ?_ service ⟨id, port', port.isSome, greeted.session.grant.bind, admitted, proxy⟩ ?_
      · exact ⟨rfl, rfl, rfl, rfl, rfl⟩
      · rfl

theorem unbind_turn (greeted : Greeted) (service : String) :
    Turn greeted .serving .serving (greeted.unbind service).1 (greeted.unbind service).2 := by
  unfold Greeted.unbind Server.Session.unbind
  cases held : greeted.session.services[service]? with
  | none =>
      refine .idle _ ⟨rfl, rfl, rfl, rfl, rfl⟩ ?_
      apply ExtTreeMap.ext_getElem?
      intro other
      rw [ExtTreeMap.getElem?_erase]
      split_ifs with same
      · rw [← Std.compare_eq_iff_eq.mp same, held]
      · rfl
  | some bound =>
      refine Turn.unbound _ ?_ service bound.port ?_
      · exact ⟨rfl, rfl, rfl, rfl, rfl⟩
      · rfl

theorem passed_turn {s : Watched} {event : Claims.Event} {i : Nat} {old new : Stage} {greeted : Greeted}
    (passes : Passes event i old new) (stored : s.greeted[i]? = some greeted) :
    ∃ after told, Turn greeted old new after told ∧
      s.passed event = (s.update i after, told.map (⟨some i, ·⟩)) := by
  have kept : s.update i greeted = s := by rw [Watched.update, set_same stored]
  cases passes with
  | early _ was now silent => exact ⟨greeted, none, .early was now, by rw [silent, kept]; rfl⟩
  | late _ was now silent => exact ⟨greeted, none, .late was now, by rw [silent, kept]; rfl⟩
  | welcomed => exact ⟨greeted, _, .welcomed, by rw [Watched.passed, stored, kept]; rfl⟩
  | superseded | ended => exact ⟨_, _, unbindAll_turn greeted, by simp [Watched.passed, stored]⟩

theorem watched_step [Ipnet] {act : Watched.Act} (aligned : this.greeted.length = this.claims.runs.length)
    (stepped : this.step policy act = some (next, told)) : Stepped policy this next told := by
  cases act with
  | stake key remote transport agent =>
      obtain ⟨grant, granted, stepped⟩ := Option.bind_eq_some_iff.mp stepped
      obtain ⟨rfl, rfl⟩ := Prod.mk.inj (Option.some.inj stepped)
      exact .staked key remote transport agent grant granted
  | claim event =>
      obtain ⟨claims, moves, staked, passed⟩ : ∃ claims, this.claims.step event = some claims ∧
          (∀ key, event ≠ .stake key) ∧ { this with claims }.passed event = (next, told) := by
        cases event with
        | stake key => cases stepped
        | _ =>
            obtain ⟨claims, moves, stepped⟩ := Option.bind_eq_some_iff.mp stepped
            exact ⟨claims, moves, by simp, Option.some.inj stepped⟩
      obtain ⟨i, key, old, new, moved, passes⟩ := claims_step_passes moves staked
      have bound : i < this.greeted.length := aligned ▸ stageOf_bounded moved.before
      have stored : this.greeted[i]? = some this.greeted[i] := List.getElem?_eq_getElem bound
      obtain ⟨after, event, turn, same⟩ := passed_turn (s := { this with claims }) passes stored
      obtain ⟨rfl, rfl⟩ := Prod.mk.inj (same.symm.trans passed)
      exact .turned i key old new claims _ _ _ moved stored turn
  | bind i service kind port allow proxyProtocol opened =>
      obtain ⟨greeted, serving, stepped⟩ := Option.bind_eq_some_iff.mp stepped
      obtain ⟨rfl, rfl⟩ := Prod.mk.inj (Option.some.inj stepped)
      obtain ⟨stored, key, still⟩ := serving_some serving
      exact .turned i key _ _ _ _ _ _ still stored (bind_turn greeted service port allow proxyProtocol opened)
  | unbind i service =>
      obtain ⟨greeted, serving, stepped⟩ := Option.bind_eq_some_iff.mp stepped
      obtain ⟨rfl, rfl⟩ := Prod.mk.inj (Option.some.inj stepped)
      obtain ⟨stored, key, still⟩ := serving_some serving
      exact .turned i key _ _ _ _ _ _ still stored (unbind_turn greeted service)
  | denied key remote =>
      simp only [Watched.step] at stepped
      split_ifs at stepped
      obtain ⟨rfl, rfl⟩ := Prod.mk.inj (Option.some.inj stepped)
      exact .denied key remote

end Step

section Sound
open Hawse.Server.Claims Hawse.Proof.Claims
variable {policy : Policy} {this next : Watched} {told : List Told}

structure Sound (policy : Policy) (this : Watched) (told : List Told) : Prop where
  aligned : this.greeted.length = this.claims.runs.length
  greeted : ∀ i greeted, this.greeted[i]? = some greeted →
    policy.lookup greeted.session.key = some greeted.session.grant ∧
    ∃ stage, stageOf this.claims i = some (greeted.session.key, stage) ∧
      Phase i told greeted.session.services stage
  held : ∀ (key : PublicKey) (i : Nat), this.claims.sessions[key]? = some i →
    ∃ greeted, this.greeted[i]? = some greeted ∧ greeted.session.key = key
  tells : ∀ entry ∈ told, ∀ i, entry.teller = some i →
    ∃ greeted, this.greeted[i]? = some greeted ∧ Tells greeted entry.event
  unsaid : ∀ entry ∈ told, entry.teller = none → clientOf entry.event = none
  first : ∀ heard entry, heard ++ [entry] <+: told → ∀ i, entry.teller = some i → Silent i heard →
    ∃ greeted, this.greeted[i]? = some greeted ∧ entry.event = greeted.connected

theorem sound_new : Sound policy .new [] := by
  constructor <;> simp [Watched.new, Claims.new]

theorem Sound.silent (sound : Sound policy this told) {i : Nat} (beyond : this.greeted.length ≤ i) :
    Silent i told := by
  intro entry member same
  obtain ⟨greeted, stored, -⟩ := sound.tells entry member i same
  have bound := (List.getElem?_eq_some_iff.mp stored).1
  omega

theorem Sound.staked (sound : Sound policy this told) (key : PublicKey) (remote : SocketAddr)
    (transport : TransportKind) (agent : String) {grant : Grant} (granted : policy.lookup key = some grant) :
    Sound policy ⟨this.claims.stake key, this.greeted ++ [⟨remote, transport, agent, .new key grant⟩]⟩ told := by
  have kept {i : Nat} {greeted : Greeted} (stored : this.greeted[i]? = some greeted) :
      (this.greeted ++ [⟨remote, transport, agent, .new key grant⟩])[i]? = some greeted := by
    rw [List.getElem?_append_left (List.getElem?_eq_some_iff.mp stored).1]
    exact stored
  refine ⟨?_, ?_, ?_, ?_, sound.unsaid, ?_⟩
  · rw [length_stake, List.length_append, sound.aligned]
    rfl
  · intro i greeted stored
    rcases Nat.lt_trichotomy i this.greeted.length with less | rfl | beyond
    · rw [List.getElem?_append_left less] at stored
      rw [stageOf_stake_of_lt key (sound.aligned ▸ less)]
      exact sound.greeted i greeted stored
    · rw [List.getElem?_concat_length] at stored
      obtain rfl := Option.some.inj stored
      refine ⟨granted, .staked this.claims.sessions[key]?, ?_, sound.silent le_rfl, rfl⟩
      rw [stageOf_stake, if_pos sound.aligned]
      rfl
    · rw [List.getElem?_eq_none (by simp; omega)] at stored
      cases stored
  · intro other i found
    rw [sessions_stake] at found
    split_ifs at found with same
    · obtain rfl := Option.some.inj found
      refine ⟨⟨remote, transport, agent, .new key grant⟩, ?_, same⟩
      rw [← sound.aligned]
      exact List.getElem?_concat_length
    · obtain ⟨greeted, stored, keyed⟩ := sound.held other i found
      exact ⟨greeted, kept stored, keyed⟩
  · intro entry member i same
    obtain ⟨greeted, stored, tells⟩ := sound.tells entry member i same
    exact ⟨greeted, kept stored, tells⟩
  · intro heard entry earlier i same silent
    obtain ⟨greeted, stored, connected⟩ := sound.first heard entry earlier i same silent
    exact ⟨greeted, kept stored, connected⟩

theorem Tells.same {before after : Greeted} {event : Watched.Event} (tells : Tells before event)
    (same : Same before after) : Tells after event := by
  unfold Tells
  rw [same.name, same.connected]
  exact tells

theorem Sound.unspoken (sound : Sound policy this told) {j : Nat} {key : PublicKey} {old new : Stage}
    {claims : Claims} {before : Greeted} (moved : Moved this.claims claims j key old new)
    (held : this.greeted[j]? = some before) (silent : Silent j told) : old ≠ .serving := by
  rintro rfl
  obtain ⟨-, stage, found, phase⟩ := sound.greeted j before held
  obtain ⟨-, rfl⟩ := Prod.mk.inj (Option.some.inj (moved.before.symm.trans found))
  exact phase.1 silent

theorem Sound.turned (sound : Sound policy this told) {i : Nat} {key : PublicKey} {old new : Stage}
    {claims : Claims} {before after : Greeted} {event : Option Watched.Event}
    (moved : Moved this.claims claims i key old new) (stored : this.greeted[i]? = some before)
    (turn : Turn before old new after event) :
    Sound policy ⟨claims, this.greeted.set i after⟩ (told ++ (event.map (⟨some i, ·⟩)).toList) := by
  have bound := (List.getElem?_eq_some_iff.mp stored).1
  have same := turn.same
  have kept {j : Nat} {greeted : Greeted} (stored' : this.greeted[j]? = some greeted) :
      ∃ greeted', (this.greeted.set i after)[j]? = some greeted' ∧ Same greeted greeted' := by
    by_cases own : i = j
    · subst own
      obtain rfl := Option.some.inj (stored.symm.trans stored')
      exact ⟨after, List.getElem?_set_self bound, same⟩
    · exact ⟨greeted, (List.getElem?_set_ne own).trans stored', .refl greeted⟩
  have older {heard : List Told} {entry : Told} {j : Nat} (earlier : heard ++ [entry] <+: told)
      (teller : entry.teller = some j) (silent : Silent j heard) :
      ∃ greeted, (this.greeted.set i after)[j]? = some greeted ∧ entry.event = greeted.connected := by
    obtain ⟨greeted, stored', connected⟩ := sound.first heard entry earlier j teller silent
    obtain ⟨greeted', stored'', same⟩ := kept stored'
    exact ⟨greeted', stored'', connected.trans same.connected.symm⟩
  refine ⟨?_, ?_, ?_, ?_, ?_, ?_⟩
  · rw [List.length_set, moved.length, sound.aligned]
  · intro j greeted stored'
    rw [moved.after]
    by_cases own : i = j
    · subst own
      rw [List.getElem?_set_self bound] at stored'
      obtain rfl := Option.some.inj stored'
      obtain ⟨granted, stage, found, phase⟩ := sound.greeted i before stored
      obtain ⟨rfl, rfl⟩ := Prod.mk.inj (Option.some.inj (moved.before.symm.trans found))
      rw [if_pos rfl, same.key, same.grant]
      exact ⟨granted, new, rfl, turn.phase phase⟩
    · rw [List.getElem?_set_ne own] at stored'
      obtain ⟨granted, stage, found, phase⟩ := sound.greeted j greeted stored'
      rw [if_neg own]
      refine ⟨granted, stage, found, ?_⟩
      cases event with
      | none => simpa using phase
      | some event => exact phase.other fun teller => own (Option.some.inj teller)
  · intro key' j found
    obtain ⟨greeted, stored', keyed⟩ := sound.held key' j (moved.sessions key' j found)
    obtain ⟨greeted', stored'', same⟩ := kept stored'
    exact ⟨greeted', stored'', same.key.trans keyed⟩
  · intro entry member j teller
    rcases List.mem_append.mp member with member | member
    · obtain ⟨greeted, stored', tells⟩ := sound.tells entry member j teller
      obtain ⟨greeted', stored'', same⟩ := kept stored'
      exact ⟨greeted', stored'', tells.same same⟩
    · obtain ⟨event, said, rfl⟩ := Option.map_eq_some_iff.mp (Option.mem_toList.mp member)
      obtain rfl := Option.some.inj teller
      exact ⟨after, List.getElem?_set_self bound, (turn.tells said).1.same same⟩
  · intro entry member teller
    rcases List.mem_append.mp member with member | member
    · exact sound.unsaid entry member teller
    · obtain ⟨event, said, rfl⟩ := Option.map_eq_some_iff.mp (Option.mem_toList.mp member)
      cases teller
  · intro heard entry earlier j teller silent
    cases event with
    | none =>
        rw [Option.map_none, Option.toList_none, List.append_nil] at earlier
        exact older earlier teller silent
    | some said =>
        rcases List.prefix_concat_iff.mp earlier with whole | earlier
        · obtain ⟨rfl, last⟩ := List.append_inj' whole rfl
          obtain rfl := List.singleton_inj.mp last
          obtain rfl := Option.some.inj teller
          have connected := (turn.tells rfl).2 (sound.unspoken moved stored silent)
          exact ⟨after, List.getElem?_set_self bound, connected.trans same.connected.symm⟩
        · exact older earlier teller silent

theorem Sound.denied (sound : Sound policy this told) (key : PublicKey) (remote : SocketAddr) :
    Sound policy this (told ++ [⟨none, .denied key remote⟩]) where
  aligned := sound.aligned
  greeted i greeted stored := by
    obtain ⟨granted, stage, found, phase⟩ := sound.greeted i greeted stored
    exact ⟨granted, stage, found, phase.other (Option.some_ne_none i).symm⟩
  held := sound.held
  tells entry member i teller := by
    rcases List.mem_append.mp member with member | member
    · exact sound.tells entry member i teller
    · obtain rfl := List.mem_singleton.mp member
      cases teller
  unsaid entry member teller := by
    rcases List.mem_append.mp member with member | member
    · exact sound.unsaid entry member teller
    · obtain rfl := List.mem_singleton.mp member
      rfl
  first heard entry earlier i teller silent := by
    rcases List.prefix_concat_iff.mp earlier with whole | earlier
    · obtain rfl := List.singleton_inj.mp (List.append_inj' whole rfl).2
      cases teller
    · exact sound.first heard entry earlier i teller silent

theorem Sound.step (sound : Sound policy this told) {said : Option Told} (stepped : Stepped policy this next said) :
    Sound policy next (told ++ said.toList) := by
  cases stepped with
  | staked key remote transport agent grant granted =>
      rw [Option.toList_none, List.append_nil]
      exact sound.staked key remote transport agent granted
  | turned i key old new claims before after event moved stored turn => exact sound.turned moved stored turn
  | denied key remote => exact sound.denied key remote

end Sound

section Apart
open Hawse.Server.Claims Hawse.Proof.Claims
variable {policy : Policy} {this next : Watched} {told heard : List Told} {i : Nat} {greeted : Greeted} {entry : Told}

/-- What another session of its client may say without touching what a session's record holds. -/
def Harmless (held : ExtTreeMap String (IpAddr × Port)) : Watched.Event → Prop
  | .connected _ _ _ _ => False
  | .bound _ _ _ _ => False
  | .unbound _ service _ => service ∉ held
  | .ended _ => True
  | .denied _ _ => True

/-- Once it was heard that a live session is connected, what is heard of another session of its client
is not that it is, or that it bound a service, or that it unbound one the live session bound. -/
def Undisturbed (this : Watched) (heard : List Told) (entry : Told) : Prop :=
  ∀ (key : PublicKey) (i : Nat) (greeted : Greeted), this.claims.sessions[key]? = some i →
    this.greeted[i]? = some greeted → entry.teller ≠ some i → clientOf entry.event = some greeted.name →
    (∃ earlier ∈ heard, earlier.teller = some i) → Harmless (bindings i heard) entry.event

def Apart (this : Watched) (heard : List Told) : Prop :=
  ∀ (key : PublicKey) (i : Nat) (greeted : Greeted), this.claims.sessions[key]? = some i →
    this.greeted[i]? = some greeted → ¬ Silent i heard → recorded greeted.name heard = bindings i heard

theorem not_silent : ¬ Silent i told ↔ ∃ entry ∈ told, entry.teller = some i := by
  simp [Silent]

theorem Harmless.record {held : ExtTreeMap String (IpAddr × Port)} {event : Watched.Event}
    (harmless : Harmless held event) : record held event = held := by
  cases event with
  | connected | bound => exact harmless.elim
  | unbound client service port =>
      apply ExtTreeMap.ext_getElem?
      intro other
      rw [Status.record, ExtTreeMap.getElem?_erase]
      split_ifs with same
      · rw [← Std.compare_eq_iff_eq.mp same, ExtTreeMap.getElem?_eq_none harmless]
      · rfl
  | ended | denied => rfl

theorem recorded_told
    (tells : entry.teller = some i → Tells greeted entry.event ∧ (Silent i told → entry.event = greeted.connected))
    (harmless : entry.teller ≠ some i → clientOf entry.event = some greeted.name → ¬ Silent i told →
      Harmless (bindings i told) entry.event)
    (agree : ¬ Silent i told → recorded greeted.name told = bindings i told)
    (spoke : ¬ Silent i (told ++ [entry])) :
    recorded greeted.name (told ++ [entry]) = bindings i (told ++ [entry]) := by
  by_cases mine : entry.teller = some i
  · obtain ⟨⟨client, -⟩, first⟩ := tells mine
    rw [recorded_own told client, bindings_own told mine]
    by_cases silent : Silent i told
    · rw [first silent]
      rfl
    · rw [agree silent]
  · rw [silent_other mine] at spoke
    rw [bindings_other told mine, ← agree spoke]
    by_cases client : clientOf entry.event = some greeted.name
    · rw [recorded_own told client]
      have harmless := harmless mine client spoke
      rw [← agree spoke] at harmless
      exact harmless.record
    · exact recorded_other told client

theorem Apart.staked (apart : Apart this heard) (sound : Sound policy this told) (behind : ∀ entry ∈ heard, entry ∈ told)
    (key : PublicKey) (staked : Greeted) : Apart ⟨this.claims.stake key, this.greeted ++ [staked]⟩ heard := by
  intro other i greeted live stored spoke
  have bound : i < this.greeted.length := by
    by_contra beyond
    have silent := sound.silent (Nat.le_of_not_lt beyond)
    exact spoke fun entry member => silent entry (behind entry member)
  rw [List.getElem?_append_left bound] at stored
  rw [sessions_stake] at live
  split_ifs at live with same
  · have newest := Option.some.inj live
    rw [← sound.aligned] at newest
    omega
  · exact apart other i greeted live stored spoke

theorem Apart.turned (apart : Apart this heard) {j : Nat} {key : PublicKey} {old new : Stage} {claims : Claims}
    {before after : Greeted} {event : Option Watched.Event} (moved : Moved this.claims claims j key old new)
    (held : this.greeted[j]? = some before) (turn : Turn before old new after event) :
    Apart ⟨claims, this.greeted.set j after⟩ heard := by
  intro key' i greeted live stored spoke
  have live := moved.sessions key' i live
  by_cases own : j = i
  · subst own
    rw [List.getElem?_set_self (List.getElem?_eq_some_iff.mp held).1] at stored
    obtain rfl := Option.some.inj stored
    rw [turn.same.name]
    exact apart key' j before live held spoke
  · rw [List.getElem?_set_ne own] at stored
    exact apart key' i greeted live stored spoke

theorem Apart.step (apart : Apart this heard) (sound : Sound policy this told) (behind : ∀ entry ∈ heard, entry ∈ told)
    {said : Option Told} (stepped : Stepped policy this next said) : Apart next heard := by
  cases stepped with
  | staked key remote transport agent grant => exact apart.staked sound behind key _
  | turned i key old new claims before after event moved stored turn => exact apart.turned moved stored turn
  | denied key remote => exact apart

theorem Apart.applied (apart : Apart this heard) (sound : Sound policy this told) (earlier : heard ++ [entry] <+: told)
    (undisturbed : Undisturbed this heard entry) : Apart this (heard ++ [entry]) := by
  intro key i greeted live stored spoke
  refine recorded_told ?_ ?_ (apart key i greeted live stored) spoke
  · intro mine
    obtain ⟨greeted', stored', tells⟩ := sound.tells entry (earlier.subset (by simp)) i mine
    obtain rfl := Option.some.inj (stored.symm.trans stored')
    refine ⟨tells, fun silent => ?_⟩
    obtain ⟨greeted', stored', connected⟩ := sound.first heard entry earlier i mine silent
    obtain rfl := Option.some.inj (stored.symm.trans stored')
    exact connected
  · intro other client spoke
    exact undisturbed key i greeted live stored other client (not_silent.mp spoke)

end Apart

def heard (this : Monitor) : List Told := this.applied.map (·.1)

theorem heard_behind (this : Monitor) : ∀ entry ∈ heard this, entry ∈ this.told :=
  fun _ member => List.mem_append_left _ member

theorem heard_next {this : Monitor} {entry : Told} (next : this.queue.head? = some entry) :
    heard this ++ [entry] <+: this.told := by
  obtain ⟨queue, waiting⟩ := List.head?_eq_some_iff.mp next
  refine ⟨queue, ?_⟩
  rw [Monitor.told, waiting, heard, List.append_assoc, List.singleton_append]

section Monitor
variable [Ipnet] {policy : Policy} {this next : Monitor}

def Orderly (this : Monitor) : Monitor.Event → Prop
  | .apply => ∀ entry ∈ this.queue.head?, Undisturbed this.server (heard this) entry
  | .server _ => True
  | .tick _ => True

theorem monitor_step {event : Monitor.Event} (stepped : this.step policy event = some next) :
    (∃ act said, event = .server act ∧ this.server.step policy act = some (next.server, said) ∧
      next.told = this.told ++ said.toList ∧ next.applied = this.applied ∧ next.keeper = this.keeper) ∨
    (∃ entry, event = .apply ∧ this.queue.head? = some entry.1 ∧ next.applied = this.applied ++ [entry] ∧
      next.keeper = this.keeper.apply entry.1.event entry.2 ∧ next.server = this.server ∧ next.told = this.told) ∨
    (next.server = this.server ∧ next.told = this.told ∧ next.applied = this.applied ∧
      next.keeper = this.keeper) := by
  cases event with
  | server act =>
      obtain ⟨result, acted, stepped⟩ := Option.bind_eq_some_iff.mp stepped
      obtain rfl := Option.some.inj stepped
      refine .inl ⟨act, result.2, rfl, acted, ?_, rfl, rfl⟩
      exact (List.append_assoc _ _ _).symm
  | apply =>
      simp only [Monitor.step] at stepped
      cases waiting : this.queue with
      | nil => simp [waiting] at stepped
      | cons entry queue =>
          simp only [waiting, Option.some.injEq] at stepped
          subst stepped
          refine .inr (.inl ⟨(entry, this.now), rfl, rfl, rfl, rfl, rfl, ?_⟩)
          simp [Monitor.told, waiting]
  | tick elapsed =>
      obtain rfl := Option.some.inj stepped
      exact .inr (.inr ⟨rfl, rfl, rfl, rfl⟩)

theorem reachable_sound (reachable : (monitor policy).Reachable this) :
    Sound policy this.server this.told ∧ this.keeper = keep this.applied := by
  refine reachable.invariant (fun this => Sound policy this.server this.told ∧ this.keeper = keep this.applied)
    ?_ ?_
  · rintro _ ⟨now, rfl⟩
    exact ⟨sound_new, rfl⟩
  · rintro this event next - ⟨sound, kept⟩ ⟨-, stepped⟩
    rcases monitor_step stepped with ⟨act, said, rfl, acted, told, applied, keeper⟩ |
      ⟨entry, -, -, applied, keeper, server, told⟩ | ⟨server, told, applied, keeper⟩
    · rw [told, keeper, applied]
      exact ⟨sound.step (watched_step sound.aligned acted), kept⟩
    · rw [server, told, applied, keeper, keep_concat, kept]
      exact ⟨sound, rfl⟩
    · rw [server, told, applied, keeper]
      exact ⟨sound, kept⟩

theorem reachable_apart (reachable : ((monitor policy).restrict Orderly).Reachable this) :
    Apart this.server (heard this) := by
  refine reachable.invariant (fun this => Apart this.server (heard this)) ?_ ?_
  · rintro _ ⟨now, rfl⟩
    intro key i greeted live
    simp [Monitor.start, Watched.new, Claims.new] at live
  · rintro this event next before apart ⟨orderly, -, stepped⟩
    have sound := (reachable_sound before.of_restrict).1
    rcases monitor_step stepped with ⟨act, said, rfl, acted, -, applied, -⟩ |
      ⟨entry, rfl, first, applied, -, server, -⟩ | ⟨server, -, applied, -⟩
    · rw [heard, applied]
      exact apart.step sound (heard_behind this) (watched_step sound.aligned acted)
    · rw [heard, applied, List.map_append, List.map_singleton, server]
      exact apart.applied sound (heard_next first) (orderly entry.1 first)
    · rw [heard, applied, server]
      exact apart

end Monitor

section Snapshot
variable {policy : Policy} {server : Watched} {told : List Told} {live : List (PublicKey × SocketAddr)}
  {key : PublicKey} {grant : Grant}

theorem mem_live {remote : SocketAddr} : (key, remote) ∈ server.live ↔
    ∃ i greeted, server.claims.sessions[key]? = some i ∧ server.greeted[i]? = some greeted ∧
      greeted.remote = remote := by
  simp only [Watched.live, List.mem_filterMap, Option.map_eq_some_iff, Prod.exists, Prod.mk.injEq,
    ExtTreeMap.mem_toList_iff_getElem?_eq_some]
  constructor
  · rintro ⟨_, i, held, greeted, stored, rfl, rfl⟩
    exact ⟨i, greeted, held, stored, rfl⟩
  · rintro ⟨i, greeted, held, stored, rfl⟩
    exact ⟨key, i, held, greeted, stored, rfl, rfl⟩

theorem find_live (sound : Sound policy server told) (same : live.Perm server.live) :
    live.find? (·.1 = key) = server.claims.sessions[key]?.bind fun i =>
      server.greeted[i]?.map fun greeted => (key, greeted.remote) := by
  cases found : live.find? (·.1 = key) with
  | none =>
      cases held : server.claims.sessions[key]? with
      | none => rfl
      | some i =>
          obtain ⟨greeted, stored, -⟩ := sound.held key i held
          have listed : (key, greeted.remote) ∈ live := same.mem_iff.mpr (mem_live.mpr ⟨i, greeted, held, stored, rfl⟩)
          have missing := List.find?_eq_none.mp found _ listed
          simp at missing
  | some entry =>
      obtain ⟨key', remote⟩ := entry
      obtain rfl : key' = key := by simpa using List.find?_some found
      have listed := same.mem_iff.mp (List.mem_of_find?_eq_some found)
      obtain ⟨i, greeted, held, stored, rfl⟩ := mem_live.mp listed
      simp [held, stored]

theorem presence_live (sound : Sound policy server told) (same : live.Perm server.live) (keeper : Keeper)
    (now : Nat) (name : String) {i : Nat} {greeted : Greeted} (held : server.claims.sessions[key]? = some i)
    (stored : server.greeted[i]? = some greeted) :
    keeper.presence live now key name =
      .connected greeted.remote (keeper.sessions[name]?.map (·.transport)) (keeper.sessions[name]?.map (·.agent))
        (keeper.sessions[name]?.map fun session => asSecs (now - session.since))
        ((keeper.sessions[name]?.map fun session => Keeper.listed session.services).getD []) := by
  rw [Keeper.presence, find_live sound same, held, Option.bind_some, stored]
  rfl

theorem presence_isConnected (sound : Sound policy server told) (same : live.Perm server.live) (keeper : Keeper)
    (now : Nat) (name : String) :
    (keeper.presence live now key name).isConnected = true ↔ key ∈ server.claims.sessions := by
  rw [ExtTreeMap.mem_iff_isSome_getElem?]
  cases held : server.claims.sessions[key]? with
  | none =>
      rw [Keeper.presence, find_live sound same, held]
      simp [Presence.isConnected]
  | some i =>
      obtain ⟨greeted, stored, -⟩ := sound.held key i held
      rw [presence_live sound same keeper now name held stored]
      simp [Presence.isConnected]

theorem filter_eq_singleton {α : Type*} {l : List α} {p : α → Bool} {x : α} (nodup : l.Nodup) (member : x ∈ l)
    (only : ∀ y ∈ l, p y = true ↔ y = x) : l.filter p = [x] := by
  classical
  have same : l.filter p = l.filter (· = x) := by
    apply List.filter_congr
    intro y member
    rw [Bool.eq_iff_iff, only y member, decide_eq_true_iff]
  rw [same, List.filter_eq, List.count_eq_one_of_mem nodup member]
  rfl

theorem snapshot_filter {cfg : ServerConfig} (granted : (Policy.fromConfig cfg).lookup key = some grant)
    (keeper : Keeper) (live : List (PublicKey × SocketAddr)) (listen : SocketAddr) (tcpFallback : Bool)
    (up now : Nat) :
    (keeper.snapshot (.fromConfig cfg) live listen tcpFallback up now).clients.filter (·.name = grant.name) =
      [⟨grant.name, keeper.presence live now key grant.name⟩] := by
  have perm := (List.mergeSort_perm ((Policy.fromConfig cfg).byKey.toList.map (keeper.entry live now))
    (·.name ≤ ·.name)).filter (·.name = grant.name)
  have only : (Policy.fromConfig cfg).byKey.toList.filter (·.2.name = grant.name) = [(key, grant)] := by
    apply filter_eq_singleton
    · exact (ExtTreeMap.distinct_keys_toList).imp fun differs same => differs (by simp [same])
    · exact ExtTreeMap.mem_toList_iff_getElem?_eq_some.mpr granted
    · rintro ⟨key', grant'⟩ member
      have granted' : (Policy.fromConfig cfg).lookup key' = some grant' :=
        ExtTreeMap.mem_toList_iff_getElem?_eq_some.mp member
      constructor
      · intro same
        obtain rfl := Reload.fromConfig_name granted' granted (by simpa using same)
        rw [Option.some.inj (granted'.symm.trans granted)]
      · intro same
        obtain ⟨rfl, rfl⟩ := Prod.mk.inj same
        simp
  have composed : (fun entry : ClientEntry => decide (entry.name = grant.name)) ∘ keeper.entry live now =
      fun entry : PublicKey × Grant => decide (entry.2.name = grant.name) := rfl
  rw [List.filter_map, composed, only] at perm
  exact List.perm_singleton.mp perm

end Snapshot

section Unmixed
variable {this : Monitor} {i : Nat} {greeted : Greeted}

/-- The live session alone: its own details once its `Connected` is the last applied of its name, and
none until then. -/
def unmixed (this : Monitor) (i : Nat) (greeted : Greeted) : Presence :=
  match lastConnected greeted.name this.applied with
  | none => .connected greeted.remote none none none []
  | some (entry, since) =>
      if entry.teller = some i then
        .connected greeted.remote (some greeted.transport) (some greeted.agent)
          (some (asSecs (this.now - since))) (Keeper.listed (boundBy i (heard this)))
      else .connected greeted.remote none none none []

/-- The last `Connected` applied under a name, if any, is the live session's, and if its end is
applied too it had unbound what it bound. -/
def Current (this : Monitor) (i : Nat) (name : String) : Prop :=
  ∀ entry since, lastConnected name this.applied = some (entry, since) →
    entry.teller = some i ∧ (hasEnded i (heard this) = true → bindings i (heard this) = ∅)

theorem listed_injective : Function.Injective Keeper.listed := by
  intro services services' same
  have lists : services.toList = services'.toList := by
    refine List.map_injective_iff.mpr ?_ same
    rintro ⟨name, bind, port⟩ ⟨name', bind', port'⟩ equal
    simpa using equal
  apply ExtTreeMap.ext_getElem?
  intro service
  apply Option.ext
  intro bound
  rw [← ExtTreeMap.mem_toList_iff_getElem?_eq_some, ← ExtTreeMap.mem_toList_iff_getElem?_eq_some, lists]

theorem boundBy_eq_bindings (told : List Told) :
    bindings i told = boundBy i told ↔ (hasEnded i told = true → bindings i told = ∅) := by
  unfold boundBy
  split_ifs with finished
  · simp [finished]
  · simp [finished]

theorem lastConnected_mem {client : String} {entry : Told} {since : Nat}
    (last : lastConnected client this.applied = some (entry, since)) :
    entry ∈ heard this ∧ connects client entry.event = true := by
  have holds := Journal.last_holds (p := fun entry : Told × Nat => connects client entry.1.event) last
  exact ⟨List.mem_map_of_mem (Journal.last_mem last), holds⟩

theorem boundBy_append {told later : List Told} (quiet : Silent i later) :
    boundBy i (told ++ later) = boundBy i told := by
  induction later using List.reverseRecOn with
  | nil => rw [List.append_nil]
  | append_singleton later entry ih =>
      have other : entry.teller ≠ some i := quiet entry (by simp)
      rw [← List.append_assoc, boundBy, hasEnded_other other, bindings_other _ other, ← boundBy,
        ih ((silent_other other).mp quiet)]

variable {policy : Policy} {key : PublicKey} {live : List (PublicKey × SocketAddr)}

theorem sessions_last (kept : this.keeper = keep this.applied) {client : String} {entry : Told} {since : Nat}
    (last : lastConnected client this.applied = some (entry, since)) :
    ∃ remote transport agent, entry.event = .connected client remote transport agent ∧
      this.keeper.sessions[client]? = some ⟨transport, agent, since, recorded client (heard this)⟩ := by
  obtain ⟨remote, transport, agent, event⟩ := connects_eq (lastConnected_mem last).2
  refine ⟨remote, transport, agent, event, ?_⟩
  rw [kept, keep_sessions, last, Option.bind_some, opens, event]
  rfl

theorem presence_unmixed_iff (sound : Sound policy this.server this.told) (apart : Apart this.server (heard this))
    (kept : this.keeper = keep this.applied) (same : live.Perm this.server.live)
    (held : this.server.claims.sessions[key]? = some i) (stored : this.server.greeted[i]? = some greeted) :
    this.keeper.presence live this.now key greeted.name = unmixed this i greeted ↔
      Current this i greeted.name := by
  rw [presence_live sound same _ _ _ held stored, unmixed, Current]
  cases last : lastConnected greeted.name this.applied with
  | none =>
      have absent : this.keeper.sessions[greeted.name]? = none := by rw [kept, keep_sessions, last]; rfl
      simp [absent]
  | some found =>
      obtain ⟨entry, since⟩ := found
      obtain ⟨remote, transport, agent, event, record⟩ := sessions_last kept last
      obtain ⟨member, connected⟩ := lastConnected_mem last
      rw [record]
      by_cases mine : entry.teller = some i
      · obtain ⟨greeted', stored', -, tells⟩ := sound.tells entry (List.mem_append_left _ member) i mine
        obtain rfl := Option.some.inj (stored.symm.trans stored')
        have own := event.symm.trans (tells connected)
        obtain ⟨-, -, rfl, rfl⟩ := Watched.Event.connected.inj own
        have bindings := apart key i greeted held stored (not_silent.mpr ⟨entry, member, mine⟩)
        simp [mine, bindings, listed_injective.eq_iff, boundBy_eq_bindings]
      · simp [mine]

/-- What `hawse status` shows of every client, in every state. -/
theorem status_unmixed_iff [Ipnet] (cfg : ServerConfig) (this : Monitor)
    (reachable : (monitor (.fromConfig cfg)).Reachable this) (live : List (PublicKey × SocketAddr))
    (same : live.Perm this.server.live) (listen : SocketAddr) (tcpFallback : Bool) (up : Nat) (key : PublicKey)
    (grant : Grant) (granted : (Policy.fromConfig cfg).lookup key = some grant) :
    ∃ presence, (this.keeper.snapshot (.fromConfig cfg) live listen tcpFallback up this.now).clients.filter
        (·.name = grant.name) = [⟨grant.name, presence⟩] ∧
      (presence.isConnected = true ↔ key ∈ this.server.claims.sessions) ∧
      ∀ i, this.server.claims.sessions[key]? = some i →
        ∃ greeted, this.server.greeted[i]? = some greeted ∧ greeted.name = grant.name ∧
          (∃ transport agent up services, presence = .connected greeted.remote transport agent up services) ∧
          ((∀ entry ∈ this.queue, entry.teller ≠ some i) → ∀ service : String,
            (boundBy i (heard this))[service]? = greeted.session.services[service]?.map place) ∧
          (((monitor (.fromConfig cfg)).restrict Orderly).Reachable this →
            (presence = unmixed this i greeted ↔ Current this i grant.name)) := by
  obtain ⟨sound, kept⟩ := reachable_sound reachable
  refine ⟨_, snapshot_filter granted _ _ _ _ _ _, presence_isConnected sound same _ _ _, ?_⟩
  intro i held
  obtain ⟨greeted, stored, rfl⟩ := sound.held key i held
  obtain ⟨granted', stage, -, phase⟩ := sound.greeted i greeted stored
  have name : greeted.name = grant.name := congrArg Grant.name (Option.some.inj (granted'.symm.trans granted))
  refine ⟨greeted, stored, name, ⟨_, _, _, _, presence_live sound same _ _ _ held stored⟩, ?_, ?_⟩
  · intro quiet service
    rw [← phase.bound service, Monitor.told, boundBy_append quiet]
    rfl
  · intro orderly
    rw [← name]
    exact presence_unmixed_iff sound (reachable_apart orderly) kept same held stored

end Unmixed

section Example
attribute [local instance] ipnet

def homeKey : PublicKey := Vector.replicate 32 7

def homeConfig : ServerConfig := { ServerConfig.default with
  clients := (∅ : ExtTreeMap String ClientPolicy).insert "nas" ⟨homeKey, [⟨80, 90, .tcp⟩], some (.v4 0), []⟩ }

theorem home_lookup (key : PublicKey) :
    (Policy.fromConfig homeConfig).lookup key = if homeKey = key then some Session.webGrant else none := by
  have only : (Policy.fromConfig homeConfig).byKey = (∅ : ExtTreeMap PublicKey Grant).insert homeKey Session.webGrant :=
    rfl
  rw [Policy.lookup, only, ExtTreeMap.getElem?_insert]
  simp

def opens80 : Monitor.Event → Bool
  | .server (.bind _ _ kind port _ _ opened) =>
      kind = .tcp && port = some 80 && opened.toOption = some ⟨80, .tcp⟩
  | _ => true

/-- A step of a server that has had no second session yet. -/
def homeStep (this : Monitor) (event : Monitor.Event) : Option Monitor :=
  if this.server.greeted.length ≤ 1 ∧ opens80 event = true then this.step (.fromConfig homeConfig) event
  else none

def home : System Monitor Monitor.Event :=
  (monitor (.fromConfig homeConfig)).restrict Orderly

theorem alone_undisturbed {policy : Policy} {this : Watched} {told heard : List Told} {entry : Told}
    (alone : this.greeted.length ≤ 1) (sound : Sound policy this told) (member : entry ∈ told) :
    Undisturbed this heard entry := by
  intro key i greeted held stored other client spoke
  have bound := (List.getElem?_eq_some_iff.mp stored).1
  cases teller : entry.teller with
  | none => cases (sound.unsaid entry member teller).symm.trans client
  | some j =>
      obtain ⟨greeted', stored', -⟩ := sound.tells entry member j teller
      have bound' := (List.getElem?_eq_some_iff.mp stored').1
      have same : j = i := by omega
      exact absurd (teller.trans (congrArg some same)) other

theorem home_follows (this : Monitor) (event : Monitor.Event) (next : Monitor)
    (reachable : home.Reachable this) (stepped : homeStep this event = some next) :
    home.step this event next := by
  unfold homeStep at stepped
  split_ifs at stepped with tame
  obtain ⟨alone, port⟩ := tame
  have sound := (reachable_sound reachable.of_restrict).1
  refine ⟨?_, ?_, stepped⟩
  · cases event with
    | apply =>
        intro entry first
        exact alone_undisturbed alone sound ((heard_next first).subset (by simp))
    | server | tick => trivial
  · cases event with
    | server act =>
        cases act with
        | bind i service kind port allow proxyProtocol opened =>
            intro greeted stored
            obtain ⟨granted, -⟩ := sound.greeted i greeted stored
            rw [home_lookup] at granted
            split_ifs at granted
            simp only [opens80, Bool.and_eq_true, decide_eq_true_eq] at port
            cases opened with
            | error reason => simp [Except.toOption] at port
            | ok opened =>
                obtain ⟨⟨rfl, rfl⟩, same⟩ := port
                obtain rfl := Option.some.inj same
                rw [← Option.some.inj granted]
                exact Session.web_opens (by decide)
        | stake | claim | unbind | denied => trivial
    | apply | tick => trivial

/-- A session connects and binds a service, and all of it is heard. -/
def homeEvents : List Monitor.Event :=
  [.server (.stake homeKey ⟨.v4 1, 1111⟩ .quic "hawse/0.11.0"), .server (.claim (.supersede 0)),
    .server (.claim (.welcome 0 true)), .server (.bind 0 "web" .tcp (some 80) [] false (.ok ⟨80, .tcp⟩)),
    .apply, .apply]

/-- It leaves, and its client comes back over TCP. -/
def awayEvents : List Monitor.Event :=
  [.server (.claim (.ended 0)), .apply, .server (.claim (.done 0)), .server (.claim (.giveUp 0)),
    .server (.stake homeKey ⟨.v4 2, 2222⟩ .tcp "hawse/0.12.0")]

def nasStatus (this : Monitor) : List ClientEntry :=
  (this.keeper.snapshot (.fromConfig homeConfig) this.server.live ⟨.v4 0, 4433⟩ true 0 this.now).clients.filter
    (·.name = "nas")

theorem status_unmixed_iff_home : ∃ this, home.Reachable this ∧ nasStatus this =
    [⟨"nas", .connected ⟨.v4 1, 1111⟩ (some .quic) (some "hawse/0.11.0") (some 0)
      [⟨"web", .v4 0, ⟨80, .tcp⟩⟩]⟩] := by
  have ran : (System.run homeStep (.start 0) homeEvents).map (fun this =>
      (this.server.claims.sessions[homeKey]?, this.server.greeted.map fun greeted => unmixed this 0 greeted,
        (lastConnected "nas" this.applied).map (·.1.teller), hasEnded 0 (heard this))) =
      some (some 0, [.connected ⟨.v4 1, 1111⟩ (some .quic) (some "hawse/0.11.0") (some 0)
        [⟨"web", .v4 0, ⟨80, .tcp⟩⟩]], some (some 0), false) := by
    decide +kernel
  obtain ⟨this, reached, found⟩ := Option.map_eq_some_iff.mp ran
  simp only [Prod.mk.injEq] at found
  obtain ⟨held, alone, last, going⟩ := found
  have reachable : home.Reachable this :=
    System.Reachable.run_from home_follows (.initial ⟨0, rfl⟩) homeEvents reached
  obtain ⟨presence, shown, -, live⟩ := status_unmixed_iff homeConfig this reachable.of_restrict this.server.live
    (.refl _) ⟨.v4 0, 4433⟩ true 0 homeKey Session.webGrant (by rw [home_lookup, if_pos rfl])
  obtain ⟨greeted, stored, -, -, -, unmixed_iff⟩ := live 0 held
  have current : Current this 0 "nas" := by
    intro entry since connected
    rw [connected] at last
    refine ⟨Option.some.inj last, ?_⟩
    intro finished
    rw [going] at finished
    cases finished
  have member := List.mem_map_of_mem (f := fun greeted => unmixed this 0 greeted) (List.mem_of_getElem? stored)
  rw [alone, List.mem_singleton, ← (unmixed_iff reachable).mpr current] at member
  exact ⟨this, reachable, member ▸ shown⟩

/-- The second session of a client, of which nothing was told yet, with the first one's details. -/
theorem status_mixes_sessions : ∃ this, (monitor (.fromConfig homeConfig)).Reachable this ∧
    this.server.claims.sessions[homeKey]? = some 1 ∧ (∀ entry ∈ this.told, entry.teller ≠ some 1) ∧
    nasStatus this = [⟨"nas", .connected ⟨.v4 2, 2222⟩ (some .quic) (some "hawse/0.11.0") (some 0)
      [⟨"web", .v4 0, ⟨80, .tcp⟩⟩]⟩] ∧
    ∀ greeted, this.server.greeted[1]? = some greeted →
      greeted.transport = .tcp ∧ greeted.agent = "hawse/0.12.0" ∧
      unmixed this 1 greeted = .connected ⟨.v4 2, 2222⟩ none none none [] := by
  have ran : (System.run homeStep (.start 0) (homeEvents ++ awayEvents)).map (fun this =>
      (this.server.claims.sessions[homeKey]?, this.told.all (·.teller ≠ some 1),
        this.keeper.presence this.server.live this.now homeKey "nas")) =
      some (some 1, true, .connected ⟨.v4 2, 2222⟩ (some .quic) (some "hawse/0.11.0") (some 0)
        [⟨"web", .v4 0, ⟨80, .tcp⟩⟩]) := by
    decide +kernel
  have own : (System.run homeStep (.start 0) (homeEvents ++ awayEvents)).map (fun this =>
      this.server.greeted[1]?.map fun greeted => (greeted.transport, greeted.agent, unmixed this 1 greeted)) =
      some (some (.tcp, "hawse/0.12.0", .connected ⟨.v4 2, 2222⟩ none none none [])) := by
    decide +kernel
  obtain ⟨this, reached, found⟩ := Option.map_eq_some_iff.mp ran
  rw [reached] at own
  simp only [Prod.mk.injEq] at found
  obtain ⟨held, silent, shown⟩ := found
  have reachable : home.Reachable this :=
    System.Reachable.run_from home_follows (.initial ⟨0, rfl⟩) _ reached
  have granted : (Policy.fromConfig homeConfig).lookup homeKey = some Session.webGrant := by
    rw [home_lookup, if_pos rfl]
  refine ⟨this, reachable.of_restrict, held, ?_, ?_, ?_⟩
  · simpa using silent
  · rw [← shown]
    exact snapshot_filter granted _ _ _ _ _ _
  · intro greeted stored
    simpa [stored] using own

end Example
end Hawse.Proof.Status
