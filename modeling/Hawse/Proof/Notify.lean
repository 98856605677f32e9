import Mathlib.Data.List.Destutter
import Hawse.Notify
import Hawse.Proof.Status.Client
import Hawse.Proof.Status.Server

namespace Hawse.Proof.Notify
open Hawse.Notify Terminal
open Std (ExtTreeMap)

/-! ## A client's line -/

section Client
variable {line : Hawse.Client.Event → Option String} {cfg : ClientConfig} {this : Log}

def agreed : Panel.Answer → Bool
  | .bound _ => true
  | .refused _ => false

/-- What the line keeps of the panel's answers. -/
def kept (given : Hawse.Client.Expose × Panel.Answer) : Hawse.Client.Expose × Bool := (given.1, agreed given.2)

/-- The line's link against the panel's and the status's. -/
def SameLink (client : Notify.Client) (shown : Status.Shown) : Prop :=
  match client.link with
  | .connecting => shown.panel.link = .connecting
  | .up transport => ∃ roundTrip since, shown.panel.link = .up transport roundTrip since
  | .down why => (∃ since retryAt, shown.panel.link = .down since retryAt) ∧ why = shown.model.cause
  | .stopped why => shown.panel.link = .stopped ∧ why = shown.model.cause

/-- While the session is up the line and the panel have the same answers; before the next one is,
the panel may still have some of the last's. -/
structure Same (this : Log) : Prop where
  link : SameLink this.client this.shown
  answers : ∀ transport, this.client.link = .up transport →
    ∀ service : String, this.client.answers[service]? = this.shown.panel.answers[service]?.map kept

theorem answer_link (client : Notify.Client) (service : String) (bound : Bool) :
    (client.answer cfg service bound).link = client.link := by
  unfold Notify.Client.answer
  cases cfg.expose[service]? <;> rfl

theorem answer_panel_link (panel : Panel.State) (service : String) (answer : Panel.Answer) :
    (panel.answer cfg service answer).link = panel.link := by
  unfold Panel.State.answer
  cases cfg.expose[service]? <;> rfl

theorem answer_answers {client : Notify.Client} {panel : Panel.State}
    (same : ∀ service : String, client.answers[service]? = panel.answers[service]?.map kept) (name : String) (answer : Panel.Answer)
    (service : String) : (client.answer cfg name (agreed answer)).answers[service]? =
      (panel.answer cfg name answer).answers[service]?.map kept := by
  unfold Notify.Client.answer Panel.State.answer
  cases cfg.expose[name]? with
  | none => exact same service
  | some expose =>
      simp only [ExtTreeMap.getElem?_insert]
      split_ifs
      · rfl
      · exact same service

theorem same_event (same : Same this) (event : Hawse.Client.Event) (now : Nat) : Same (this.step line (.event event now)) := by
  obtain ⟨link, answers⟩ := same
  cases event with
  | connected remote transport name agent roundTrip =>
      refine ⟨⟨_, _, rfl⟩, fun _ _ service => ?_⟩
      simp [Log.step, Log.heard, Notify.Client.apply, Status.Shown.step, Panel.State.apply]
  | bound name port =>
      refine ⟨?_, fun transport up service => ?_⟩
      · simp only [SameLink, Log.step, Log.heard, Notify.Client.apply, answer_link, Status.Shown.step, Panel.State.apply,
          answer_panel_link, Status.Model.apply]
        exact link
      · have before : this.client.link = .up transport := (answer_link _ _ _).symm.trans up
        exact answer_answers (answers transport before) name (.bound port) service
  | bindFailed name reason =>
      refine ⟨?_, fun transport up service => ?_⟩
      · simp only [SameLink, Log.step, Log.heard, Notify.Client.apply, answer_link, Status.Shown.step, Panel.State.apply,
          answer_panel_link, Status.Model.apply]
        exact link
      · have before : this.client.link = .up transport := (answer_link _ _ _).symm.trans up
        exact answer_answers (answers transport before) name (.refused reason) service
  | denied key => exact ⟨link, answers⟩
  | roundTrip latest =>
      refine ⟨?_, answers⟩
      simp only [SameLink, Log.step, Log.heard, Notify.Client.apply, Status.Shown.step, Panel.State.apply, Status.Model.apply] at link ⊢
      cases client : this.client.link with
      | connecting =>
          rw [client] at link
          exact congrArg (Link.measured · latest) link
      | up transport =>
          rw [client] at link
          obtain ⟨roundTrip, since, up⟩ := link
          exact ⟨latest, since, congrArg (Link.measured · latest) up⟩
      | down why =>
          rw [client] at link
          obtain ⟨⟨since, retryAt, down⟩, cause⟩ := link
          exact ⟨⟨since, retryAt, congrArg (Link.measured · latest) down⟩, cause⟩
      | stopped why =>
          rw [client] at link
          exact ⟨congrArg (Link.measured · latest) link.1, link.2⟩
  | disconnected cause retryIn =>
      have lost : ((this.step line (.event (.disconnected cause retryIn) now)).shown.panel.link) =
          this.shown.panel.link.lost retryIn now := by
        simp only [Log.step, Status.Shown.step, Panel.State.apply]
        split_ifs <;> rfl
      cases retryIn with
      | none => exact ⟨⟨lost, rfl⟩, fun _ up => by cases up⟩
      | some wait =>
          refine ⟨⟨?_, rfl⟩, fun _ up => by cases up⟩
          rw [lost]
          cases this.shown.panel.link with
          | connecting | up | stopped => exact ⟨_, _, rfl⟩
          | down since retryAt => exact ⟨_, _, rfl⟩

theorem same_start (cfg : ClientConfig) : Same (.start cfg) where
  link := rfl
  answers transport up := by cases up

theorem same_step (same : Same this) (input : Status.Shown.Input) : Same (this.step line input) := by
  cases input with
  | event event now => exact same_event same event now
  | reload new =>
      have unchanged : (this.shown.step line (.reload new)).panel = this.shown.panel ∧
          (this.shown.step line (.reload new)).model = this.shown.model := by
        rw [Status.Shown.step]
        split_ifs
        · exact ⟨rfl, rfl⟩
        · exact ⟨rfl, rfl⟩
      refine ⟨?_, ?_⟩
      · simp only [SameLink, Log.step, Log.heard, unchanged]
        exact same.link
      · simp only [Log.step, Log.heard, unchanged]
        exact same.answers
  | restart =>
      simp only [Log.step, Log.heard, Status.Shown.step]
      split_ifs with reconnecting
      · exact ⟨rfl, fun _ up => by cases up⟩
      · exact ⟨same.link, same.answers⟩
  | sample totals elapsed => exact ⟨same.link, same.answers⟩
  | recount totals => exact ⟨same.link, same.answers⟩

/-- The answers counted are the rows shown. -/
theorem answered_rows {client : Notify.Client} {panel : Panel.State}
    (same : ∀ service : String, client.answers[service]? = panel.answers[service]?.map kept) (cfg : ClientConfig) :
    client.answered cfg = (panel.rows cfg).toList.map (isBound ·.2) := by
  have mapped : client.answers = panel.answers.map fun _ => kept := by
    ext service
    rw [same, ExtTreeMap.getElem?_map]
  rw [Notify.Client.answered, mapped, ExtTreeMap.toList_map, Panel.State.rows, ExtTreeMap.toList_filterMap]
  induction panel.answers.toList with
  | nil => rfl
  | cons given rest ih =>
      obtain ⟨service, expose, answer⟩ := given
      by_cases inForce : cfg.expose[service]? = some expose
      · have shown : agreed answer = isBound (panel.row service answer) := by cases answer <;> rfl
        simp only [List.map_cons, List.filter_cons, List.filterMap_cons, kept, inForce, decide_true, if_true, Option.map_some,
          shown]
        exact congrArg _ ih
      · simp only [List.map_cons, List.filter_cons, List.filterMap_cons, kept, inForce, decide_false, Bool.false_eq_true,
          if_false, Option.map_none]
        exact ih

theorem line_sentence (same : Same this) : this.client.line this.shown.cfg = sentence this.shown := by
  obtain ⟨link, answers⟩ := same
  rw [SameLink] at link
  rw [Notify.Client.line, sentence]
  cases client : this.client.link with
  | connecting =>
      rw [client] at link
      simp [link]
  | up transport =>
      rw [client] at link
      obtain ⟨roundTrip, since, link⟩ := link
      simp [link, answered_rows (answers transport client), List.countP_map]
  | down why =>
      rw [client] at link
      obtain ⟨⟨since, retryAt, link⟩, rfl⟩ := link
      simp [link]
  | stopped why =>
      rw [client] at link
      obtain ⟨link, rfl⟩ := link
      simp [link]

theorem shows_sent (status : Notify.Status) (text : String) : (status.shows text).sent = text := by
  rw [Notify.Status.shows]
  split_ifs with new
  · rfl
  · exact (not_ne_iff.mp new).symm

/-- A status that shows these lines in turn sends those that change it. -/
theorem shows_datagrams (texts : List String) (status : Notify.Status) : ∃ changes,
    texts.destutter' (· ≠ ·) status.sent = status.sent :: changes ∧
      (texts.foldl Notify.Status.shows status).datagrams = status.datagrams ++ changes.map ("STATUS=" ++ ·) := by
  induction texts generalizing status with
  | nil => exact ⟨[], rfl, by simp⟩
  | cons text texts ih =>
      obtain ⟨changes, destuttered, datagrams⟩ := ih (status.shows text)
      rw [shows_sent] at destuttered
      by_cases new : text = status.sent
      · have unchanged : status.shows text = status := if_neg (not_not_intro new)
        rw [unchanged] at datagrams
        refine ⟨changes, ?_, ?_⟩
        · rw [List.destutter'_cons_neg _ (not_not_intro new.symm), ← new, destuttered]
        · rw [List.foldl_cons, unchanged, datagrams]
      · have told : (status.shows text).datagrams = status.datagrams ++ ["STATUS=" ++ text] := by
          rw [Notify.Status.shows, if_pos new]
        refine ⟨text :: changes, ?_, ?_⟩
        · rw [List.destutter'_cons_pos _ (Ne.symm new), destuttered]
        · rw [List.foldl_cons, datagrams, told, List.map_cons, List.append_assoc, List.singleton_append]

theorem run_status (inputs : List Status.Shown.Input) (same : Same this) :
    (inputs.foldl (Log.step line) this).status =
      (sentences line this.shown inputs).foldl Notify.Status.shows this.status := by
  induction inputs generalizing this with
  | nil => rfl
  | cons input inputs ih =>
      have next : Same (this.step line input) := same_step same input
      have told : (this.step line input).status = this.status.shows (sentence (this.shown.step line input)) :=
        congrArg this.status.shows (line_sentence next)
      rw [List.foldl_cons, ih next, told]
      rfl

/-- Whatever a client does, and however it is reloaded, systemd is told one line after another that
says what the panel and the status show, each when it changes. -/
theorem client_status_announced (line : Hawse.Client.Event → Option String) (cfg : ClientConfig)
    (inputs : List Status.Shown.Input) : (Log.run line cfg inputs).status.datagrams =
      announced ((sentence (.start cfg) :: sentences line (.start cfg) inputs).destutter (· ≠ ·)) := by
  have ran : (inputs.foldl (Log.step line) (Log.start cfg)).status =
      (sentences line (.start cfg) inputs).foldl Notify.Status.shows (Log.start cfg).status :=
    run_status inputs (same_start cfg)
  obtain ⟨changes, destuttered, datagrams⟩ := shows_datagrams (sentences line (.start cfg) inputs) (Log.start cfg).status
  have lines : (sentence (.start cfg) :: sentences line (.start cfg) inputs).destutter (· ≠ ·) =
      sentence (.start cfg) :: changes := destuttered
  rw [Log.run, ran, lines]
  exact datagrams

end Client

/-! ## A server's line -/

section Tally
open Hawse.Server
variable {server : Notify.Server} {counts : String → Nat} {client : String}

def Tallies (server : Notify.Server) (counts : String → Nat) : Prop :=
  ∀ name : String, server.sessions[name]? = if counts name = 0 then none else some (counts name)

theorem tallies_insert (tallies : Tallies server counts) (n : Nat) :
    Tallies { server with sessions := server.sessions.insert client (n + 1) } (Function.update counts client (n + 1)) := by
  intro name
  rw [ExtTreeMap.getElem?_insert, Function.update_apply]
  by_cases same : name = client
  · simp [same]
  · simp [same, Ne.symm same, tallies name]

theorem tallies_erase (tallies : Tallies server counts) :
    Tallies { server with sessions := server.sessions.erase client } (Function.update counts client 0) := by
  intro name
  rw [ExtTreeMap.getElem?_erase, Function.update_apply]
  by_cases same : name = client
  · simp [same]
  · simp [same, Ne.symm same, tallies name]

theorem tallies_connected (tallies : Tallies server counts) (remote : SocketAddr) (transport : TransportKind)
    (agent : String) : ∃ next, server.apply (.connected client remote transport agent) = some next ∧
      next.listen = server.listen ∧ Tallies next (Function.update counts client (counts client + 1)) := by
  refine ⟨_, rfl, rfl, ?_⟩
  have before : server.sessions[client]?.getD 0 = counts client := by
    rw [tallies client]
    split_ifs with absent
    · exact absent.symm
    · rfl
  rw [before]
  exact tallies_insert tallies _

theorem tallies_ended (tallies : Tallies server counts) (held : 0 < counts client) :
    ∃ next, server.apply (.ended client) = some next ∧ next.listen = server.listen ∧
      Tallies next (Function.update counts client (counts client - 1)) := by
  have before := tallies client
  rw [if_neg held.ne'] at before
  rw [Notify.Server.apply, before]
  obtain ⟨left, last⟩ := Nat.exists_eq_add_one.mpr held
  rw [last]
  cases left with
  | zero => exact ⟨_, rfl, rfl, tallies_erase tallies⟩
  | succ left => exact ⟨_, rfl, rfl, tallies_insert tallies left⟩

theorem read_append (server : Notify.Server) (told more : List Watched.Told) :
    server.read (told ++ more) = (server.read told).bind (·.read more) := by
  induction told generalizing server with
  | nil => rfl
  | cons entry told ih =>
      rw [List.cons_append, Notify.Server.read, Notify.Server.read]
      cases server.apply entry.event with
      | none => rfl
      | some next => exact ih next

end Tally

section Standing
open Hawse.Server Hawse.Server.Claims Hawse.Proof.Claims Hawse.Proof.Status
open Notify.Server (serves standing)
variable {this next : Watched} {name : String} {i : Nat}

theorem serves_iff : serves this name i = true ↔
    ∃ greeted key, this.greeted[i]? = some greeted ∧ stageOf this.claims i = some (key, .serving) ∧ greeted.name = name := by
  rw [serves, Option.any_eq_true]
  constructor
  · rintro ⟨greeted, serving, named⟩
    obtain ⟨stored, key, moved⟩ := serving_some serving
    exact ⟨greeted, key, stored, moved.before, beq_iff_eq.mp named⟩
  · rintro ⟨greeted, key, stored, staged, named⟩
    obtain ⟨run, held, -, stage⟩ := stageOf_eq_some.mp staged
    exact ⟨greeted, by simp [Watched.serving, held, stage, stored], beq_iff_eq.mpr named⟩

/-- One session that changes how it stands changes the count by itself alone. -/
theorem standing_turned (bound : i < this.greeted.length) (length : next.greeted.length = this.greeted.length)
    (others : ∀ j, i ≠ j → serves next name j = serves this name j) :
    standing next name + (serves this name i).toNat = standing this name + (serves next name i).toNat := by
  have apart (server : Watched) (same : server.greeted.length = this.greeted.length) : standing server name =
      (((Finset.range this.greeted.length).erase i).filter fun j => serves server name j).card + (serves server name i).toNat := by
    rw [standing, same, ← Finset.insert_erase (Finset.mem_range.mpr bound), Finset.filter_insert]
    split_ifs with serving
    · rw [Finset.card_insert_of_notMem (by simp), Finset.erase_insert (by simp), serving]
      rfl
    · rw [Bool.not_eq_true] at serving
      rw [Finset.erase_insert (by simp), serving]
      rfl
  have alike : ((Finset.range this.greeted.length).erase i).filter (fun j => serves next name j) =
      ((Finset.range this.greeted.length).erase i).filter fun j => serves this name j := by
    refine Finset.filter_congr fun j member => ?_
    rw [others j (Finset.ne_of_mem_erase member).symm]
  rw [apart this rfl, apart next length, alike]
  exact Nat.add_right_comm _ _ _

theorem standing_staked (aligned : this.greeted.length = this.claims.runs.length) (key : PublicKey) (greeted : Greeted) :
    standing ⟨this.claims.stake key, this.greeted ++ [greeted]⟩ name = standing this name := by
  have unwelcome : serves ⟨this.claims.stake key, this.greeted ++ [greeted]⟩ name this.greeted.length = false := by
    rw [Bool.eq_false_iff]
    intro serving
    obtain ⟨_, _, -, staged, -⟩ := serves_iff.mp serving
    rw [stageOf_stake, if_pos aligned] at staged
    cases staged
  have length : (this.greeted ++ [greeted]).length = this.greeted.length + 1 := List.length_append
  rw [standing, standing, length, Finset.range_add_one, Finset.filter_insert, if_neg (by simp [unwelcome])]
  congr 1
  refine Finset.filter_congr fun i member => ?_
  have bound := Finset.mem_range.mp member
  rw [serves_iff, serves_iff, stageOf_stake_of_lt key (aligned ▸ bound), List.getElem?_append_left bound]

section Turned
variable {key : PublicKey} {old new : Stage} {claims : Claims} {before after : Greeted} {event : Option Watched.Event}

theorem serves_before (moved : Moved this.claims claims i key old new) (stored : this.greeted[i]? = some before) :
    serves this name i = true ↔ old = .serving ∧ before.name = name := by
  rw [serves_iff, moved.before, stored]
  simp [eq_comm, and_assoc]

theorem serves_after (moved : Moved this.claims claims i key old new) (stored : this.greeted[i]? = some before)
    (same : after.name = before.name) :
    serves ⟨claims, this.greeted.set i after⟩ name i = true ↔ new = .serving ∧ before.name = name := by
  have bound := (List.getElem?_eq_some_iff.mp stored).1
  rw [serves_iff, moved.after, if_pos rfl, List.getElem?_set_self bound]
  simp [eq_comm, ← same]

theorem serves_others (moved : Moved this.claims claims i key old new) (j : Nat) (other : i ≠ j) :
    serves ⟨claims, this.greeted.set i after⟩ name j = serves this name j := by
  rw [Bool.eq_iff_iff, serves_iff, serves_iff, moved.after, if_neg other, List.getElem?_set_ne other]

theorem serving_elsewhere (elsewhere : (Early old ∨ Late old) ∧ (Early new ∨ Late new)) : old ≠ .serving ∧ new ≠ .serving := by
  refine ⟨?_, ?_⟩
  · rintro rfl
    exact elsewhere.1.elim id id
  · rintro rfl
    exact elsewhere.2.elim id id

/-- The count of a client whose session turns. -/
theorem standing_own (moved : Moved this.claims claims i key old new) (stored : this.greeted[i]? = some before)
    (same : after.name = before.name) (name : String) :
    standing ⟨claims, this.greeted.set i after⟩ name + (if old = .serving ∧ before.name = name then 1 else 0) =
      standing this name + if new = .serving ∧ before.name = name then 1 else 0 := by
  have turned : standing ⟨claims, this.greeted.set i after⟩ name + (serves this name i).toNat =
      standing this name + (serves ⟨claims, this.greeted.set i after⟩ name i).toNat :=
    standing_turned (List.getElem?_eq_some_iff.mp stored).1 List.length_set (serves_others moved)
  have was : (serves this name i).toNat = if old = .serving ∧ before.name = name then 1 else 0 := by
    split_ifs with serving
    · rw [(serves_before moved stored).mpr serving]
      rfl
    · rw [Bool.eq_false_iff.mpr (mt (serves_before moved stored).mp serving)]
      rfl
  have now : (serves ⟨claims, this.greeted.set i after⟩ name i).toNat = if new = .serving ∧ before.name = name then 1 else 0 := by
    split_ifs with serving
    · rw [(serves_after moved stored same).mpr serving]
      rfl
    · rw [Bool.eq_false_iff.mpr (mt (serves_after moved stored same).mp serving)]
      rfl
  rw [← was, ← now]
  exact turned

/-- What a session tells is what it changes of the count. -/
theorem tallies_turned {server : Notify.Server} (tallies : Tallies server (standing this ·))
    (moved : Moved this.claims claims i key old new) (stored : this.greeted[i]? = some before)
    (turn : Turn before old new after event) : ∃ next, server.read (event.map (⟨some i, ·⟩)).toList = some next ∧
      next.listen = server.listen ∧ Tallies next (standing ⟨claims, this.greeted.set i after⟩ ·) := by
  have counted := standing_own moved stored turn.same.name
  have unchanged (still : old = .serving ↔ new = .serving) :
      Tallies server (standing ⟨claims, this.greeted.set i after⟩ ·) := by
    have standings : (standing ⟨claims, this.greeted.set i after⟩ ·) = (standing this ·) := by
      funext name
      have level := counted name
      simp only [still] at level
      exact Nat.add_right_cancel level
    rwa [standings]
  cases turn with
  | early was now =>
      obtain ⟨absent, still⟩ := serving_elsewhere ⟨.inl was, now⟩
      exact ⟨server, rfl, rfl, unchanged (iff_of_false absent still)⟩
  | late was now =>
      obtain ⟨absent, still⟩ := serving_elsewhere ⟨.inr was, .inr now⟩
      exact ⟨server, rfl, rfl, unchanged (iff_of_false absent still)⟩
  | idle | bound | unbound => exact ⟨server, rfl, rfl, unchanged Iff.rfl⟩
  | welcomed =>
      obtain ⟨next, applied, listen, tallied⟩ :
          ∃ next, server.apply (.connected before.name before.remote before.transport before.agent) = some next ∧
            next.listen = server.listen ∧
            Tallies next (Function.update (standing this ·) before.name (standing this before.name + 1)) :=
        tallies_connected tallies before.remote before.transport before.agent
      have standings : (standing ⟨claims, this.greeted.set i before⟩ ·) =
          Function.update (standing this ·) before.name (standing this before.name + 1) := by
        funext name
        have more := counted name
        rw [Function.update_apply]
        by_cases named : before.name = name
        · simpa [named] using more
        · simpa [named, Ne.symm named] using more
      refine ⟨next, ?_, listen, standings ▸ tallied⟩
      exact congrArg (Option.bind · fun next => next.read []) applied
  | ended next cleared =>
      have held : 0 < standing this before.name := by
        have fewer := counted before.name
        simp at fewer
        omega
      obtain ⟨next, applied, listen, tallied⟩ := tallies_ended tallies held
      have standings : (standing ⟨claims, this.greeted.set i after⟩ ·) =
          Function.update (standing this ·) before.name (standing this before.name - 1) := by
        funext name
        have fewer := counted name
        rw [Function.update_apply]
        by_cases named : before.name = name
        · simp [named] at fewer
          simp [named, ← fewer]
        · simpa [named, Ne.symm named] using fewer
      refine ⟨next, ?_, listen, standings ▸ tallied⟩
      exact congrArg (Option.bind · fun next => next.read []) applied

end Turned

theorem tallies_stepped {policy : Policy} {server : Notify.Server} {said : Option Watched.Told}
    (aligned : this.greeted.length = this.claims.runs.length) (tallies : Tallies server (standing this ·))
    (stepped : Stepped policy this next said) : ∃ heard, server.read said.toList = some heard ∧
      heard.listen = server.listen ∧ Tallies heard (standing next ·) := by
  cases stepped with
  | staked key remote transport agent grant granted =>
      refine ⟨server, rfl, rfl, ?_⟩
      simp only [standing_staked aligned]
      exact tallies
  | turned i key old new claims before after event moved stored turn => exact tallies_turned tallies moved stored turn
  | denied key remote => exact ⟨server, rfl, rfl, tallies⟩

/-- What is read of a server against its own count of its sessions. -/
theorem told_tallies [Ipnet] {policy : Policy} {this : Status.Monitor} (listen : String)
    (reachable : (Status.monitor policy).Reachable this) : ∃ server, (Notify.Server.new listen).read this.told = some server ∧
      server.listen = listen ∧ Tallies server (standing this.server ·) := by
  induction reachable with
  | initial start =>
      obtain ⟨now, rfl⟩ := start
      refine ⟨_, rfl, rfl, fun name => ?_⟩
      exact ExtTreeMap.getElem?_empty.trans (if_pos rfl).symm
  | next before action ih =>
      obtain ⟨server, read, named, tallies⟩ := ih
      have sound := (reachable_sound before).1
      rcases monitor_step action.2 with ⟨act, said, rfl, acted, told, -, -⟩ | ⟨_, -, -, -, -, same, told⟩ | ⟨same, told, -, -⟩
      · obtain ⟨heard, more, listen, tallied⟩ := tallies_stepped sound.aligned tallies (watched_step sound.aligned acted)
        rw [told, read_append, read]
        exact ⟨heard, more, listen.trans named, tallied⟩
      · rw [same, told]
        exact ⟨server, read, named, tallies⟩
      · rw [same, told]
        exact ⟨server, read, named, tallies⟩

theorem line_roll (server : Notify.Server) : server.line = Notify.Server.roll server.listen server.sessions.keys := by
  unfold Notify.Server.line Notify.Server.roll
  rw [← ExtTreeMap.length_keys]
  have one (rest : String) : Nat.repr 1 ++ (" client: " ++ rest) = "1 client: " ++ rest := by
    rw [← String.append_assoc]
    rfl
  have two (rest : String) : Nat.repr 2 ++ (" clients: " ++ rest) = "2 clients: " ++ rest := by
    rw [← String.append_assoc]
    rfl
  have three (rest : String) : Nat.repr 3 ++ (" clients: " ++ rest) = "3 clients: " ++ rest := by
    rw [← String.append_assoc]
    rfl
  rcases server.sessions.keys with _ | ⟨_, _ | ⟨_, _ | ⟨_, _ | _⟩⟩⟩
  · rfl
  · simp [Notify.Server.named, String.append_assoc, one]
  · simp [Notify.Server.named, String.append_assoc, two]
  · simp [Notify.Server.named, String.append_assoc, three]
  · simp [Notify.Server.named, String.append_assoc]

theorem standing_pos : standing this name ≠ 0 ↔ ∃ i greeted, this.serving i = some greeted ∧ greeted.name = name := by
  rw [← Nat.pos_iff_ne_zero, standing, Finset.card_pos]
  constructor
  · rintro ⟨i, serving⟩
    obtain ⟨greeted, found, named⟩ := Option.any_eq_true _ _ |>.mp (Finset.mem_filter.mp serving).2
    exact ⟨i, greeted, found, beq_iff_eq.mp named⟩
  · rintro ⟨i, greeted, found, named⟩
    have bound := (List.getElem?_eq_some_iff.mp (serving_some found).1).1
    have serving : serves this name i = true := by
      rw [serves, found]
      exact beq_iff_eq.mpr named
    exact ⟨i, Finset.mem_filter.mpr ⟨Finset.mem_range.mpr bound, serving⟩⟩

/-- However a server's sessions come, take over from one another and go, systemd hears of just the
clients that have one. -/
theorem server_status_line [Ipnet] {policy : Policy} {this : Status.Monitor} (listen : String)
    (reachable : (Status.monitor policy).Reachable this) : ∃ server, (Notify.Server.new listen).read this.told = some server ∧
      (∀ name, server.sessions[name]?.getD 0 = standing this.server name) ∧
      ∀ names : List String, names.Pairwise (· < ·) →
        (∀ name, name ∈ names ↔ ∃ i greeted, this.server.serving i = some greeted ∧ greeted.name = name) →
        server.line = Notify.Server.roll listen names := by
  obtain ⟨server, read, named, tallies⟩ := told_tallies listen reachable
  refine ⟨server, read, fun name => ?_, fun names sorted all => ?_⟩
  · rw [tallies name]
    split_ifs with absent
    · exact absent.symm
    · rfl
  · have ordered : server.sessions.keys.Pairwise (· < ·) := by
      refine server.sessions.ordered_keys.imp fun less => ?_
      exact compareOfLessAndEq_eq_lt.mp less
    have keys : server.sessions.keys = names := by
      refine ordered.eq_of_mem_iff sorted fun name => ?_
      rw [ExtTreeMap.mem_keys, all, ← standing_pos, ExtTreeMap.mem_iff_isSome_getElem?, tallies name]
      split_ifs with absent <;> simp [absent]
    rw [line_roll, named, keys]

attribute [local instance] ipnet

theorem server_status_line_home : ∃ this, (Status.monitor (.fromConfig homeConfig)).Reachable this ∧
    standing this.server "nas" = 1 ∧ ∃ server, (Notify.Server.new "0.0.0.0:4433").read this.told = some server ∧
      server.sessions["nas"]?.getD 0 = 1 ∧ server.line = "listening on 0.0.0.0:4433, 1 client: nas" := by
  have ran : (Lib.System.run homeStep (.start 0) homeEvents).map (fun this =>
      (standing this.server "nas", this.server.greeted.length, (this.server.serving 0).map (·.name))) =
      some (1, 1, some "nas") := by
    decide +kernel
  obtain ⟨this, reached, found⟩ := Option.map_eq_some_iff.mp ran
  simp only [Prod.mk.injEq] at found
  obtain ⟨once, one, named⟩ := found
  have reachable : home.Reachable this := Lib.System.Reachable.run_from home_follows (.initial ⟨0, rfl⟩) homeEvents reached
  obtain ⟨server, read, counts, line⟩ := server_status_line "0.0.0.0:4433" reachable.of_restrict
  refine ⟨this, reachable.of_restrict, once, server, read, (counts "nas").trans once, line ["nas"] (by simp) fun name => ?_⟩
  obtain ⟨greeted, serving, nas⟩ := Option.map_eq_some_iff.mp named
  rw [List.mem_singleton]
  constructor
  · rintro rfl
    exact ⟨0, greeted, serving, nas⟩
  · rintro ⟨i, other, found, rfl⟩
    have bound := (List.getElem?_eq_some_iff.mp (serving_some found).1).1
    obtain rfl : i = 0 := Nat.lt_one_iff.mp (one ▸ bound)
    rw [← Option.some.inj (serving.symm.trans found), nas]

end Standing
end Hawse.Proof.Notify
