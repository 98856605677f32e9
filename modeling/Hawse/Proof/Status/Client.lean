import Hawse.Lib.Journal
import Hawse.Status.Client

namespace Hawse.Proof.Status.Client
open Std (ExtTreeMap)
open Hawse.Status Hawse.Status.Shown Hawse.Lib Terminal

section Log

def isConnected : Client.Event → Bool
  | .connected _ _ _ _ _ => true
  | _ => false

def answerOf (service : String) : Client.Event → Option Panel.Answer
  | .bound name port => if name = service then some (.bound port) else none
  | .bindFailed name reason => if name = service then some (.refused reason) else none
  | _ => none

/-- The config in force after a run of inputs, and the events of the run, each with the config in
force when it came. -/
def note (past : ClientConfig × List (ClientConfig × Client.Event)) :
    Input → ClientConfig × List (ClientConfig × Client.Event)
  | .event event _ => (past.1, past.2 ++ [(past.1, event)])
  | .reload new => (new, past.2)
  | .restart => past
  | .sample _ _ => past
  | .recount _ => past

def log (cfg : ClientConfig) (inputs : List Input) : List (ClientConfig × Client.Event) :=
  (inputs.foldl note (cfg, [])).2

/-- The last answer for a service since the session began. -/
def lastAnswer (service : String) (log : List (ClientConfig × Client.Event)) : Option Panel.Answer :=
  (Journal.last (fun entry => isConnected entry.2 || (answerOf service entry.2).isSome) log).bind fun entry =>
    answerOf service entry.2

def settled (service : String) (entry : ClientConfig × Client.Event) : Option (Client.Expose × Panel.Answer) :=
  entry.1.expose[service]?.bind fun expose => (answerOf service entry.2).map (expose, ·)

/-- The last that came while the config named the service, with its settings at the time. -/
def lastSettled (service : String) (log : List (ClientConfig × Client.Event)) :
    Option (Client.Expose × Panel.Answer) :=
  (Journal.last (fun entry => isConnected entry.2 || (settled service entry).isSome) log).bind (settled service)

variable {service : String} {log : List (ClientConfig × Client.Event)} {cfg : ClientConfig}
  {event : Client.Event}

theorem answerOf_connected (connected : isConnected event = true) : answerOf service event = none := by
  cases event with
  | connected => rfl
  | bound | bindFailed | denied | disconnected | roundTrip => cases connected

theorem lastAnswer_concat : lastAnswer service (log ++ [(cfg, event)]) =
    if isConnected event then none else (answerOf service event).or (lastAnswer service log) := by
  rw [lastAnswer, Journal.last_concat]
  cases connected : isConnected event with
  | true => simp [answerOf_connected connected]
  | false =>
      cases answer : answerOf service event with
      | none => rfl
      | some answer => simp [answer]

theorem lastSettled_concat : lastSettled service (log ++ [(cfg, event)]) =
    if isConnected event then none else (settled service (cfg, event)).or (lastSettled service log) := by
  rw [lastSettled, Journal.last_concat]
  cases connected : isConnected event with
  | true => simp [settled, answerOf_connected connected]
  | false =>
      cases found : settled service (cfg, event) with
      | none => rfl
      | some answer => simp [found]

theorem lastSettled_of_lastAnswer (nothing : lastAnswer service log = none) : lastSettled service log = none := by
  induction log using List.reverseRecOn with
  | nil => rfl
  | append_singleton log entry ih =>
      obtain ⟨cfg, event⟩ := entry
      rw [lastAnswer_concat] at nothing
      rw [lastSettled_concat]
      split_ifs at nothing ⊢
      · rfl
      · rw [Option.or_eq_none_iff] at nothing ⊢
        refine ⟨?_, ih nothing.2⟩
        simp [settled, nothing.1]

end Log

section Run
variable {line : Client.Event → Option String} {cfg : ClientConfig} {this : Shown}
  {past : ClientConfig × List (ClientConfig × Client.Event)}

def toStatus : Panel.Answer → Answer
  | .bound port => .bound port
  | .refused reason => .refused reason

theorem panel_answer (panel : Panel.State) (service other : String) (answer : Panel.Answer) :
    (panel.answer cfg other answer).answers[service]? =
      if other = service then (cfg.expose[service]?.map (·, answer)).or panel.answers[service]?
      else panel.answers[service]? := by
  unfold Panel.State.answer
  by_cases same : other = service
  · subst same
    cases cfg.expose[other]? with
    | none => simp
    | some expose => simp
  · cases cfg.expose[other]? with
    | none => simp [same]
    | some expose => simp [same, ExtTreeMap.getElem?_insert]

theorem panel_apply (panel : Panel.State) (event : Client.Event) (now : Nat) (service : String) :
    (panel.apply line event now cfg).2.answers[service]? =
      if isConnected event then none else (settled service (cfg, event)).or panel.answers[service]? := by
  cases event with
  | connected => simp [Panel.State.apply, isConnected]
  | bound other port | bindFailed other reason =>
      simp only [Panel.State.apply, panel_answer, settled, answerOf, isConnected, Bool.false_eq_true, if_false]
      split_ifs with same
      · cases cfg.expose[service]? <;> rfl
      · cases cfg.expose[service]? <;> rfl
  | roundTrip | denied =>
      simp only [Panel.State.apply, settled, answerOf, isConnected, Bool.false_eq_true, if_false]
      cases cfg.expose[service]? <;> rfl
  | disconnected cause retryIn =>
      simp only [Panel.State.apply, settled, answerOf, isConnected, Bool.false_eq_true, if_false]
      split_ifs <;> cases cfg.expose[service]? <;> rfl

theorem model_apply (model : Model) (event : Client.Event) (now : Nat) (service : String) :
    (model.apply event now).answers[service]? =
      if isConnected event then none
      else ((answerOf service event).map toStatus).or model.answers[service]? := by
  cases event with
  | connected => simp [Model.apply, isConnected]
  | bound other port | bindFailed other reason =>
      simp only [Model.apply, answerOf, isConnected, Bool.false_eq_true, if_false, ExtTreeMap.getElem?_insert,
        Std.compare_eq_iff_eq]
      split_ifs <;> rfl
  | roundTrip | denied | disconnected => rfl

structure Kept (cfg : ClientConfig) (this : Shown)
    (past : ClientConfig × List (ClientConfig × Client.Event)) : Prop where
  inForce : this.cfg = past.1
  running : this.reconnecting = false
  unchanged : cfg.needsReconnect this.cfg = false
  panel : ∀ service : String, this.panel.answers[service]? = lastSettled service past.2
  model : ∀ service : String, this.model.answers[service]? = (lastAnswer service past.2).map toStatus

theorem needsReconnect_self (cfg : ClientConfig) : cfg.needsReconnect cfg = false := by
  simp [ClientConfig.needsReconnect]

theorem needsReconnect_trans {old new : ClientConfig} (first : cfg.needsReconnect old = false)
    (second : cfg.needsReconnect new = false) : old.needsReconnect new = false := by
  simp only [ClientConfig.needsReconnect, ne_eq, decide_eq_false_iff_not, not_not] at first second ⊢
  exact first.symm.trans second

theorem kept_start (cfg : ClientConfig) : Kept cfg (.start cfg) (cfg, []) where
  inForce := rfl
  running := rfl
  unchanged := needsReconnect_self cfg
  panel service := by simp [Shown.start, Panel.State.default, lastSettled]
  model service := by simp [Shown.start, Model.default, lastAnswer]

theorem Kept.step (kept : Kept cfg this past) (input : Input)
    (only : ∀ new, input = .reload new → cfg.needsReconnect new = false) :
    Kept cfg (this.step line input) (note past input) := by
  obtain ⟨inForce, running, unchanged, panel, model⟩ := kept
  cases input with
  | event event now =>
      refine ⟨inForce, running, unchanged, ?_, ?_⟩
      · intro service
        rw [note, lastSettled_concat, Shown.step, panel_apply, panel, inForce]
      · intro service
        rw [note, lastAnswer_concat, Shown.step, model_apply, model]
        split_ifs
        · rfl
        · cases answerOf service event <;> rfl
  | reload new =>
      have changes := only new rfl
      have stays := needsReconnect_trans unchanged changes
      simp only [Shown.step, running, stays]
      exact ⟨rfl, rfl, changes, panel, model⟩
  | restart =>
      simp only [Shown.step, running]
      exact ⟨inForce, running, unchanged, panel, model⟩
  | sample totals elapsed | recount totals => exact ⟨inForce, running, unchanged, panel, model⟩

theorem run_kept (line : Client.Event → Option String) (cfg : ClientConfig) (inputs : List Input)
    (only : ∀ new, .reload new ∈ inputs → cfg.needsReconnect new = false) :
    Kept cfg (Shown.run line cfg inputs) (inputs.foldl note (cfg, [])) := by
  induction inputs using List.reverseRecOn with
  | nil => exact kept_start cfg
  | append_singleton inputs input ih =>
      rw [Shown.run, List.foldl_append, List.foldl_append]
      have before := ih fun new member => only new (List.mem_append_left _ member)
      refine before.step input ?_
      rintro new rfl
      exact only new (by simp)

end Run

section Agreement
variable {cfg : ClientConfig} {log : List (ClientConfig × Client.Event)} {panel : Panel.State}
  {model : Model} {service : String}

structure Agrees (rows : ExtTreeMap String Row) (service : String) (answer : Answer) : Prop where
  bound : ∀ port, answer = .bound port ↔ ∃ opened down up, rows[service]? = some (.bound port opened down up)
  refused : ∀ reason, answer = .refused reason ↔ rows[service]? = some (.refused reason)
  pending : answer = .pending ↔ rows[service]? = none

/-- The last answer for a service since the session began, if there is one, is also the last that came
while the config named it, and came under the settings in force. -/
def Current (cfg : ClientConfig) (log : List (ClientConfig × Client.Event)) (service : String) : Prop :=
  ∀ answer, lastAnswer service log = some answer →
    ∃ expose, cfg.expose[service]? = some expose ∧ lastSettled service log = some (expose, answer)

theorem rows_getElem? (panel : Panel.State) (cfg : ClientConfig) (service : String) :
    (panel.rows cfg)[service]? = panel.answers[service]?.bind fun given =>
      if cfg.expose[service]? = some given.1 then some (panel.row service given.2) else none := by
  rw [Panel.State.rows, ExtTreeMap.getElem?_filterMap']

theorem agrees_row {rows : ExtTreeMap String Row} (answer given : Panel.Answer)
    (row : rows[service]? = some (panel.row service given)) :
    Agrees rows service (toStatus answer) ↔ answer = given := by
  constructor
  · rintro ⟨bound, refused, -⟩
    cases answer with
    | bound port =>
        obtain ⟨opened, down, up, same⟩ := (bound port).mp rfl
        rw [row] at same
        cases given with
        | bound port' =>
            obtain ⟨rfl, -⟩ := Row.bound.inj (Option.some.inj same)
            rfl
        | refused reason => cases same
    | refused reason =>
        have same := (refused reason).mp rfl
        rw [row] at same
        cases given with
        | bound port => cases same
        | refused reason' =>
            obtain rfl := Row.refused.inj (Option.some.inj same)
            rfl
  · rintro rfl
    cases answer with
    | bound port =>
        refine ⟨?_, ?_, ?_⟩ <;> simp [row, toStatus, Panel.State.row]
    | refused reason =>
        refine ⟨?_, ?_, ?_⟩ <;> simp [row, toStatus, Panel.State.row]

theorem not_agrees_absent {rows : ExtTreeMap String Row} (answer : Panel.Answer) (absent : rows[service]? = none) :
    ¬ Agrees rows service (toStatus answer) := by
  intro agrees
  have pending := agrees.pending.mpr absent
  cases answer <;> cases pending

theorem agrees_absent {rows : ExtTreeMap String Row} (absent : rows[service]? = none) :
    Agrees rows service .pending := by
  refine ⟨?_, ?_, ?_⟩ <;> simp [absent]

theorem agrees_iff (answers : panel.answers[service]? = lastSettled service log)
    (modelled : model.answers[service]? = (lastAnswer service log).map toStatus) :
    Agrees (panel.rows cfg) service (model.answers[service]?.getD .pending) ↔ Current cfg log service := by
  have row := rows_getElem? panel cfg service
  rw [answers] at row
  rw [modelled]
  cases said : lastAnswer service log with
  | none =>
      rw [lastSettled_of_lastAnswer said] at row
      refine iff_of_true (agrees_absent row) ?_
      intro answer found
      cases said.symm.trans found
  | some answer =>
      have current : Current cfg log service ↔
          ∃ expose, cfg.expose[service]? = some expose ∧ lastSettled service log = some (expose, answer) := by
        simp [Current, said]
      rw [current, Option.map_some, Option.getD_some]
      cases given : lastSettled service log with
      | none =>
          rw [given] at row
          exact iff_of_false (not_agrees_absent answer row) (by simp)
      | some given' =>
          obtain ⟨expose, given'⟩ := given'
          rw [given, Option.bind_some] at row
          split_ifs at row with inForce
          · rw [agrees_row answer given' row]
            simp [inForce, eq_comm]
          · refine iff_of_false (not_agrees_absent answer row) ?_
            rintro ⟨other, now, same⟩
            obtain ⟨rfl, -⟩ := Prod.mk.inj (Option.some.inj same)
            exact inForce now

theorem rows_current (answers : panel.answers[service]? = lastSettled service log) {row : Row}
    (shown : (panel.rows cfg)[service]? = some row) :
    ∃ expose answer, cfg.expose[service]? = some expose ∧ lastSettled service log = some (expose, answer) ∧
      row = panel.row service answer := by
  rw [rows_getElem?, answers] at shown
  obtain ⟨given, settled, shown⟩ := Option.bind_eq_some_iff.mp shown
  split_ifs at shown with inForce
  exact ⟨given.1, given.2, inForce, settled, (Option.some.inj shown).symm⟩

/-- Every service of the config has one status, and the panel says the same of it exactly when its
last answer is for the settings in force. -/
theorem panel_agrees_iff (line : Client.Event → Option String) (cfg : ClientConfig) (inputs : List Input)
    (only : ∀ new, .reload new ∈ inputs → cfg.needsReconnect new = false) (this : Shown)
    (ran : Shown.run line cfg inputs = this) (totals : ExtTreeMap String Counts) (up now : Nat) :
    (this.model.snapshot this.cfg totals up now).services.map (·.name) = this.cfg.expose.keys ∧
    (∀ status ∈ (this.model.snapshot this.cfg totals up now).services,
      (Agrees (this.panel.rows this.cfg) status.name status.answer ↔
        Current this.cfg (Client.log cfg inputs) status.name)) ∧
    ∀ (service : String) (row : Row), (this.panel.rows this.cfg)[service]? = some row →
      ∃ expose answer, this.cfg.expose[service]? = some expose ∧
        lastSettled service (Client.log cfg inputs) = some (expose, answer) ∧
        row = this.panel.row service answer := by
  have kept := run_kept line cfg inputs only
  rw [ran] at kept
  refine ⟨?_, ?_, ?_⟩
  · rw [← ExtTreeMap.map_fst_toList_eq_keys, Model.snapshot, List.map_map]
    rfl
  · intro status member
    obtain ⟨⟨service, expose⟩, -, rfl⟩ := List.mem_map.mp member
    exact agrees_iff (kept.panel service) (kept.model service)
  · intro service row shown
    exact rows_current (kept.panel service) shown

end Agreement

section Example

def webConfig (localAddr : String) : ClientConfig where
  server := "tunnel.example.com:4433"
  serverKey := Vector.replicate 32 0
  key := none
  name := none
  expose := (∅ : ExtTreeMap String Client.Expose).insert "web" ⟨localAddr, .fixed ⟨8080, .tcp⟩, [], false⟩
  transport := ⟨.auto, .bbr, 0, 0, 0, 0⟩

def web (inputs : List Input) : Shown := Shown.run (fun _ => none) (webConfig "127.0.0.1:3000") inputs

def webReloaded : List Input := [.event (.bound "web" ⟨8080, .tcp⟩) 0, .reload (webConfig "127.0.0.1:4000")]

def webAnswered : List Input := webReloaded ++ [.event (.bound "web" ⟨8080, .tcp⟩) 1]

theorem web_only (new : ClientConfig) (member : .reload new ∈ webAnswered) :
    (webConfig "127.0.0.1:3000").needsReconnect new = false := by
  simp only [webAnswered, webReloaded, List.cons_append, List.nil_append, List.mem_cons, List.not_mem_nil,
    reduceCtorEq, Input.reload.injEq, false_or, or_false] at member
  subst member
  simp [ClientConfig.needsReconnect, webConfig]

/-- A reload changes where a service is, and the server answers the bind it makes the client ask for. -/
theorem panel_agrees_iff_web :
    ((web webAnswered).model.snapshot (web webAnswered).cfg ∅ 0 0).services.map
      (fun status => (status.name, status.answer)) = [("web", .bound ⟨8080, .tcp⟩)] ∧
    Agrees ((web webAnswered).panel.rows (web webAnswered).cfg) "web" (.bound ⟨8080, .tcp⟩) := by
  have listed : ((web webAnswered).model.snapshot (web webAnswered).cfg ∅ 0 0).services.map
      (fun status => (status.name, status.answer)) = [("web", .bound ⟨8080, .tcp⟩)] := by
    decide +kernel
  have bound : lastAnswer "web" (Client.log (webConfig "127.0.0.1:3000") webAnswered) =
      some (.bound ⟨8080, .tcp⟩) := by
    decide +kernel
  refine ⟨listed, ?_⟩
  obtain ⟨-, agrees, -⟩ := panel_agrees_iff (fun _ => none) _ _ web_only _ rfl ∅ 0 0
  obtain ⟨status, member, same⟩ := List.mem_map.mp (listed ▸ List.mem_singleton_self _)
  obtain ⟨name, answer⟩ := Prod.mk.inj same
  rw [← name, ← answer]
  apply (agrees status member).mpr
  rw [name]
  intro answer said
  obtain rfl := Option.some.inj (bound.symm.trans said)
  refine ⟨⟨"127.0.0.1:4000", .fixed ⟨8080, .tcp⟩, [], false⟩, ?_, ?_⟩ <;> decide +kernel

/-- A reload that changes what a service is bound for leaves its old answer in the status alone. -/
theorem reloaded_answer_shown :
    (∀ new, .reload new ∈ webReloaded → (webConfig "127.0.0.1:3000").needsReconnect new = false) ∧
    ((web webReloaded).model.snapshot (web webReloaded).cfg ∅ 0 0).services.map
      (fun status => (status.name, status.answer)) = [("web", .bound ⟨8080, .tcp⟩)] ∧
    ((web webReloaded).panel.rows (web webReloaded).cfg)["web"]? = none ∧
    ¬ Agrees ((web webReloaded).panel.rows (web webReloaded).cfg) "web" (.bound ⟨8080, .tcp⟩) := by
  have absent : ((web webReloaded).panel.rows (web webReloaded).cfg)["web"]? = none := by decide +kernel
  refine ⟨fun new member => web_only new (List.mem_append_left _ member), by decide +kernel, absent, ?_⟩
  intro agrees
  cases agrees.pending.mpr absent

end Example
end Hawse.Proof.Status.Client
