import Hawse.Heartbeat

namespace Hawse.Proof.Heartbeat
open Hawse.Heartbeat

/-! ## Sides -/

@[simp] theorem other_other (side : Side) : side.other.other = side := by cases side <;> rfl

@[simp] theorem other_ne (side : Side) : side.other ≠ side := by cases side <;> simp [Side.other]

@[simp] theorem ne_other (side : Side) : side ≠ side.other := Ne.symm (other_ne side)

theorem other_of_ne {side own : Side} (differs : own ≠ side) : own = side.other := by
  cases side <;> cases own <;> simp_all [Side.other]

section Fields
variable (s : State) (side : Side)

@[simp] theorem set_own (loop : Loop) : (s.set side loop).loop side = loop := Function.update_self ..

@[simp] theorem set_other (loop : Loop) : (s.set side loop).loop side.other = s.loop side.other :=
  Function.update_of_ne (other_ne side) ..

@[simp] theorem set_flight (loop : Loop) : (s.set side loop).flight = s.flight := rfl

@[simp] theorem set_now (loop : Loop) : (s.set side loop).now = s.now := rfl

@[simp] theorem send_loop (msg : Option Msg) : (s.send side msg).loop = s.loop := rfl

@[simp] theorem send_now (msg : Option Msg) : (s.send side msg).now = s.now := rfl

@[simp] theorem send_own (msg : Option Msg) : (s.send side msg).flight side = s.flight side :=
  Function.update_of_ne (ne_other side) ..

@[simp] theorem send_other (msg : Option Msg) :
    (s.send side msg).flight side.other = s.flight side.other ++ (msg.map fun msg => (s.now, msg)).toList :=
  Function.update_self ..

@[simp] theorem take_loop (rest : List (Nat × Msg)) : (s.take side rest).loop = s.loop := rfl

@[simp] theorem take_now (rest : List (Nat × Msg)) : (s.take side rest).now = s.now := rfl

@[simp] theorem take_own (rest : List (Nat × Msg)) : (s.take side rest).flight side = rest := Function.update_self ..

@[simp] theorem take_other (rest : List (Nat × Msg)) : (s.take side rest).flight side.other = s.flight side.other :=
  Function.update_of_ne (other_ne side) ..

end Fields

/-! ## Gaps -/

/-- No time is more than `gap` after the one before it, the first of them after `last`. -/
def Spaced (gap : Nat) : Nat → List Nat → Prop
  | _, [] => True
  | last, time :: times => time ≤ last + gap ∧ Spaced gap time times

variable {gap last later time : Nat} {times : List Nat}

theorem Spaced.append (spaced : Spaced gap last times) (close : time ≤ times.getLastD last + gap) :
    Spaced gap last (times ++ [time]) := by
  induction times generalizing last with
  | nil => exact ⟨close, trivial⟩
  | cons first times ih =>
      rw [List.getLastD_cons] at close
      exact ⟨spaced.1, ih spaced.2 close⟩

theorem Spaced.mono (spaced : Spaced gap last times) (after : last ≤ later) : Spaced gap later times := by
  cases times with
  | nil => trivial
  | cons first times => exact ⟨Nat.le_trans spaced.1 (Nat.add_le_add_right after gap), spaced.2⟩

theorem getLastD_mono (after : last ≤ later) (times : List Nat) : times.getLastD last ≤ times.getLastD later := by
  cases times with
  | nil => exact after
  | cons first times =>
      rw [List.getLastD_cons, List.getLastD_cons]

/-! ## What one side hears of the other -/

/-- From the welcome on, the client is in its loop this much later than the server. -/
def skew (quick : Quick) : Nat := quick.delay + quick.asks

/-- When the other side next sends something, from the time `latest` of the last it sent. -/
structure Due (quick : Quick) (latest : Nat) (peer : Loop) (back : List (Nat × Msg)) : Prop where
  greeting : peer.stage = .greeting → ∀ sentAt, (sentAt, Msg.welcome) ∈ back → sentAt ≤ latest
  asking : ∀ since binds, peer.stage = .asking since binds → since ≤ latest + quick.delay
  inLoop : peer.stage.InLoop → peer.tick ≤ latest + skew quick + pingEvery

theorem Due.mono {quick : Quick} {latest newer : Nat} {peer : Loop} {back : List (Nat × Msg)} (due : Due quick latest peer back)
    (after : latest ≤ newer) : Due quick newer peer back := by
  refine ⟨fun stage sentAt member => ?_, fun since binds stage => ?_, fun stage => ?_⟩
  · exact Nat.le_trans (due.greeting stage sentAt member) after
  · have bound := due.asking since binds stage
    omega
  · have bound := due.inLoop stage
    omega

def latest (own : Loop) (flight : List (Nat × Msg)) : Nat := (flight.map (·.1)).getLastD own.lastHeard

structure Hears (quick : Quick) (now : Nat) (own peer : Loop) (flight back : List (Nat × Msg)) : Prop where
  spaced : Spaced (skew quick + pingEvery + quick.late) own.lastHeard (flight.map (·.1))
  heard : own.lastHeard ≤ now
  sent : ∀ sent ∈ flight, sent.1 ≤ now
  due : Due quick (latest own flight) peer back

section Hears
variable {quick : Quick} {now : Nat} {own next peer : Loop} {flight back : List (Nat × Msg)}

theorem latest_le (heard : own.lastHeard ≤ now) (sent : ∀ sent ∈ flight, sent.1 ≤ now) : latest own flight ≤ now := by
  rw [latest]
  cases flight using List.reverseRecOn with
  | nil => exact heard
  | append_singleton flight last =>
      rw [List.map_append, List.map_singleton, List.getLastD_concat]
      exact sent last (List.mem_append_right _ List.mem_cons_self)

theorem Hears.pass (hears : Hears quick now own peer flight back) (time : Nat) : Hears quick (now + time) own peer flight back :=
  ⟨hears.spaced, Nat.le_trans hears.heard (Nat.le_add_right _ _),
    fun sent member => Nat.le_trans (hears.sent sent member) (Nat.le_add_right _ _), hears.due⟩

/-- The side hears the oldest message. -/
theorem Hears.hear {sentAt : Nat} {msg : Msg} {rest : List (Nat × Msg)}
    (hears : Hears quick now own peer ((sentAt, msg) :: rest) back) (moved : next.lastHeard = now) :
    Hears quick now next peer rest back := by
  have first : sentAt ≤ now := hears.sent _ List.mem_cons_self
  have times : latest own ((sentAt, msg) :: rest) = (rest.map (·.1)).getLastD sentAt := by
    rw [latest, List.map_cons, List.getLastD_cons]
  refine ⟨?_, moved.le, fun sent member => hears.sent sent (List.mem_cons_of_mem _ member), hears.due.mono ?_⟩
  · rw [moved]
    exact hears.spaced.2.mono first
  · rw [times, latest, moved]
    exact getLastD_mono first _

/-- The side goes on, having heard nothing more. -/
theorem Hears.keep (hears : Hears quick now own peer flight back) (same : next.lastHeard = own.lastHeard) :
    Hears quick now next peer flight back := by
  have times : latest next flight = latest own flight := by rw [latest, latest, same]
  exact ⟨same ▸ hears.spaced, same ▸ hears.heard, hears.sent, times ▸ hears.due⟩

/-- The other side sends, no later than its ping was due. -/
theorem Hears.send {ahead : List (Nat × Msg)} (hears : Hears quick now own peer flight back) (msg : Msg)
    (close : now ≤ latest own flight + (skew quick + pingEvery + quick.late)) (due : Due quick now next ahead) :
    Hears quick now own next (flight ++ [(now, msg)]) ahead := by
  refine ⟨?_, hears.heard, ?_, ?_⟩
  · rw [List.map_append, List.map_singleton]
    exact hears.spaced.append close
  · intro sent member
    rcases List.mem_append.mp member with before | last
    · exact hears.sent sent before
    · rw [List.mem_singleton.mp last]
  · rw [latest, List.map_append, List.map_singleton, List.getLastD_concat]
    exact due

/-- The other side does something without sending. -/
theorem Hears.of_peer {next : Loop} {ahead : List (Nat × Msg)} (hears : Hears quick now own peer flight back)
    (due : Due quick (latest own flight) next ahead) : Hears quick now own next flight ahead :=
  ⟨hears.spaced, hears.heard, hears.sent, due⟩

/-- The side starts to count from now. -/
theorem Hears.begin (hears : Hears quick now own peer flight back) (moved : next.lastHeard = now) :
    Hears quick now next peer flight back := by
  refine ⟨?_, moved.le, hears.sent, hears.due.mono ?_⟩
  · rw [moved]
    exact hears.spaced.mono hears.heard
  · rw [latest, latest, moved]
    exact getLastD_mono hears.heard _

theorem Due.behind {msg : Option Msg} {latest : Nat} (due : Due quick latest peer back) (unwelcome : msg ≠ some .welcome) :
    Due quick latest peer (back ++ (msg.map fun msg => (now, msg)).toList) := by
  refine ⟨fun stage sentAt member => ?_, due.asking, due.inLoop⟩
  rcases List.mem_append.mp member with before | last
  · exact due.greeting stage sentAt before
  · cases msg with
    | none => cases last
    | some msg =>
        obtain ⟨rfl, rfl⟩ := Prod.mk.inj (List.mem_singleton.mp last)
        exact absurd rfl unwelcome

theorem due_inLoop {latest : Nat} (inLoop : peer.stage.InLoop) (close : peer.tick ≤ latest + skew quick + pingEvery) :
    Due quick latest peer back := by
  refine ⟨fun stage => ?_, fun since binds stage => ?_, fun _ => close⟩
  · rw [stage] at inLoop
    rcases inLoop with stage | stage | stage <;> cases stage
  · rw [stage] at inLoop
    rcases inLoop with stage | stage | stage <;> cases stage

theorem due_asking {latest since binds : Nat} (stage : peer.stage = .asking since binds) (close : since ≤ latest + quick.delay) :
    Due quick latest peer back := by
  refine ⟨fun other => ?_, fun other others found => ?_, fun inLoop => ?_⟩
  · rw [stage] at other
    cases other
  · rw [stage] at found
    cases found
    exact close
  · rw [stage] at inLoop
    rcases inLoop with stage | stage | stage <;> cases stage

theorem due_ended {latest : Nat} (ended : peer.stage.Ended) : Due quick latest peer back := by
  obtain ⟨unresponsive, stage⟩ := ended
  refine ⟨fun other => ?_, fun other others found => ?_, fun inLoop => ?_⟩
  · rw [stage] at other
    cases other
  · rw [stage] at found
    cases found
  · rw [stage] at inLoop
    rcases inLoop with stage | stage | stage <;> cases stage

end Hears

@[simp] theorem replying_tick (own : Loop) (reply : Option Msg) : (own.replying reply).tick = own.tick := by
  cases reply <;> rfl

@[simp] theorem replying_lastHeard (own : Loop) (reply : Option Msg) : (own.replying reply).lastHeard = own.lastHeard := by
  cases reply <;> rfl

theorem replying_inLoop (own : Loop) (reply : Option Msg) : (own.replying reply).stage.InLoop := by
  cases reply with
  | none => exact .inl rfl
  | some msg => exact .inr (.inl rfl)

theorem answers_unwelcome {msg : Msg} {reply : Option Msg} (answers : Answers msg reply) : reply ≠ some .welcome := by
  rintro rfl
  cases msg <;> simp [Answers] at answers

/-! ## Steps -/

/-- Only the client is greeted, and its welcome is the first thing on its way to it. -/
structure Roles (s : State) : Prop where
  welcome : (s.loop .client).stage = .greeting → ∃ sentAt rest, s.flight .client = (sentAt, .welcome) :: rest
  server : (s.loop .server).stage ≠ .greeting ∧ ∀ since binds, (s.loop .server).stage ≠ .asking since binds

structure Inv (quick : Quick) (s : State) : Prop where
  meets : quick.Meets s
  hears : ∀ side, ¬ (s.loop side).stage.Ended →
    Hears quick s.now (s.loop side) (s.loop side.other) (s.flight side) (s.flight side.other)

variable {quick : Quick} {s t : State}

/-- One side does something at once, and may send a message with it. -/
theorem Inv.acts (inv : Inv quick s) (meets : quick.Meets t) (side : Side) (msg : Option Msg) (now : t.now = s.now)
    (other : t.loop side.other = s.loop side.other)
    (flight : t.flight side.other = s.flight side.other ++ (msg.map fun msg => (s.now, msg)).toList) (unwelcome : msg ≠ some .welcome)
    (own : Hears quick s.now (s.loop side) (s.loop side.other) (s.flight side) (s.flight side.other) →
      Hears quick s.now (t.loop side) (s.loop side.other) (t.flight side) (s.flight side.other))
    (before : (t.loop side).stage.Ended ∨ ¬ (s.loop side).stage.Ended)
    (sends : ¬ (s.loop side.other).stage.Ended →
      Hears quick s.now (s.loop side.other) (s.loop side) (s.flight side.other) (s.flight side) →
      (∀ sent, msg = some sent →
        s.now ≤ latest (s.loop side.other) (s.flight side.other) + (skew quick + pingEvery + quick.late)) ∧
      ∀ sending, latest (s.loop side.other) (s.flight side.other) ≤ sending → (∀ sent, msg = some sent → sending = s.now) →
        Due quick sending (t.loop side) (t.flight side)) :
    Inv quick t := by
  refine ⟨meets, fun one running => ?_⟩
  rw [now]
  by_cases same : one = side
  · subst same
    have before : ¬ (s.loop one).stage.Ended := before.resolve_left running
    have hears := own (inv.hears one before)
    rw [other, flight]
    exact hears.of_peer (hears.due.behind unwelcome)
  · obtain rfl := other_of_ne same
    rw [other] at running ⊢
    rw [other_other, flight]
    have hears := inv.hears side.other running
    rw [other_other] at hears
    obtain ⟨close, due⟩ := sends running hears
    cases msg with
    | none =>
        rw [Option.map_none, Option.toList_none, List.append_nil]
        refine hears.of_peer (due _ le_rfl ?_)
        intro sent found
        cases found
    | some msg => exact hears.send msg (close msg rfl) (due _ (latest_le hears.heard hears.sent) fun _ _ => rfl)

/-- A turn of the loop, in which the ping's tick moves on only with a ping. -/
theorem Inv.turns (inv : Inv quick s) (meets : quick.Meets t) (side : Side) (msg : Option Msg) (now : t.now = s.now)
    (other : t.loop side.other = s.loop side.other)
    (flight : t.flight side.other = s.flight side.other ++ (msg.map fun msg => (s.now, msg)).toList) (unwelcome : msg ≠ some .welcome)
    (own : Hears quick s.now (s.loop side) (s.loop side.other) (s.flight side) (s.flight side.other) →
      Hears quick s.now (t.loop side) (s.loop side.other) (t.flight side) (s.flight side.other))
    (before : (s.loop side).stage.InLoop) (after : (t.loop side).stage.InLoop)
    (ticks : (t.loop side).tick = (s.loop side).tick ∨ (∃ sent, msg = some sent) ∧ (t.loop side).tick ≤ s.now + pingEvery) :
    Inv quick t := by
  have running : ¬ (s.loop side).stage.Ended := by
    rintro ⟨unresponsive, ended⟩
    rw [ended] at before
    rcases before with stage | stage | stage <;> cases stage
  apply inv.acts meets side msg now other flight unwelcome own (.inr running)
  intro _ hears
  have tick := hears.due.inLoop before
  have late := inv.meets.late side before
  refine ⟨fun _ _ => by omega, fun sending newer current => due_inLoop after ?_⟩
  rcases ticks with same | ⟨⟨sent, found⟩, moved⟩
  · omega
  · have sending := current sent found
    omega

theorem step_inv {event : Event} (inv : Inv quick s) (step : Step s event t) (meets : quick.Meets t) : Inv quick t := by
  cases step with
  | pass time => exact ⟨meets, fun side running => (inv.hears side running).pass time⟩
  | @welcomed sentAt rest binds greeting head =>
      have running : ¬ (s.loop .client).stage.Ended := by
        rintro ⟨unresponsive, ended⟩
        rw [greeting] at ended
        cases ended
      apply inv.acts meets .client none rfl (set_other _ _ _) ?_ (by simp) ?_ (.inr running)
      · intro there hears
        refine ⟨fun sent found => (by cases found), fun sending newer _ => ?_⟩
        have member : (sentAt, Msg.welcome) ∈ s.flight .client := by
          rw [head]
          exact List.mem_cons_self
        have first := hears.due.greeting greeting sentAt member
        have quickly := inv.meets.delay .client running there _ member
        rw [set_own]
        exact due_asking rfl (by omega)
      · rw [Option.map_none, Option.toList_none, List.append_nil, set_flight, take_other]
      · intro hears
        rw [head] at hears
        rw [set_own, set_flight, take_own]
        exact hears.hear rfl
  | @asked since binds asking =>
      have running : ¬ (s.loop .client).stage.Ended := by
        rintro ⟨unresponsive, ended⟩
        rw [asking] at ended
        cases ended
      apply inv.acts meets .client (some .other) rfl (set_other _ _ _) (send_other s .client (some .other)) (by simp) ?_ (.inr running)
      · intro _ hears
        have asks := inv.meets.asks since _ asking
        have began := hears.due.asking since _ asking
        refine ⟨fun _ _ => by rw [skew]; omega, fun sending newer _ => ?_⟩
        rw [set_own]
        exact due_asking rfl (by omega)
      · intro hears
        rw [set_own, set_flight, send_own]
        exact hears.keep rfl
  | @began since asking =>
      have running : ¬ (s.loop .client).stage.Ended := by
        rintro ⟨unresponsive, ended⟩
        rw [asking] at ended
        cases ended
      apply inv.acts meets .client none rfl (set_other _ _ _) ?_ (by simp) ?_ (.inr running)
      · intro _ hears
        have asks := inv.meets.asks since _ asking
        have began := hears.due.asking since _ asking
        refine ⟨fun sent found => (by cases found), fun sending newer _ => ?_⟩
        rw [set_own]
        refine due_inLoop (.inl rfl) ?_
        change s.now + pingEvery ≤ sending + skew quick + pingEvery
        rw [skew]
        omega
      · rw [Option.map_none, Option.toList_none, List.append_nil, set_flight]
      · intro hears
        rw [set_own, set_flight]
        exact hears.begin rfl
  | @ping side tick selecting due next =>
      apply inv.turns meets side (some (.ping ((s.loop side).nonce + 1))) rfl (set_other _ _ _)
        (send_other s side (some (.ping ((s.loop side).nonce + 1)))) (by simp)
      · intro hears
        rw [set_own, set_flight, send_own]
        exact hears.keep rfl
      · exact .inl selecting
      · rw [set_own]
        exact .inr (.inl rfl)
      · rw [set_own]
        refine .inr ⟨⟨_, rfl⟩, ?_⟩
        change tick ≤ s.now + pingEvery
        omega
  | turn side reply selecting answers =>
      apply inv.turns meets side reply rfl (set_other _ _ _) (send_other s side reply)
      · rintro rfl
        simp at answers
      · intro hears
        rw [set_own, set_flight, send_own]
        exact hears.keep (replying_lastHeard _ _)
      · exact .inl selecting
      · rw [set_own]
        exact replying_inLoop _ _
      · rw [set_own, replying_tick]
        exact .inl rfl
  | heard side reply selecting head answers =>
      apply inv.turns meets side reply rfl (set_other _ _ _)
      · rw [set_flight, send_other, take_other, take_now]
      · exact answers_unwelcome answers
      · intro hears
        rw [head] at hears
        rw [set_own, set_flight, send_own, take_own]
        exact hears.hear (replying_lastHeard _ _)
      · exact .inl selecting
      · rw [set_own]
        exact replying_inLoop _ _
      · rw [set_own, replying_tick]
        exact .inl rfl
  | unbinds selecting head =>
      apply inv.turns meets .server none rfl (set_other _ _ _) ?_ (by simp)
      · intro hears
        rw [head] at hears
        rw [set_own, set_flight, take_own]
        exact hears.hear rfl
      · exact .inl selecting
      · rw [set_own]
        exact .inr (.inr rfl)
      · rw [set_own]
        exact .inl rfl
      · rw [Option.map_none, Option.toList_none, List.append_nil, set_flight, take_other]
  | freed freeing =>
      apply inv.turns meets .server none rfl (set_other _ _ _) ?_ (by simp)
      · intro hears
        rw [set_own, set_flight]
        exact hears.keep rfl
      · exact .inr (.inr freeing)
      · rw [set_own]
        exact .inl rfl
      · rw [set_own]
        exact .inl rfl
      · rw [Option.map_none, Option.toList_none, List.append_nil, set_flight]
  | sent side sending =>
      apply inv.turns meets side none rfl (set_other _ _ _) ?_ (by simp)
      · intro hears
        rw [set_own, set_flight]
        exact hears.keep rfl
      · exact .inr (.inl sending)
      · rw [set_own]
        exact .inl rfl
      · rw [set_own]
        exact .inl rfl
      · rw [Option.map_none, Option.toList_none, List.append_nil, set_flight]
  | expires side running late =>
      have ended : ((s.set side { s.loop side with stage := .ended true }).loop side).stage.Ended := by
        rw [set_own]
        exact ⟨true, rfl⟩
      apply inv.acts meets side none rfl (set_other _ _ _) ?_ (by simp) ?_ (.inl ended)
      · exact fun _ _ => ⟨fun sent found => (by cases found), fun _ _ _ => due_ended ended⟩
      · rw [Option.map_none, Option.toList_none, List.append_nil, set_flight]
      · intro hears
        rw [set_own, set_flight]
        exact hears.keep rfl
  | leaves side running =>
      have ended : ((s.set side { s.loop side with stage := .ended false }).loop side).stage.Ended := by
        rw [set_own]
        exact ⟨false, rfl⟩
      apply inv.acts meets side none rfl (set_other _ _ _) ?_ (by simp) ?_ (.inl ended)
      · exact fun _ _ => ⟨fun sent found => (by cases found), fun _ _ _ => due_ended ended⟩
      · rw [Option.map_none, Option.toList_none, List.append_nil, set_flight]
      · intro hears
        rw [set_own, set_flight]
        exact hears.keep rfl

/-- A step changes one side's stage, and only if that side is still there. -/
theorem step_stage {event : Event} (step : Step s event t) (side : Side) :
    t.loop side = s.loop side ∨ ¬ (s.loop side).stage.Ended ∧ ((t.loop side).stage = .ended true →
      ((s.loop side).stage = .selecting ∨ (s.loop side).stage = .sending) ∧
        (s.loop side).lastHeard + pongDeadline ≤ s.now) := by
  have acts (own : Side) (changed : State) (loop : Loop) (same : changed.loop = s.loop) (running : ¬ (s.loop own).stage.Ended)
      (expires : loop.stage = .ended true → ((s.loop own).stage = .selecting ∨ (s.loop own).stage = .sending) ∧
        (s.loop own).lastHeard + pongDeadline ≤ s.now) :
      (changed.set own loop).loop side = s.loop side ∨ ¬ (s.loop side).stage.Ended ∧
        (((changed.set own loop).loop side).stage = .ended true →
          ((s.loop side).stage = .selecting ∨ (s.loop side).stage = .sending) ∧
            (s.loop side).lastHeard + pongDeadline ≤ s.now) := by
    by_cases acting : side = own
    · subst acting
      rw [set_own]
      exact .inr ⟨running, expires⟩
    · obtain rfl := other_of_ne acting
      rw [set_other, same]
      exact .inl rfl
  have present {own : Side} {stage : Stage} (found : (s.loop own).stage = stage)
      (there : ∀ unresponsive, stage ≠ .ended unresponsive) : ¬ (s.loop own).stage.Ended := by
    rintro ⟨unresponsive, ended⟩
    exact there unresponsive (found.symm.trans ended)
  have replies (own : Loop) (reply : Option Msg) : (own.replying reply).stage ≠ .ended true := by cases reply <;> simp [Loop.replying]
  cases step with
  | pass time => exact .inl rfl
  | welcomed binds greeting head => exact acts .client _ _ rfl (present greeting (by simp)) (by simp)
  | asked asking => exact acts .client _ _ rfl (present asking (by simp)) (by simp)
  | began asking => exact acts .client _ _ rfl (present asking (by simp)) (by simp)
  | ping own selecting due next => exact acts own _ _ rfl (present selecting (by simp)) (by simp)
  | turn own reply selecting answers =>
      exact acts own _ _ rfl (present selecting (by simp)) fun ended => absurd ended (replies _ _)
  | heard own reply selecting head answers =>
      exact acts own _ _ rfl (present selecting (by simp)) fun ended => absurd ended (replies _ _)
  | unbinds selecting head => exact acts .server _ _ rfl (present selecting (by simp)) (by simp)
  | freed freeing => exact acts .server _ _ rfl (present freeing (by simp)) (by simp)
  | sent own sending => exact acts own _ _ rfl (present sending (by simp)) (by simp)
  | expires own running late =>
      refine acts own _ _ rfl ?_ fun _ => ⟨running, late⟩
      rcases running with stage | stage
      · exact present stage (by simp)
      · exact present stage (by simp)
  | leaves own running =>
      refine acts own _ _ rfl ?_ (by simp)
      rintro ⟨unresponsive, ended⟩
      exact running unresponsive ended

theorem step_welcome {event : Event} (roles : Roles s) (step : Step s event t) (greeting : (t.loop .client).stage = .greeting) :
    ∃ sentAt rest, t.flight .client = (sentAt, .welcome) :: rest := by
  have more (msg : Option Msg) (before : (s.loop .client).stage = .greeting) :
      ∃ sentAt rest, (s.send .server msg).flight .client = (sentAt, .welcome) :: rest := by
    obtain ⟨sentAt, rest, head⟩ := roles.welcome before
    refine ⟨sentAt, rest ++ (msg.map fun msg => (s.now, msg)).toList, ?_⟩
    have sent := send_other s .server msg
    rw [show Side.server.other = .client from rfl] at sent
    rw [sent, head, List.cons_append]
  cases step with
  | pass time => exact roles.welcome greeting
  | welcomed binds waiting head => simp at greeting
  | asked asking => simp at greeting
  | began asking => simp at greeting
  | ping own selecting due next =>
      cases own with
      | client => simp at greeting
      | server => exact more _ greeting
  | turn own reply selecting answers =>
      cases own with
      | client => cases reply <;> simp [Loop.replying] at greeting
      | server => exact more _ greeting
  | heard own reply selecting head answers =>
      cases own with
      | client => cases reply <;> simp [Loop.replying] at greeting
      | server => exact more _ greeting
  | unbinds selecting head => exact roles.welcome greeting
  | freed freeing => exact roles.welcome greeting
  | sent own sending =>
      cases own with
      | client => simp at greeting
      | server => exact roles.welcome greeting
  | expires own running late =>
      cases own with
      | client => simp at greeting
      | server => exact roles.welcome greeting
  | leaves own running =>
      cases own with
      | client => simp at greeting
      | server => exact roles.welcome greeting

theorem step_roles {event : Event} (roles : Roles s) (step : Step s event t) : Roles t := by
  refine ⟨step_welcome roles step, ?_⟩
  have server := roles.server
  cases step with
  | pass time => exact server
  | welcomed binds waiting head => exact server
  | asked asking => exact server
  | began asking => exact server
  | ping own selecting due next =>
      cases own with
      | client => exact server
      | server => simp
  | turn own reply selecting answers =>
      cases own with
      | client => exact server
      | server => cases reply <;> simp [Loop.replying]
  | heard own reply selecting head answers =>
      cases own with
      | client => exact server
      | server => cases reply <;> simp [Loop.replying]
  | unbinds selecting head => simp
  | freed freeing => simp
  | sent own sending =>
      cases own with
      | client => exact server
      | server => simp
  | expires own running late =>
      cases own with
      | client => exact server
      | server => simp
  | leaves own running =>
      cases own with
      | client => exact server
      | server => simp

theorem start_inv (quick : Quick) (now : Nat) : Inv quick (start now) := by
  refine ⟨⟨?_, ?_, ?_⟩, ?_⟩
  · intro since binds asking
    cases asking
  · intro side _
    cases side <;> exact Nat.le_add_right _ _
  · intro side _ _ sent member
    cases side with
    | client =>
        rw [List.mem_singleton.mp member]
        exact Nat.le_add_right _ _
    | server => cases member
  · intro side _
    cases side with
    | client =>
        refine ⟨⟨Nat.le_add_right_of_le (Nat.le_refl _), trivial⟩, Nat.le_refl _, ?_, due_inLoop (.inl rfl) ?_⟩
        · intro sent member
          rw [List.mem_singleton.mp member]
          exact Nat.le_refl _
        · change now ≤ now + skew quick + pingEvery
          omega
    | server =>
        refine ⟨trivial, Nat.le_refl _, ?_, ⟨fun _ sentAt member => ?_, ?_, ?_⟩⟩
        · intro sent member
          cases member
        · obtain ⟨rfl, _⟩ := Prod.mk.inj (List.mem_singleton.mp member)
          exact Nat.le_refl _
        · intro since binds asking
          cases asking
        · rintro (stage | stage | stage) <;> cases stage

/-- How long at most a side goes without hearing from the other, while both are there. -/
theorem heard_within (inv : Inv quick s) (roles : Roles s) {side : Side} (own : ¬ (s.loop side).stage.Ended)
    (peer : ¬ (s.loop side.other).stage.Ended) :
    s.now ≤ (s.loop side).lastHeard + (pingEvery + quick.late + quick.asks + 2 * quick.delay) := by
  obtain ⟨spaced, heard, sent, due⟩ := inv.hears side own
  cases flight : s.flight side with
  | cons first rest =>
      rw [flight] at spaced
      have quickly := inv.meets.delay side own peer first (by rw [flight]; exact List.mem_cons_self)
      have close : first.1 ≤ (s.loop side).lastHeard + (skew quick + pingEvery + quick.late) := spaced.1
      rw [skew] at close
      omega
  | nil =>
      have still : latest (s.loop side) (s.flight side) = (s.loop side).lastHeard := by rw [latest, flight]; rfl
      rw [still] at due
      cases stage : (s.loop side.other).stage with
      | greeting =>
          obtain rfl : side = .server := by
            cases side with
            | server => rfl
            | client => exact absurd stage roles.server.1
          obtain ⟨sentAt, rest, head⟩ := roles.welcome stage
          have member : (sentAt, Msg.welcome) ∈ s.flight .client := by
            rw [head]
            exact List.mem_cons_self
          have first := due.greeting stage sentAt member
          have quickly := inv.meets.delay .client peer own _ member
          change s.now ≤ sentAt + quick.delay at quickly
          omega
      | asking since binds =>
          have began := due.asking since binds stage
          obtain rfl : side = .server := by
            cases side with
            | server => rfl
            | client => exact absurd stage (roles.server.2 since binds)
          have asks := inv.meets.asks since binds stage
          omega
      | selecting | sending | freeing =>
          have inLoop : (s.loop side.other).stage.InLoop := by simp [stage, Stage.InLoop]
          have tick := due.inLoop inLoop
          have late := inv.meets.late side.other inLoop
          rw [skew] at tick
          omega
      | ended unresponsive => exact absurd ⟨unresponsive, stage⟩ peer

theorem reachable_inv (reachable : (heartbeat quick).Reachable s) : Inv quick s ∧ Roles s := by
  apply reachable.invariant fun s => Inv quick s ∧ Roles s
  · rintro s ⟨now, rfl⟩
    exact ⟨start_inv quick now, fun _ => ⟨now, [], rfl⟩, by simp [start]⟩
  · intro s event t _ inv step
    exact ⟨step_inv inv.1 step.1 step.2, step_roles inv.2 step.1⟩

/-- A session whose delays, twice one way, the lateness of a ping and the time its client takes to
ask, come to less than the 30 s between the ping interval and the deadline: while both sides are
there neither has been silent for the deadline, and no side is found unresponsive before it left. -/
theorem unresponsive_only_once_gone (quick : Quick)
    (enough : quick.late + quick.asks + 2 * quick.delay < pongDeadline - pingEvery) {s : State}
    (reachable : (heartbeat quick).Reachable s) (side : Side) :
    (¬ (s.loop side).stage.Ended → ¬ (s.loop side.other).stage.Ended → s.now < (s.loop side).lastHeard + pongDeadline) ∧
      ((s.loop side).stage = .ended true → (s.loop side.other).stage = .ended false) := by
  have room : pingEvery < pongDeadline := by decide
  constructor
  · intro own peer
    obtain ⟨inv, roles⟩ := reachable_inv reachable
    have bound := heard_within inv roles own peer
    omega
  · revert side
    apply reachable.invariant fun s => ∀ side, (s.loop side).stage = .ended true → (s.loop side.other).stage = .ended false
    · rintro s ⟨now, rfl⟩ side found
      cases side <;> cases found
    · intro s event t before ih step side found
      have kept (side : Side) (ended : (s.loop side).stage.Ended) : t.loop side = s.loop side := by
        rcases step_stage step.1 side with same | ⟨running, _⟩
        · exact same
        · exact absurd ended running
      rcases step_stage step.1 side with same | ⟨running, expires⟩
      · rw [same] at found
        have gone := ih side found
        rw [kept side.other ⟨false, gone⟩]
        exact gone
      · have late := (expires found).2
        obtain ⟨inv, roles⟩ := reachable_inv before
        cases there : (s.loop side.other).stage with
        | ended unresponsive =>
            cases unresponsive with
            | false =>
                rw [kept side.other ⟨false, there⟩]
                exact there
            | true =>
                have gone := ih side.other there
                rw [other_other] at gone
                exact absurd ⟨false, gone⟩ running
        | _ =>
            have peer : ¬ (s.loop side.other).stage.Ended := by
              rintro ⟨unresponsive, ended⟩
              rw [there] at ended
              cases ended
            have bound := heard_within inv roles running peer
            omega

/-- A second each for the client's binds and for a ping that is due, and half a second each way. -/
def quickly : Quick := ⟨1000000000, 1000000000, 500000000⟩

theorem meets_soon {s : State} (asks : ∀ since binds, (s.loop .client).stage ≠ .asking since binds) (soon : s.now ≤ 1000000000)
    (delay : ∀ side, ∀ sent ∈ s.flight side, s.now ≤ sent.1 + 500000000) : quickly.Meets s := by
  refine ⟨fun since binds asking => absurd asking (asks since binds), fun side _ => ?_, fun side _ _ => delay side⟩
  exact Nat.le_trans soon (Nat.le_add_left _ _)

theorem meets_at_once {s : State} (now : s.now = 0) : quickly.Meets s := by
  refine ⟨fun since binds _ => ?_, fun side _ => ?_, fun side _ _ sent _ => ?_⟩ <;> rw [now] <;> exact Nat.zero_le _

/-- The client is welcomed, has nothing to ask for, and hears the server's first ping after 0.4 s; the
server hears the answer as much later. -/
theorem unresponsive_only_once_gone_ping : ∃ s : State, (heartbeat quickly).Reachable s ∧ s.now = 800000000 ∧
    (s.loop .client).lastHeard = 400000000 ∧ (s.loop .server).lastHeard = 800000000 ∧
    ∀ side, s.now < (s.loop side).lastHeard + pongDeadline := by
  have first : (heartbeat quickly).Reachable (start 0) := .initial ⟨0, rfl⟩
  have welcomed := first.next ⟨.welcomed 0 rfl rfl, meets_at_once rfl⟩
  have began := welcomed.next ⟨.began rfl, meets_at_once rfl⟩
  have pinged := began.next ⟨.ping .server rfl (Nat.le_refl _) (.inl rfl), meets_at_once rfl⟩
  have sent := pinged.next ⟨.sent .server rfl, meets_at_once rfl⟩
  have passed := sent.next ⟨.pass 400000000, meets_soon nofun (by decide) (by rintro (_ | _) <;> decide)⟩
  have heard := passed.next ⟨@Step.heard _ .client _ _ _ (some (.pong 1)) rfl rfl rfl,
    meets_soon nofun (by decide) (by rintro (_ | _) <;> decide)⟩
  have later := heard.next ⟨.pass 400000000, meets_soon nofun (by decide) (by rintro (_ | _) <;> decide)⟩
  have answered := later.next ⟨@Step.heard _ .server _ _ _ none rfl rfl rfl,
    meets_soon nofun (by decide) (by rintro (_ | _) <;> decide)⟩
  refine ⟨_, answered, rfl, rfl, rfl, fun side => ?_⟩
  apply (unresponsive_only_once_gone quickly (by decide) answered side).1
  · rintro ⟨unresponsive, ended⟩
    cases side <;> cases ended
  · rintro ⟨unresponsive, ended⟩
    cases side <;> cases ended

end Hawse.Proof.Heartbeat
