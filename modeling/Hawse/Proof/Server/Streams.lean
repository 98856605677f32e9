import Hawse.Lib.Ledger
import Hawse.Proof.Server.Reload
import Hawse.Server.Streams

namespace Hawse.Proof.Server.Streams
open Lib Hawse.Server.Streams

/-! ## The budget -/

theorem streamsInEffect_eq (limits : Limits) :
    (streamsInEffect limits).toNat =
      min limits.streamsPerClient.toNat (Transport.Tuning.client.maxStreams.toNat + 1) := by
  have more : (saturatingAdd Transport.Tuning.client.maxStreams 1).toNat = Transport.Tuning.client.maxStreams.toNat + 1 := by
    decide
  rw [← more, streamsInEffect]
  by_cases small : limits.streamsPerClient ≤ saturatingAdd Transport.Tuning.client.maxStreams 1
  · rw [show min limits.streamsPerClient _ = limits.streamsPerClient from if_pos small,
      min_eq_left (UInt32.le_iff_toNat_le.mp small)]
  · rw [show min limits.streamsPerClient _ = _ from if_neg small]
    have large : ¬ limits.streamsPerClient.toNat ≤ _ := fun le => small (UInt32.le_iff_toNat_le.mpr le)
    exact (min_eq_right (not_le.mp large).le).symm

theorem budget_le (cfg : ServerConfig) : budget cfg ≤ Transport.Tuning.client.maxStreams.toNat := by
  rw [budget, streamsInEffect_eq]
  omega

theorem budget_pos [Ipv6Net] {cfg : ServerConfig} (accepted : cfg.validate = .ok ()) : 1 ≤ budget cfg := by
  have two : 2 ≤ cfg.limits.streamsPerClient.toNat := by
    obtain ⟨_, others⟩ := Reload.validate_ok.mp accepted
    by_contra few
    have below : cfg.limits.streamsPerClient < 2 := by
      rw [UInt32.lt_iff_toNat_lt]
      exact not_le.mp few
    obtain ⟨_, _, rest⟩ := Fallible.bind_eq_ok.mp others
    simp only [below, if_true] at rest
    cases rest
  have client : Transport.Tuning.client.maxStreams.toNat = 4096 := rfl
  rw [budget, streamsInEffect_eq, client]
  omega

/-! ## Permits and streams of a task -/

namespace Stage

def permit : Stage → Nat
  | .waiting | .ended => 0
  | _ => 1

/-- A stream is there as long as one of its halves is. -/
def stream : Stage → Nat
  | .opening | .delivered => 1
  | .holding send recv => if send || recv then 1 else 0
  | _ => 0

end Stage

/-- The streams the session's tasks hold, or wait for. -/
def held (s : State) : Nat := (s.tasks.map fun task => Stage.stream task.stage).sum

/-- A cancelled service that has no stream any more. -/
def gone (task : Task) : Nat :=
  if task.owner = .bulk ∧ task.cancelled ∧ (task.stage = .holding false false ∨ task.stage = .ended) then 1 else 0

/-- A task takes one permit and gives it back once, and has it as long as it has a stream. -/
structure Accounted (task : Task) : Prop where
  taken : task.taken = task.returned + Stage.permit task.stage
  once : task.taken ≤ 1

/-- With permits to spare that are on their way back to the semaphore. -/
structure Inv (cfg : ServerConfig) (kind : TransportKind) (spare : Nat) (s : State) : Prop where
  all : s.streams.permits + (s.tasks.map fun task => Stage.permit task.stage).sum + spare = budget cfg
  accounted : ∀ task ∈ s.tasks, Accounted task
  distinct : s.streams.waiters.Nodup
  queued : ∀ i ∈ s.streams.waiters, ∃ task, s.tasks[i]? = some task ∧ task.stage = .waiting ∧ task.taken = 0
  abandoned : s.abandoned ≤ (s.tasks.map gone).sum
  quic : kind = .quic → s.abandoned = 0

theorem stream_le_permit (stage : Stage) : Stage.stream stage ≤ Stage.permit stage := by
  cases stage with
  | holding send recv => cases send <;> cases recv <;> simp [Stage.stream, Stage.permit]
  | _ => simp [Stage.stream, Stage.permit]

theorem turn_permit {kind : TransportKind} {task : Task} {event : Event} {stage : Stage}
    (turned : turn kind task event = some stage) :
    Stage.permit task.stage = 1 ∧ Stage.permit stage = 1 ∧ gone task = 0 := by
  cases event with
  | localAddrFails i | poll i | openBi i | receive i =>
      simp only [turn] at turned
      split_ifs at turned with before
      cases turned
      simp [before, Stage.permit, gone]
  | opened i ok =>
      simp only [turn] at turned
      split_ifs at turned with before ok
      · cases turned
        cases kind <;> simp [before, Stage.permit, gone]
      · cases turned
        simp [before, Stage.permit, gone]
  | dropSend i | dropRecv i =>
      simp only [turn] at turned
      split at turned
      · rename_i before
        cases turned
        simp [before, Stage.permit, gone]
      · cases turned
  | accept permitted => cases turned
  | serveUdp => cases turned
  | release i => cases turned
  | unbind i => cases turned
  | cancel i sent => cases turned
  | drive => cases turned
  | close => cases turned

/-! ## Runs -/

section Steps
variable {cfg : ServerConfig} {kind : TransportKind} {s : State}

theorem Inv.waits {spare : Nat} (inv : Inv cfg kind spare s) {i : Nat} {task : Task} (found : s.tasks[i]? = some task)
    (queued : i ∈ s.streams.waiters) : task.stage = .waiting ∧ task.taken = 0 := by
  obtain ⟨other, same, waits⟩ := inv.queued i queued
  cases found.symm.trans same
  exact waits

theorem Inv.set {spare rest : Nat} (inv : Inv cfg kind spare s) {i : Nat} {old : Task} (found : s.tasks[i]? = some old)
    (new : Task) (accounted : Accounted new)
    (permits : Stage.permit new.stage + rest = Stage.permit old.stage + spare) (more : gone old ≤ gone new)
    (still : i ∈ s.streams.waiters → new.stage = .waiting ∧ new.taken = 0) :
    Inv cfg kind rest { s with tasks := s.tasks.set i new } := by
  have moved := sum_map_set (f := fun task => Stage.permit task.stage) found new
  have left := sum_map_set (f := gone) found new
  refine ⟨?_, ?_, inv.distinct, ?_, ?_, inv.quic⟩
  · have all := inv.all
    simp only at moved ⊢
    omega
  · intro task member
    obtain member | rfl := List.mem_or_eq_of_mem_set member
    · exact inv.accounted task member
    · exact accounted
  · intro j queued
    obtain ⟨task, at_j, waits⟩ := inv.queued j queued
    by_cases same : i = j
    · subst same
      have bound : i < s.tasks.length := (List.getElem?_eq_some_iff.mp found).1
      exact ⟨new, List.getElem?_set_self bound, still queued⟩
    · exact ⟨task, (List.getElem?_set_ne same).trans at_j, waits⟩
  · have fewer := inv.abandoned
    simp only
    omega

theorem Inv.move (inv : Inv cfg kind 0 s) {i : Nat} {task : Task} (found : s.tasks[i]? = some task) {stage : Stage}
    (had : Stage.permit task.stage = 1) (has : Stage.permit stage = 1)
    (more : gone task ≤ gone { task with stage := stage }) : Inv cfg kind 0 (s.move i task stage) := by
  obtain ⟨taken, once⟩ := inv.accounted task (List.mem_of_getElem? found)
  rw [had, ← has] at taken
  refine inv.set found _ ⟨taken, once⟩ ?_ more fun queued => ?_
  · simp only [had, has]
  · rw [(inv.waits found queued).1] at had
    cases had

theorem Inv.release (inv : Inv cfg kind 1 s) : Inv cfg kind 0 s.release := by
  have distinct := inv.distinct
  unfold State.release Semaphore.release
  cases queue : s.streams.waiters with
  | nil =>
      have all := inv.all
      refine ⟨?_, inv.accounted, ?_, ?_, inv.abandoned, inv.quic⟩
      · simp only
        omega
      · simp
      · simp
  | cons i waiters =>
      rw [queue] at distinct
      obtain ⟨task, found, waiting, fresh⟩ := inv.queued i (queue ▸ List.mem_cons_self)
      obtain ⟨taken, _⟩ := inv.accounted task (List.mem_of_getElem? found)
      have shorter : Inv cfg kind 1 { s with streams := { s.streams with waiters := waiters } } :=
        ⟨inv.all, inv.accounted, distinct.of_cons, fun j later => inv.queued j (queue ▸ List.mem_cons_of_mem i later),
          inv.abandoned, inv.quic⟩
      have turned : s.tasks.modify i (fun task => { task with stage := .granted, taken := task.taken + 1 }) =
          s.tasks.set i { task with stage := .granted, taken := task.taken + 1 } := by
        have : Inhabited Task := ⟨task⟩
        rw [List.modify_eq_set, found, Option.getD_some]
      simp only [turned]
      refine shorter.set found _ ⟨?_, ?_⟩ ?_ ?_ fun later => absurd later (List.nodup_cons.mp distinct).1
      · simp only [waiting, Stage.permit] at taken ⊢
        omega
      · simp only
        omega
      · simp [waiting, Stage.permit]
      · simp [gone, waiting]

theorem Inv.giveBack (inv : Inv cfg kind 0 s) {i : Nat} {task : Task} (found : s.tasks[i]? = some task)
    (had : Stage.permit task.stage = 1) : Inv cfg kind 0 (s.giveBack i task) := by
  obtain ⟨taken, once⟩ := inv.accounted task (List.mem_of_getElem? found)
  rw [had] at taken
  let last : Task := { task with stage := .ended, returned := task.returned + 1 }
  refine (inv.set found last ⟨?_, once⟩ ?_ ?_ fun queued => ?_).release
  · simpa [last, Stage.permit] using taken
  · rw [had]
    rfl
  · unfold gone
    split_ifs with here there
    · exact le_rfl
    · exact absurd ⟨here.1, here.2.1, .inr rfl⟩ there
    · exact Nat.zero_le 1
    · exact le_rfl
  · rw [(inv.waits found queued).1] at had
    cases had

theorem Inv.append {rest : Nat} (inv : Inv cfg kind rest s) (new : Task) (accounted : Accounted new)
    (permits : rest = Stage.permit new.stage) : Inv cfg kind 0 { s with tasks := s.tasks ++ [new] } := by
  refine ⟨?_, ?_, inv.distinct, ?_, ?_, inv.quic⟩
  · have all := inv.all
    simp only [List.map_append, List.map_cons, List.map_nil, List.sum_append, List.sum_cons, List.sum_nil]
    omega
  · intro task member
    obtain member | member := List.mem_append.mp member
    · exact inv.accounted task member
    · rw [List.mem_singleton.mp member]
      exact accounted
  · intro i queued
    obtain ⟨task, found, waits⟩ := inv.queued i queued
    exact ⟨task, (List.getElem?_append_left (List.getElem?_eq_some_iff.mp found).1).trans found, waits⟩
  · have fewer := inv.abandoned
    simp only [List.map_append, List.sum_append]
    omega

theorem Inv.acquire (inv : Inv cfg kind 0 s) (free : 0 < s.streams.permits) :
    Inv cfg kind 1 { s with streams := { s.streams with permits := s.streams.permits - 1 } } := by
  refine ⟨?_, inv.accounted, inv.distinct, inv.queued, inv.abandoned, inv.quic⟩
  have all := inv.all
  simp only
  omega

theorem Inv.enqueue (inv : Inv cfg kind 0 s) {i : Nat} {task : Task} (found : s.tasks[i]? = some task)
    (waiting : task.stage = .waiting) (untaken : task.taken = 0) (fresh : i ∉ s.streams.waiters) :
    Inv cfg kind 0 { s with streams := { s.streams with waiters := s.streams.waiters ++ [i] } } := by
  refine ⟨inv.all, inv.accounted, ?_, ?_, inv.abandoned, inv.quic⟩
  · rw [← List.concat_eq_append, List.nodup_concat]
    exact ⟨fresh, inv.distinct⟩
  · intro j queued
    obtain queued | queued := List.mem_append.mp queued
    · exact inv.queued j queued
    · rw [List.mem_singleton.mp queued]
      exact ⟨task, found, waiting, untaken⟩

theorem Inv.accept (inv : Inv cfg kind 0 s) {permitted : Bool} {t : State}
    (stepped : next kind s (.accept permitted) = some t) : Inv cfg kind 0 t := by
  cases permitted with
  | false =>
      cases stepped
      exact inv
  | true =>
      by_cases free : 0 < s.streams.permits
      · simp only [next, Semaphore.tryAcquire, free, if_true] at stepped
        cases stepped
        exact (inv.acquire free).append _ ⟨rfl, le_rfl⟩ rfl
      · simp only [next, Semaphore.tryAcquire, free, if_false, if_true] at stepped
        cases stepped
        exact ⟨inv.all, inv.accounted, inv.distinct, inv.queued, inv.abandoned, inv.quic⟩

theorem Inv.serveUdp (inv : Inv cfg kind 0 s) {t : State} (stepped : next kind s .serveUdp = some t) :
    Inv cfg kind 0 t := by
  by_cases free : 0 < s.streams.permits
  · simp only [next, Semaphore.acquire, free, if_true] at stepped
    cases stepped
    exact (inv.acquire free).append _ ⟨rfl, le_rfl⟩ rfl
  · simp only [next, Semaphore.acquire, free, if_false] at stepped
    cases stepped
    refine (inv.append ⟨.bulk, false, .waiting, 0, 0⟩ ⟨rfl, Nat.zero_le 1⟩ rfl).enqueue
      (List.getElem?_concat_length ..) rfl rfl ?_
    -- Whoever waits is a task that was there before.
    intro queued
    obtain ⟨task, found, _⟩ := inv.queued _ queued
    exact absurd (List.getElem?_eq_some_iff.mp found).1 (lt_irrefl _)

theorem Inv.withdraw (inv : Inv cfg kind 0 s) {i : Nat} {task : Task} (found : s.tasks[i]? = some task)
    (waiting : task.stage = .waiting) :
    Inv cfg kind 0 { s.move i task .ended with streams := s.streams.withdraw i } := by
  have accounted := inv.accounted task (List.mem_of_getElem? found)
  have shorter : Inv cfg kind 0 { s with streams := s.streams.withdraw i } :=
    ⟨inv.all, inv.accounted, inv.distinct.erase i, fun j queued => inv.queued j (List.mem_of_mem_erase queued),
      inv.abandoned, inv.quic⟩
  refine shorter.set found _ ⟨?_, accounted.once⟩ ?_ ?_ fun queued => absurd queued inv.distinct.not_mem_erase
  · simpa [waiting, Stage.permit] using accounted.taken
  · simp [waiting, Stage.permit]
  · simp [gone, waiting]

theorem Inv.abandon (inv : Inv cfg kind 0 s) {i : Nat} {task : Task} (found : s.tasks[i]? = some task)
    (opening : task.stage = .opening) (cancelled : task.owner = .bulk ∧ task.cancelled = true) (sent : Bool) :
    Inv cfg kind 0 { s.move i task (.holding false false) with
      abandoned := s.abandoned + if kind = .tcp ∧ sent = true then 1 else 0 } := by
  have moved : Inv cfg kind 0 (s.move i task (.holding false false)) :=
    inv.move found (by rw [opening]; rfl) rfl (by simp [gone, opening])
  have left := sum_map_set (f := gone) found { task with stage := .holding false false }
  have before : gone task = 0 := by
    simp [gone, opening]
  have after : gone { task with stage := .holding false false } = 1 := by
    simp [gone, cancelled]
  have fewer := inv.abandoned
  refine ⟨moved.all, moved.accounted, moved.distinct, moved.queued, ?_, fun quic => ?_⟩
  · simp only [State.move]
    split_ifs <;> omega
  · simp [quic, inv.quic quic]

theorem Inv.cancel (inv : Inv cfg kind 0 s) {i : Nat} {sent : Bool} {t : State}
    (stepped : s.cancel kind i sent = some t) : Inv cfg kind 0 t := by
  unfold State.cancel at stepped
  cases found : s.tasks[i]? with
  | none => simp [found] at stepped
  | some task =>
      simp only [found, Option.bind_eq_bind, Option.bind_some] at stepped
      by_cases cancelled : task.owner = .bulk ∧ task.cancelled = true
      · rw [if_pos cancelled] at stepped
        cases stage : task.stage with
        | waiting =>
            simp only [stage] at stepped
            cases stepped
            exact inv.withdraw found stage
        | granted =>
            simp only [stage] at stepped
            cases stepped
            exact inv.giveBack found (by rw [stage]; rfl)
        | admitted | delivered =>
            simp only [stage] at stepped
            cases stepped
            exact inv.move found (by rw [stage]; rfl) rfl (by simp [gone, stage])
        | opening =>
            simp only [stage] at stepped
            cases stepped
            exact inv.abandon found stage cancelled sent
        | holding send recv => simp [stage] at stepped
        | ended => simp [stage] at stepped
      · rw [if_neg cancelled] at stepped
        cases stepped

theorem Inv.unbind (inv : Inv cfg kind 0 s) {i : Nat} {task : Task} (found : s.tasks[i]? = some task) :
    Inv cfg kind 0 { s with tasks := s.tasks.set i { task with cancelled := true } } := by
  obtain ⟨taken, once⟩ := inv.accounted task (List.mem_of_getElem? found)
  have waits := inv.waits found
  refine inv.set found _ ⟨taken, once⟩ rfl ?_ waits
  unfold gone
  split_ifs with here there
  · exact le_rfl
  · exact absurd ⟨here.1, rfl, here.2.2⟩ there
  · exact Nat.zero_le 1
  · exact le_rfl

theorem Inv.turn {event : Event} {i : Nat} {t : State} (inv : Inv cfg kind 0 s)
    (stepped : (s.tasks[i]? >>= fun task => turn kind task event >>= fun stage => some (s.move i task stage)) = some t) :
    Inv cfg kind 0 t := by
  obtain ⟨task, found, stepped⟩ := Option.bind_eq_some_iff.mp stepped
  obtain ⟨stage, turned, stepped⟩ := Option.bind_eq_some_iff.mp stepped
  cases stepped
  obtain ⟨had, has, before⟩ := turn_permit turned
  refine inv.move found had has ?_
  rw [before]
  exact Nat.zero_le _

theorem Inv.step (inv : Inv cfg kind 0 s) {event : Event} {t : State} (stepped : next kind s event = some t) :
    Inv cfg kind 0 t := by
  cases event with
  | accept permitted => exact inv.accept stepped
  | serveUdp => exact inv.serveUdp stepped
  | cancel i sent => exact inv.cancel stepped
  | release i =>
      obtain ⟨task, found, stepped⟩ := Option.bind_eq_some_iff.mp stepped
      split_ifs at stepped with both
      cases stepped
      exact inv.giveBack found (by rw [both]; rfl)
  | unbind i =>
      obtain ⟨task, found, stepped⟩ := Option.bind_eq_some_iff.mp stepped
      split_ifs at stepped with bulk
      cases stepped
      exact inv.unbind found
  | drive =>
      simp only [next] at stepped
      split_ifs at stepped with some_
      cases stepped
      have fewer := inv.abandoned
      refine ⟨inv.all, inv.accounted, inv.distinct, inv.queued, ?_, fun quic => ?_⟩
      · simp only
        omega
      · simp [inv.quic quic]
  | close =>
      cases stepped
      exact ⟨inv.all, inv.accounted, inv.distinct, inv.queued, Nat.zero_le _, fun _ => rfl⟩
  | localAddrFails i | poll i | openBi i | opened i ok | receive i | dropSend i | dropRecv i => exact inv.turn stepped

theorem inv_of_reachable (reachable : (system cfg kind).Reachable s) : Inv cfg kind 0 s := by
  refine reachable.invariant (Inv cfg kind 0) ?_ ?_
  · rintro _ rfl
    exact ⟨by simp [init], by simp [init], by simp [init], by simp [init], by simp [init], fun _ => rfl⟩
  · exact fun s event t _ inv stepped => inv.step stepped

end Steps

/-- What a state of the session keeps to. `held` is the streams its tasks hold or wait for; on TCP a request
that a cancelled opening left with the driver comes on top, at most one for each cancelled service. -/
structure Budgeted (cfg : ServerConfig) (kind : TransportKind) (s : State) : Prop where
  held : held s ≤ budget cfg
  quic : kind = .quic → Streams.held s + s.abandoned ≤ budget cfg
  abandoned : s.abandoned ≤ (s.tasks.map gone).sum
  free : s.streams.permits + (s.tasks.map fun task => task.taken - task.returned).sum = budget cfg
  permit : ∀ task ∈ s.tasks, 0 < Stage.stream task.stage → task.taken = 1 ∧ task.returned = 0
  once : ∀ task ∈ s.tasks, task.taken ≤ 1 ∧ task.returned ≤ task.taken
  ended : ∀ task ∈ s.tasks, task.stage = .ended → task.returned = task.taken
  refused : s.streams.permits = 0 → ∀ t, next kind s (.accept true) = some t →
    t.tasks = s.tasks ∧ t.streams = s.streams ∧ t.abandoned = s.abandoned

theorem held_le_permits (s : State) : held s ≤ (s.tasks.map fun task => Stage.permit task.stage).sum :=
  List.sum_le_sum fun task _ => stream_le_permit task.stage

theorem Inv.budgeted {cfg : ServerConfig} {kind : TransportKind} {s : State} (inv : Inv cfg kind 0 s) :
    Budgeted cfg kind s := by
  have all := inv.all
  have within := held_le_permits s
  have permits : (s.tasks.map fun task => task.taken - task.returned) = s.tasks.map fun task => Stage.permit task.stage := by
    apply List.map_congr_left
    intro task member
    have taken := (inv.accounted task member).taken
    omega
  constructor
  case held => omega
  case quic =>
    intro quic
    rw [inv.quic quic]
    omega
  case abandoned => exact inv.abandoned
  case free =>
    rw [permits]
    exact all
  case permit =>
    intro task member stream
    obtain ⟨taken, once⟩ := inv.accounted task member
    have has := stream_le_permit task.stage
    omega
  case once =>
    intro task member
    obtain ⟨taken, once⟩ := inv.accounted task member
    omega
  case ended =>
    intro task member ended
    have taken := (inv.accounted task member).taken
    rw [ended] at taken
    exact taken.symm
  case refused =>
    intro none_left t stepped
    simp only [next, Semaphore.tryAcquire, none_left, lt_irrefl, if_false, if_true] at stepped
    cases stepped
    exact ⟨rfl, rfl, rfl⟩

/-- The budget is what the client has streams for, and at least one where the config is valid; in no run of a
session do its tasks go past it. -/
theorem stream_budget [Ipv6Net] (cfg : ServerConfig) (kind : TransportKind) :
    budget cfg ≤ Transport.Tuning.client.maxStreams.toNat ∧ (cfg.validate = .ok () → 1 ≤ budget cfg) ∧
      ∀ s, (system cfg kind).Reachable s → Budgeted cfg kind s :=
  ⟨budget_le cfg, budget_pos, fun _ reachable => (inv_of_reachable reachable).budgeted⟩

section Example
attribute [local instance] Reload.ipv6Net

def twoStreams : ServerConfig := { ServerConfig.default with limits := ⟨30, 2, 4096⟩ }

/-- An unbind takes the bulk stream's opening back before the driver has come to it, and a visitor has its permit. -/
def unbound : List Event :=
  [.serveUdp, .openBi 0, .unbind 0, .cancel 0 true, .release 0, .accept true, .openBi 1]

theorem unbound_runs : (System.run (next .tcp) (init twoStreams) unbound).map (fun s => (held s, s.abandoned)) =
    some (1, 1) := by
  decide +kernel

theorem stream_budget_two : ∃ s, (system twoStreams .tcp).Reachable s ∧ 1 ≤ budget twoStreams ∧ held s ≤ 1 := by
  obtain ⟨s, reached, figures⟩ := Option.map_eq_some_iff.mp unbound_runs
  have reachable : (system twoStreams .tcp).Reachable s :=
    System.Reachable.run (fun _ _ _ stepped => stepped) (.initial rfl) unbound reached
  obtain ⟨_, positive, bounded⟩ := stream_budget twoStreams .tcp
  exact ⟨s, reachable, positive (by decide +kernel), (bounded s reachable).held⟩

/-- With a budget of one, two streams are being opened. -/
theorem budget_exceeded : ¬ ∀ s, (system twoStreams .tcp).Reachable s → held s + s.abandoned ≤ budget twoStreams := by
  intro within
  obtain ⟨s, reached, figures⟩ := Option.map_eq_some_iff.mp unbound_runs
  have reachable : (system twoStreams .tcp).Reachable s :=
    System.Reachable.run (fun _ _ _ stepped => stepped) (.initial rfl) unbound reached
  obtain ⟨one, other⟩ := Prod.mk.inj figures
  have two := within s reachable
  rw [one, other] at two
  exact absurd two (by decide)

end Example
end Hawse.Proof.Server.Streams
