import Hawse.Lib.Lists
import Hawse.Proof.Server.Admission
import Hawse.Server.Door

/-!
# The accept loop

What a connection has of the server until the policy names its key: one of the slots, and one of
its address's tokens.
-/

namespace Hawse.Proof.Door
open Std (ExtTreeMap)
open Lib Hawse.Server Hawse.Server.Door Hawse.Proof.Server

section Conn

/-- That the peer is where it says it is. -/
def Proved (conn : Conn) : Prop :=
  conn.tcp = true ∨ conn.validated = true ∨ conn.stage ≠ .handshaking ∧ conn.stage ≠ .closed none

structure Sound (conn : Conn) : Prop where
  holds : conn.unproven = (conn.tcp && conn.stage.unknown)
  once : conn.failures ≤ 1
  proved : conn.failures = 1 → Proved conn
  uncharged : (∃ key stranger, conn.stage = .greeting key stranger) ∨ conn.stage = .handshaking ∨
    (∃ key grant agent, conn.stage = .known key grant agent) → conn.failures = 0

end Conn

section Step
variable {setting : Setting} {s t : State}

inductive Stepped (setting : Setting) (s : State) : Event → State → Prop
  | pass (time : Nat) : Stepped setting s (.pass time) { s with now := s.now + time }
  | reload (policy : Policy) : Stepped setting s (.reload policy) { s with policy }
  | cancel : Stepped setting s .cancel { s with cancelled := true }
  | stop : Stepped setting s .stop { s.dropArm with running := false }
  | refused (remote : SocketAddr) (validated : Bool) : Stepped setting s (.incoming remote validated)
      { s.dropArm with limiter := (s.limiter.permits remote.ip s.now).2 }
  | incoming (remote : SocketAddr) (validated : Bool) : Stepped setting s (.incoming remote validated)
      { s.dropArm with
        limiter := (s.limiter.permits remote.ip s.now).2
        conns := s.dropArm.conns ++ [.new false validated remote] }
  | acquire (idle : s.accepting = false) (free : 0 < s.handshakes) (resumed : s.resumeTcp.all (· ≤ s.now) = true) :
      Stepped setting s .acquire { s with accepting := true, handshakes := s.handshakes - 1 }
  | accepted (remote : SocketAddr) (accepting : s.accepting = true) :
      Stepped setting s (.accepted remote) ({ s with resumeTcp := none }.admitConn remote)
  | acceptFailed (errno : Option Int) (accepting : s.accepting = true) : Stepped setting s (.acceptFailed errno)
      { s.dropArm with resumeTcp := if outOfDescriptors errno then some (s.now + acceptBackoff) else s.resumeTcp }
  | failed (event : Event) (i : Nat) (conn : Conn) (reason : Option CloseReason) (stored : s.conns[i]? = some conn)
      (turn : conn.stage = .handshaking ∨ ∃ key, conn.stage = .greeting key true)
      (proved : conn.tcp = true ∨ conn.validated = true ∨ reason ≠ none) : Stepped setting s event (s.fail i conn reason)
  | closed (event : Event) (i : Nat) (conn : Conn) (reason : Option CloseReason) (stored : s.conns[i]? = some conn)
      (turn : conn.stage.unknown = true) (told : reason ≠ none ∨ conn.stage = .handshaking) : Stepped setting s event (s.close i conn reason)
  | keyed (event : Event) (i : Nat) (conn : Conn) (key : PublicKey) (stored : s.conns[i]? = some conn) (turn : conn.stage = .handshaking) :
      Stepped setting s event
        (s.put i { conn with peerKey := some key, stage := .greeting key (s.policy.lookup key).isNone })
  | denied (event : Event) (i : Nat) (conn : Conn) (key : PublicKey) (stranger : Bool) (stored : s.conns[i]? = some conn)
      (turn : conn.stage = .greeting key stranger) (unknown : s.policy.lookup key = none) : Stepped setting s event
        ({ s.authFailed conn.remote.ip with events := s.events ++ [Watched.Event.denied key conn.remote] }.put i
          { conn with stage := .denied key, failures := conn.failures + 1 })
  | known (event : Event) (i : Nat) (conn : Conn) (key : PublicKey) (stranger : Bool) (grant : Grant) (agent : String)
      (stored : s.conns[i]? = some conn) (turn : conn.stage = .greeting key stranger) (granted : s.policy.lookup key = some grant) :
      Stepped setting s event ((s.letGo conn).put i { conn with stage := .known key grant agent, unproven := false })

theorem greet_stepped (event : Event) {i : Nat} {conn : Conn} {key : PublicKey} {stranger : Bool} (stored : s.conns[i]? = some conn)
    (turn : conn.stage = .greeting key stranger) (hello : Option (Option ClientMessage)) :
    Stepped setting s event (s.greet i conn key stranger hello) := by
  have silent (reason : CloseReason) : Stepped setting s event
      (if stranger then s.fail i conn (some reason) else s.close i conn (some reason)) := by
    split_ifs with strange
    · exact .failed event i conn _ stored (.inr ⟨key, strange ▸ turn⟩) (.inr (.inr (by simp)))
    · exact .closed event i conn _ stored (turn ▸ rfl) (.inl (by simp))
  unfold State.greet
  split
  · exact silent .noHello
  · split
    · exact .denied event i conn key stranger stored turn ‹_›
    · exact .known event i conn key stranger _ _ stored turn ‹_›
  · exact silent .badHello

theorem handshake_stepped (event : Event) {i : Nat} {conn : Conn} (stored : s.conns[i]? = some conn)
    (turn : conn.stage = .handshaking) (done : Option (Option PublicKey))
    (stepped : s.step setting (.handshake i done) = some t) : Stepped setting s event t := by
  simp only [State.step, stored, turn, if_true, Option.bind_eq_bind, Option.bind_some] at stepped
  cases done with
  | none =>
      obtain rfl := Option.some.inj stepped
      split_ifs with proved
      · exact .failed event i conn none stored (.inl turn) (proved.imp_right .inl)
      · exact .closed event i conn none stored (turn ▸ rfl) (.inr turn)
  | some peer =>
      cases peer with
      | none =>
          obtain rfl := Option.some.inj stepped
          exact .failed event i conn _ stored (.inl turn) (.inr (.inr (by simp)))
      | some key =>
          obtain rfl := Option.some.inj stepped
          exact .keyed event i conn key stored turn

theorem step_stepped {event : Event} (stepped : s.step setting event = some t) : Stepped setting s event t := by
  cases event with
  | pass time =>
      obtain rfl := Option.some.inj stepped
      exact .pass time
  | reload policy =>
      obtain rfl := Option.some.inj stepped
      exact .reload policy
  | cancel =>
      obtain rfl := Option.some.inj stepped
      exact .cancel
  | stop =>
      simp only [State.step] at stepped
      split_ifs at stepped
      obtain rfl := Option.some.inj stepped
      exact .stop
  | incoming remote validated =>
      simp only [State.step] at stepped
      by_cases running : s.running = true
      · simp only [running, if_true] at stepped
        split_ifs at stepped
        · obtain rfl := Option.some.inj stepped
          exact .refused remote validated
        · obtain rfl := Option.some.inj stepped
          exact .incoming remote validated
      · simp [running] at stepped
  | acquire =>
      simp only [State.step] at stepped
      split_ifs at stepped with ready
      obtain rfl := Option.some.inj stepped
      obtain ⟨-, -, idle, free, resumed⟩ := ready
      exact .acquire (by simpa using idle) free resumed
  | accepted remote =>
      simp only [State.step] at stepped
      split_ifs at stepped with accepting
      obtain rfl := Option.some.inj stepped
      exact .accepted remote accepting
  | acceptFailed errno =>
      by_cases accepting : s.accepting = true
      · simp only [State.step, accepting, if_true, Option.some.injEq] at stepped
        exact stepped ▸ .acceptFailed errno accepting
      · simp [State.step, accepting] at stepped
  | handshake i done =>
      obtain ⟨conn, stored, turned⟩ := Option.bind_eq_some_iff.mp stepped
      by_cases turn : conn.stage = .handshaking
      · exact handshake_stepped _ stored turn done stepped
      · simp [turn] at turned
  | hello i hello =>
      obtain ⟨conn, stored, stepped⟩ := Option.bind_eq_some_iff.mp stepped
      cases turn : conn.stage with
      | greeting key stranger =>
          simp only [turn, Option.some.injEq] at stepped
          exact stepped ▸ greet_stepped _ stored turn hello
      | handshaking | denied | known | closed => simp [turn] at stepped
  | lingered i =>
      obtain ⟨conn, stored, stepped⟩ := Option.bind_eq_some_iff.mp stepped
      cases turn : conn.stage with
      | denied key =>
          simp only [turn, Option.some.injEq] at stepped
          exact stepped ▸ .closed _ i conn _ stored (turn ▸ rfl) (.inl (by simp))
      | handshaking | greeting | known | closed => simp [turn] at stepped
  | shutdown i =>
      obtain ⟨conn, stored, stepped⟩ := Option.bind_eq_some_iff.mp stepped
      cases turn : conn.stage with
      | greeting key stranger =>
          simp only [turn] at stepped
          split_ifs at stepped
          obtain rfl := Option.some.inj stepped
          exact .closed _ i conn _ stored (turn ▸ rfl) (.inl (by simp))
      | handshaking | denied | known | closed => simp [turn] at stepped

end Step

section Limiter
variable {l : Limiter} {now : Nat} {ip : IpAddr}

theorem failed_kept : (l.failed ip now).2.pending = l.pending ∧ (l.failed ip now).2.perMinute = l.perMinute := by
  unfold Limiter.failed
  dsimp only
  split_ifs
  · exact ⟨rfl, rfl⟩
  · exact ⟨rfl, rfl⟩
  · exact ⟨charge_pending (l.sweep now) _, charge_perMinute (l.sweep now) _⟩
  · exact ⟨rfl, rfl⟩
  · exact ⟨charge_pending l _, charge_perMinute l _⟩
  · exact ⟨charge_pending l _, charge_perMinute l _⟩

theorem permits_kept : (l.permits ip now).2.pending = l.pending ∧ (l.permits ip now).2.perMinute = l.perMinute := by
  unfold Limiter.permits
  split_ifs
  · exact ⟨rfl, rfl⟩
  · exact ⟨rfl, rfl⟩

theorem begin_disabled (disabled : l.perMinute = 0) : l.begin ip now = (true, l) := by
  simp [Limiter.begin, Limiter.permits, disabled]

end Limiter

section Inv
variable {setting : Setting} {s : State} {conn next : Conn} {i : Nat}

def heldBy (s : State) (key : IpAddr) : Nat :=
  s.conns.countP fun conn => conn.unproven && Limiter.key conn.remote.ip == key

structure Inv (setting : Setting) (s : State) : Prop where
  rate : s.limiter.perMinute = setting.authFailuresPerMinute
  slots : s.handshakes + s.accepting.toNat + s.conns.countP (·.unproven) = tcpHandshakes
  disabled : setting.authFailuresPerMinute = 0 → s.limiter.pending = ∅
  pending : setting.authFailuresPerMinute ≠ 0 → ∀ key, pendingOf s.limiter key = heldBy s key
  resumed : s.accepting = true → s.resumeTcp.all (· ≤ s.now) = true
  conns : ∀ conn ∈ s.conns, Sound conn

theorem sound_set (sound : ∀ conn ∈ s.conns, Sound conn) (new : Sound next) : ∀ conn ∈ s.conns.set i next, Sound conn := by
  intro conn member
  rcases List.mem_or_eq_of_mem_set member with old | rfl
  · exact sound conn old
  · exact new

theorem Inv.authFailed (inv : Inv setting s) (ip : IpAddr) : Inv setting (s.authFailed ip) where
  rate := failed_kept.2.trans inv.rate
  slots := inv.slots
  disabled off := failed_kept.1.trans (inv.disabled off)
  pending on key := by
    rw [pendingOf, State.authFailed, failed_kept.1]
    exact inv.pending on key
  resumed := inv.resumed
  conns := inv.conns

/-- Of a connection that keeps what it has. -/
theorem Inv.put (inv : Inv setting s) (stored : s.conns[i]? = some conn) (sound : Sound next)
    (remote : next.remote = conn.remote) (kept : next.unproven = conn.unproven) : Inv setting (s.put i next) where
  rate := inv.rate
  slots := by
    have counted := countP_set_add (·.unproven) stored next
    rw [kept, Nat.add_right_cancel_iff] at counted
    rw [State.put, counted]
    exact inv.slots
  disabled := inv.disabled
  pending on key := by
    have counted := countP_set_add (fun conn => conn.unproven && Limiter.key conn.remote.ip == key) stored next
    rw [kept, remote, Nat.add_right_cancel_iff] at counted
    exact (inv.pending on key).trans counted.symm
  resumed := inv.resumed
  conns := sound_set inv.conns sound

theorem letGo_none (held : conn.unproven = false) : s.letGo conn = s := by simp [State.letGo, held]

theorem letGo_some (held : conn.unproven = true) : s.letGo conn =
    { s with limiter := s.limiter.finish conn.remote.ip, handshakes := s.handshakes + 1 } := by
  simp [State.letGo, held]

section Fields
variable (s : State) (conn : Conn)

theorem letGo_conns : (s.letGo conn).conns = s.conns := by
  unfold State.letGo
  split_ifs <;> rfl

theorem letGo_failures : (s.letGo conn).failures = s.failures := by
  unfold State.letGo
  split_ifs <;> rfl

theorem letGo_policy : (s.letGo conn).policy = s.policy := by
  unfold State.letGo
  split_ifs <;> rfl

theorem dropArm_conns : s.dropArm.conns = s.conns := by
  unfold State.dropArm
  split_ifs <;> rfl

theorem dropArm_failures : s.dropArm.failures = s.failures := by
  unfold State.dropArm
  split_ifs <;> rfl

theorem dropArm_policy : s.dropArm.policy = s.policy := by
  unfold State.dropArm
  split_ifs <;> rfl

theorem dropArm_limiter : s.dropArm.limiter = s.limiter := by
  unfold State.dropArm
  split_ifs <;> rfl

theorem dropArm_now : s.dropArm.now = s.now := by
  unfold State.dropArm
  split_ifs <;> rfl

end Fields

/-- Of a connection that lets go of what it has. -/
theorem Inv.release (inv : Inv setting s) (stored : s.conns[i]? = some conn) (sound : Sound next)
    (remote : next.remote = conn.remote) (released : next.unproven = false) : Inv setting ((s.letGo conn).put i next) := by
  cases held : conn.unproven with
  | false =>
      rw [letGo_none held]
      exact inv.put stored sound remote (released.trans held.symm)
  | true =>
      have counted := countP_set_add (·.unproven) stored next
      have own (key : IpAddr) := countP_set_add (fun conn => conn.unproven && Limiter.key conn.remote.ip == key) stored next
      simp only [released, held, Bool.false_and, Bool.true_and, Bool.toNat_true, Bool.toNat_false] at counted own
      rw [letGo_some held]
      refine ⟨finish_perMinute.trans inv.rate, ?_, ?_, ?_, inv.resumed, sound_set inv.conns sound⟩
      · have slots := inv.slots
        simp only [State.put]
        omega
      · intro off
        have none' := inv.disabled off
        simp [State.put, Limiter.finish, none']
      · intro on key
        have some' : 1 ≤ pendingOf s.limiter (Limiter.key conn.remote.ip) := by
          rw [inv.pending on]
          exact List.countP_pos_iff.mpr ⟨conn, List.mem_of_getElem? stored, by simp [held]⟩
        rw [State.put, pendingOf_finish some', inv.pending on]
        have less := own key
        split_ifs with same
        · simp only [same, BEq.rfl, Bool.toNat_true] at less
          exact Nat.sub_eq_of_eq_add less.symm
        · simp only [beq_eq_false_iff_ne.mpr same, Bool.toNat_false] at less
          exact less.symm

theorem Inv.dropArm (inv : Inv setting s) : Inv setting s.dropArm ∧ s.dropArm.accepting = false := by
  unfold State.dropArm
  split_ifs with accepting
  · refine ⟨⟨inv.rate, ?_, inv.disabled, inv.pending, (by simp), inv.conns⟩, rfl⟩
    have slots := inv.slots
    rw [accepting] at slots
    simp only [Bool.toNat_true, Bool.toNat_false] at slots ⊢
    omega
  · exact ⟨inv, Bool.eq_false_iff.mpr accepting⟩

theorem sound_new (tcp validated : Bool) (remote : SocketAddr) : Sound (.new tcp validated remote) where
  holds := by simp [Conn.new, Stage.unknown]
  once := Nat.zero_le 1
  proved failed := by cases failed
  uncharged _ := rfl

theorem sound_append {conns : List Conn} (sound : ∀ conn ∈ conns, Sound conn) (new : Sound next) :
    ∀ conn ∈ conns ++ [next], Sound conn := by
  intro conn member
  rcases List.mem_append.mp member with old | new'
  · exact sound conn old
  · exact List.mem_singleton.mp new' ▸ new

theorem Inv.permits (inv : Inv setting s) (ip : IpAddr) : Inv setting { s with limiter := (s.limiter.permits ip s.now).2 } where
  rate := permits_kept.2.trans inv.rate
  slots := inv.slots
  disabled off := permits_kept.1.trans (inv.disabled off)
  pending on key := by
    rw [pendingOf, permits_kept.1]
    exact inv.pending on key
  resumed := inv.resumed
  conns := inv.conns

theorem Inv.quic (inv : Inv setting s) (validated : Bool) (remote : SocketAddr) :
    Inv setting { s with conns := s.conns ++ [.new false validated remote] } where
  rate := inv.rate
  slots := by
    rw [List.countP_append]
    exact inv.slots
  disabled := inv.disabled
  pending on key := by
    rw [heldBy, List.countP_append]
    exact inv.pending on key
  resumed := inv.resumed
  conns := sound_append inv.conns (sound_new false validated remote)

theorem heldBy_le (s : State) (key : IpAddr) : heldBy s key ≤ s.conns.countP (·.unproven) := by
  refine List.countP_mono_left fun conn _ held => ?_
  exact (Bool.and_eq_true_iff.mp held).1

theorem heldBy_admit (s : State) (remote : SocketAddr) (key : IpAddr) :
    (s.conns ++ [Conn.new true true remote]).countP (fun conn => conn.unproven && Limiter.key conn.remote.ip == key) =
      heldBy s key + if Limiter.key remote.ip = key then 1 else 0 := by
  rw [List.countP_append, List.countP_singleton, heldBy]
  simp [Conn.new]

/-- No count of attempts overflows, for there are no more of them than slots. -/
theorem Inv.begun (inv : Inv setting s) (accepting : s.accepting = true) (remote : SocketAddr)
    (yes : (s.limiter.begin remote.ip s.now).1 = true) : Inv setting { s with
      limiter := (s.limiter.begin remote.ip s.now).2, accepting := false, conns := s.conns ++ [.new true true remote] } := by
  have sound := sound_append inv.conns (sound_new true true remote)
  have slots := inv.slots
  rw [accepting, Bool.toNat_true] at slots
  have filled : s.handshakes + false.toNat + (s.conns ++ [Conn.new true true remote]).countP (·.unproven) = tcpHandshakes := by
    have one : [Conn.new true true remote].countP (·.unproven) = 1 := rfl
    rw [List.countP_append, one, Bool.toNat_false]
    omega
  by_cases on : s.limiter.perMinute = 0
  · rw [begin_disabled on]
    exact ⟨inv.rate, filled, inv.disabled, fun enabled => absurd (inv.rate.symm.trans on) enabled, (by simp), sound⟩
  · obtain ⟨-, eq⟩ := begin_granted on yes
    rw [eq]
    refine ⟨inv.rate, filled, fun off => absurd (inv.rate.trans off) on, fun enabled key => ?_, (by simp), sound⟩
    have own := inv.pending enabled (Limiter.key remote.ip)
    have few : pendingOf s.limiter (Limiter.key remote.ip) + 1 < 2 ^ 32 := by
      have bound := heldBy_le s (Limiter.key remote.ip)
      have capped : tcpHandshakes = 256 := rfl
      omega
    have more : (s.limiter.pending[Limiter.key remote.ip]?.getD 0 + 1).toNat =
        pendingOf s.limiter (Limiter.key remote.ip) + 1 := by
      rw [UInt32.toNat_add]
      exact Nat.mod_eq_of_lt few
    refine (pendingOf_insert _ _ _).trans ?_
    rw [more, heldBy, heldBy_admit, inv.pending enabled, inv.pending enabled]
    split_ifs with same
    · rw [same]
    · rfl

theorem Inv.admitConn (inv : Inv setting s) (accepting : s.accepting = true) (remote : SocketAddr) :
    Inv setting (s.admitConn remote) := by
  unfold State.admitConn
  cases begun : (s.limiter.begin remote.ip s.now).1 with
  | true =>
      simp only [begun, if_true]
      exact inv.begun accepting remote begun
  | false =>
      have on : s.limiter.perMinute ≠ 0 := by
        intro off
        rw [begin_disabled off] at begun
        cases begun
      have slots := inv.slots
      rw [accepting, Bool.toNat_true] at slots
      simp only [begun, Bool.false_eq_true, if_false]
      rw [begin_refused on begun]
      exact ⟨inv.rate, slots, inv.disabled, inv.pending, (by simp), inv.conns⟩

/-! What each end of a task, and each turn before it, makes of a connection. -/

theorem sound_closed (sound : Sound conn) {reason : Option CloseReason} (proved : reason ≠ none ∨ conn.failures = 0) :
    Sound { conn with stage := .closed reason, unproven := false } where
  holds := (Bool.and_false _).symm
  once := sound.once
  proved failed := by
    rcases proved with reason | uncharged
    · exact .inr (.inr ⟨by simp, by simpa using reason⟩)
    · cases uncharged.symm.trans failed
  uncharged stage := by
    rcases stage with ⟨_, _, stage⟩ | stage | ⟨_, _, _, stage⟩ <;> cases stage

theorem sound_failed (uncharged : conn.failures = 0) {reason : Option CloseReason}
    (proved : conn.tcp = true ∨ conn.validated = true ∨ reason ≠ none) :
    Sound { conn with failures := conn.failures + 1, stage := .closed reason, unproven := false } where
  holds := (Bool.and_false _).symm
  once := by simp [uncharged]
  proved _ := proved.imp_right (Or.imp_right fun reason => ⟨by simp, by simpa using reason⟩)
  uncharged stage := by
    rcases stage with ⟨_, _, stage⟩ | stage | ⟨_, _, _, stage⟩ <;> cases stage

theorem sound_greeting (sound : Sound conn) (stage : conn.stage = .handshaking) (key : PublicKey) (stranger : Bool) :
    Sound { conn with peerKey := some key, stage := .greeting key stranger } where
  holds := by
    rw [sound.holds, stage]
    rfl
  once := sound.once
  proved failed := by
    have uncharged := sound.uncharged (.inr (.inl stage))
    cases uncharged.symm.trans failed
  uncharged _ := sound.uncharged (.inr (.inl stage))

theorem sound_denied (sound : Sound conn) {key : PublicKey} {stranger : Bool} (stage : conn.stage = .greeting key stranger) :
    Sound { conn with stage := .denied key, failures := conn.failures + 1 } where
  holds := by
    rw [sound.holds, stage]
    rfl
  once := by simp [sound.uncharged (.inl ⟨_, _, stage⟩)]
  proved _ := .inr (.inr ⟨by simp, by simp⟩)
  uncharged other := by
    rcases other with ⟨_, _, other⟩ | other | ⟨_, _, _, other⟩ <;> cases other

theorem sound_known (sound : Sound conn) {key : PublicKey} {stranger : Bool} (stage : conn.stage = .greeting key stranger)
    (grant : Grant) (agent : String) : Sound { conn with stage := .known key grant agent, unproven := false } where
  holds := (Bool.and_false _).symm
  once := sound.once
  proved _ := .inr (.inr ⟨by simp, by simp⟩)
  uncharged _ := sound.uncharged (.inl ⟨_, _, stage⟩)

theorem Inv.close (inv : Inv setting s) (stored : s.conns[i]? = some conn) {reason : Option CloseReason}
    (proved : reason ≠ none ∨ conn.failures = 0) : Inv setting (s.close i conn reason) :=
  inv.release stored (sound_closed (inv.conns conn (List.mem_of_getElem? stored)) proved) rfl rfl

theorem Inv.fail (inv : Inv setting s) (stored : s.conns[i]? = some conn) (uncharged : conn.failures = 0)
    {reason : Option CloseReason} (proved : conn.tcp = true ∨ conn.validated = true ∨ reason ≠ none) :
    Inv setting (s.fail i conn reason) := by
  have kept : (s.authFailed conn.remote.ip).conns[i]? = some conn := stored
  have released := (inv.authFailed conn.remote.ip).release kept (sound_failed uncharged proved) rfl rfl
  exact released

theorem Inv.step (inv : Inv setting s) {event : Event} {t : State} (stepped : Stepped setting s event t) : Inv setting t := by
  have own {i : Nat} {conn : Conn} (stored : s.conns[i]? = some conn) := inv.conns conn (List.mem_of_getElem? stored)
  obtain ⟨dropped, idle⟩ := inv.dropArm
  have permits (ip : IpAddr) : s.dropArm.limiter.permits ip s.dropArm.now = s.limiter.permits ip s.now := by
    rw [dropArm_limiter, dropArm_now]
  cases stepped with
  | pass time =>
      refine ⟨inv.rate, inv.slots, inv.disabled, inv.pending, fun accepting => ?_, inv.conns⟩
      have resumed := inv.resumed accepting
      rw [Option.all_eq_true] at resumed ⊢
      intro at' paused
      have past := of_decide_eq_true (resumed at' paused)
      exact decide_eq_true (past.trans (Nat.le_add_right _ _))
  | reload | cancel => exact ⟨inv.rate, inv.slots, inv.disabled, inv.pending, inv.resumed, inv.conns⟩
  | stop => exact ⟨dropped.rate, dropped.slots, dropped.disabled, dropped.pending, dropped.resumed, dropped.conns⟩
  | acceptFailed errno =>
      refine ⟨dropped.rate, dropped.slots, dropped.disabled, dropped.pending, fun again => ?_, dropped.conns⟩
      cases idle.symm.trans again
  | refused remote validated =>
      rw [← permits]
      exact dropped.permits remote.ip
  | incoming remote validated =>
      rw [← permits]
      exact (dropped.permits remote.ip).quic validated remote
  | acquire idle free resumed =>
      refine ⟨inv.rate, ?_, inv.disabled, inv.pending, fun _ => resumed, inv.conns⟩
      have slots := inv.slots
      rw [idle, Bool.toNat_false] at slots
      change s.handshakes - 1 + 1 + s.conns.countP (·.unproven) = tcpHandshakes
      omega
  | accepted remote accepting =>
      have resumed : Inv setting { s with resumeTcp := none } :=
        ⟨inv.rate, inv.slots, inv.disabled, inv.pending, fun _ => rfl, inv.conns⟩
      exact resumed.admitConn accepting remote
  | failed _ i conn reason stored turn proved =>
      exact inv.fail stored ((own stored).uncharged (turn.elim (.inr ∘ .inl) fun greeting => .inl ⟨_, _, greeting.choose_spec⟩)) proved
  | closed _ i conn reason stored turn told =>
      exact inv.close stored (told.imp_right fun turn => (own stored).uncharged (.inr (.inl turn)))
  | keyed _ i conn key stored turn => exact inv.put stored (sound_greeting (own stored) turn key _) rfl rfl
  | denied _ i conn key stranger stored turn unknown =>
      have kept : (s.authFailed conn.remote.ip).conns[i]? = some conn := stored
      have put := (inv.authFailed conn.remote.ip).put kept (sound_denied (own stored) turn) rfl rfl
      exact ⟨put.rate, put.slots, put.disabled, put.pending, put.resumed, put.conns⟩
  | known _ i conn key stranger grant agent stored turn granted =>
      exact inv.release stored (sound_known (own stored) turn grant agent) rfl rfl

theorem inv_start (now : Nat) : Inv setting (.start setting now) where
  rate := rfl
  slots := rfl
  disabled _ := rfl
  pending _ key := by simp [State.start, Limiter.new, pendingOf, heldBy]
  resumed _ := rfl
  conns conn member := by cases member

theorem reachable_inv (reachable : (door setting).Reachable s) : Inv setting s := by
  refine reachable.invariant (Inv setting) ?_ fun _ _ _ _ inv stepped => inv.step (step_stepped stepped)
  rintro _ ⟨now, rfl⟩
  exact inv_start now

end Inv

/-! ## What a failure is charged to -/

section Charged
variable {setting : Setting} {s t : State} {conn next : Conn} {i : Nat} {event : Event}

def Charged (s : State) : Prop :=
  ∀ ip, s.failures.countP (·.1 = ip) = s.conns.countP fun conn => conn.failures = 1 ∧ conn.remote.ip = ip

theorem Charged.put (charged : Charged s) (stored : s.conns[i]? = some conn) (remote : next.remote = conn.remote)
    (failures : next.failures = conn.failures) (ip : IpAddr) : s.failures.countP (·.1 = ip) =
      (s.conns.set i next).countP fun conn => conn.failures = 1 ∧ conn.remote.ip = ip := by
  have counted := countP_set_add (fun conn : Conn => decide (conn.failures = 1 ∧ conn.remote.ip = ip)) stored next
  simp only [remote, failures, Nat.add_right_cancel_iff] at counted
  rw [counted]
  exact charged ip

theorem Charged.fail (charged : Charged s) (stored : s.conns[i]? = some conn) (remote : next.remote = conn.remote)
    (uncharged : conn.failures = 0) (failures : next.failures = 1) (ip : IpAddr) :
    ((conn.remote.ip, s.now) :: s.failures).countP (·.1 = ip) =
      (s.conns.set i next).countP fun conn => conn.failures = 1 ∧ conn.remote.ip = ip := by
  have counted := countP_set_add (fun conn : Conn => decide (conn.failures = 1 ∧ conn.remote.ip = ip)) stored next
  rw [List.countP_cons, charged ip]
  by_cases same : conn.remote.ip = ip
  · simpa [same, remote, failures, uncharged] using counted.symm
  · simpa [same, remote, failures, uncharged] using counted.symm

theorem Charged.new (charged : Charged s) (tcp validated : Bool) (remote : SocketAddr) (ip : IpAddr) :
    s.failures.countP (·.1 = ip) = (s.conns ++ [Conn.new tcp validated remote]).countP fun conn =>
      conn.failures = 1 ∧ conn.remote.ip = ip := by
  rw [List.countP_append, List.countP_singleton, if_neg (by simp [Conn.new])]
  exact charged ip

theorem charged_step (inv : Inv setting s) (charged : Charged s) (stepped : Stepped setting s event t) : Charged t := by
  have own {i : Nat} {conn : Conn} (stored : s.conns[i]? = some conn) := inv.conns conn (List.mem_of_getElem? stored)
  cases stepped with
  | pass | reload | cancel | acquire => exact charged
  | stop | acceptFailed | refused =>
      intro ip
      simp only [dropArm_failures, dropArm_conns]
      exact charged ip
  | incoming remote validated =>
      intro ip
      simp only [dropArm_failures, dropArm_conns]
      exact charged.new false validated remote ip
  | accepted remote accepting =>
      unfold State.admitConn
      dsimp only
      split_ifs
      · exact charged.new true true remote
      · exact charged
  | failed _ i conn reason stored turn proved =>
      have uncharged := (own stored).uncharged (turn.elim (.inr ∘ .inl) fun greeting => .inl ⟨_, _, greeting.choose_spec⟩)
      intro ip
      simp only [State.fail, State.close, State.put, letGo_conns, letGo_failures]
      exact charged.fail stored (by rfl) uncharged (by simp [uncharged]) ip
  | closed _ i conn reason stored =>
      intro ip
      simp only [State.close, State.put, letGo_conns, letGo_failures]
      exact charged.put stored (by rfl) (by rfl) ip
  | keyed _ i conn key stored => exact charged.put stored (by rfl) (by rfl)
  | denied _ i conn key stranger stored turn =>
      have uncharged := (own stored).uncharged (.inl ⟨_, _, turn⟩)
      exact charged.fail stored (by rfl) uncharged (by simp [uncharged])
  | known _ i conn key stranger grant agent stored =>
      intro ip
      simp only [State.put, letGo_conns, letGo_failures]
      exact charged.put stored (by rfl) (by rfl) ip

theorem reachable_charged (reachable : (door setting).Reachable s) : Charged s := by
  refine reachable.invariant Charged ?_ fun s event t before charged stepped =>
    charged_step (reachable_inv before) charged (step_stepped stepped)
  rintro _ ⟨now, rfl⟩ ip
  rfl

end Charged

/-! ## A client the policy names all along -/

section Named
variable {setting : Setting} {s t : State} {conn next : Conn} {i : Nat} {event : Event} {key : PublicKey}

def Names (key : PublicKey) (_ : State) : Event → Prop
  | .reload policy => policy.lookup key ≠ none
  | _ => True

structure Innocent (key : PublicKey) (conn : Conn) : Prop where
  early : conn.stage = .handshaking → conn.peerKey = none
  greeting : ∀ peer stranger, conn.stage = .greeting peer stranger → conn.peerKey = some peer ∧ (peer = key → stranger = false)
  uncharged : conn.peerKey = some key → conn.failures = 0

theorem innocent_set (innocent : ∀ conn ∈ s.conns, Innocent key conn) (new : Innocent key next) :
    ∀ conn ∈ s.conns.set i next, Innocent key conn := by
  intro conn member
  rcases List.mem_or_eq_of_mem_set member with old | rfl
  · exact innocent conn old
  · exact new

theorem innocent_append (innocent : ∀ conn ∈ s.conns, Innocent key conn) (tcp validated : Bool) (remote : SocketAddr) :
    ∀ conn ∈ s.conns ++ [Conn.new tcp validated remote], Innocent key conn := by
  intro conn member
  rcases List.mem_append.mp member with old | new
  · exact innocent conn old
  · obtain rfl := List.mem_singleton.mp new
    exact ⟨fun _ => rfl, (fun _ _ stage => by cases stage), fun _ => rfl⟩

theorem innocent_step (inv : Inv setting s) (named : s.policy.lookup key ≠ none) (innocent : ∀ conn ∈ s.conns, Innocent key conn)
    (names : Names key s event) (stepped : Stepped setting s event t) :
    t.policy.lookup key ≠ none ∧ ∀ conn ∈ t.conns, Innocent key conn := by
  have own {i : Nat} {conn : Conn} (stored : s.conns[i]? = some conn) := innocent conn (List.mem_of_getElem? stored)
  cases stepped with
  | pass | cancel | acquire => exact ⟨named, innocent⟩
  | reload policy => exact ⟨names, innocent⟩
  | stop | acceptFailed | refused =>
      simp only [dropArm_policy, dropArm_conns]
      exact ⟨named, innocent⟩
  | incoming remote validated =>
      simp only [dropArm_policy, dropArm_conns]
      exact ⟨named, innocent_append innocent false validated remote⟩
  | accepted remote accepting =>
      unfold State.admitConn
      dsimp only
      split_ifs
      · exact ⟨named, innocent_append innocent true true remote⟩
      · exact ⟨named, innocent⟩
  | failed _ i conn reason stored turn proved =>
      simp only [State.fail, State.close, State.put, letGo_conns, letGo_policy]
      refine ⟨named, innocent_set innocent ⟨(fun stage => by cases stage), (fun _ _ stage => by cases stage), fun same => ?_⟩⟩
      rcases turn with early | ⟨peer, greeting⟩
      · cases ((own stored).early early).symm.trans same
      · obtain ⟨held, stranger⟩ := (own stored).greeting peer true greeting
        cases stranger (Option.some.inj (held.symm.trans same))
  | closed _ i conn reason stored =>
      simp only [State.close, State.put, letGo_conns, letGo_policy]
      exact ⟨named, innocent_set innocent ⟨(fun stage => by cases stage), (fun _ _ stage => by cases stage), (own stored).uncharged⟩⟩
  | keyed _ i conn peer stored turn =>
      have uncharged := (inv.conns conn (List.mem_of_getElem? stored)).uncharged (.inr (.inl turn))
      refine ⟨named, innocent_set innocent ⟨(fun stage => by cases stage), fun other stranger stage => ?_, fun _ => uncharged⟩⟩
      obtain ⟨rfl, rfl⟩ := Stage.greeting.inj stage
      refine ⟨rfl, ?_⟩
      rintro rfl
      exact Option.isNone_eq_false_iff.mpr (Option.isSome_iff_ne_none.mpr named)
  | denied _ i conn peer stranger stored turn unknown =>
      refine ⟨named, innocent_set innocent ⟨(fun stage => by cases stage), (fun _ _ stage => by cases stage), fun same => ?_⟩⟩
      have held := ((own stored).greeting peer stranger turn).1
      obtain rfl := Option.some.inj (held.symm.trans same)
      exact absurd unknown named
  | known _ i conn peer stranger grant agent stored turn =>
      simp only [State.put, letGo_conns, letGo_policy]
      exact ⟨named, innocent_set innocent ⟨(fun stage => by cases stage), (fun _ _ stage => by cases stage), (own stored).uncharged⟩⟩

theorem reachable_innocent (named : setting.policy.lookup key ≠ none)
    (reachable : ((door setting).restrict (Names key)).Reachable s) : ∀ conn ∈ s.conns, Innocent key conn := by
  refine (reachable.invariant (fun s => s.policy.lookup key ≠ none ∧ ∀ conn ∈ s.conns, Innocent key conn) ?_ ?_).2
  · rintro _ ⟨now, rfl⟩
    exact ⟨named, fun conn member => by cases member⟩
  · rintro s event t before ⟨named, innocent⟩ ⟨names, stepped⟩
    exact innocent_step (reachable_inv before.of_restrict) named innocent names (step_stepped stepped)

end Named

/-- However connections come, fail and go over both transports, what a peer the policy has not named
yet costs is bounded and given back: a slot and a token of its address at a time, and one failure,
charged to an address it was proved to have and never to one that has a client's key. -/
theorem strangers_bounded (setting : Setting) {s : State} (reachable : (door setting).Reachable s) :
    s.handshakes + s.accepting.toNat + (s.conns.countP fun conn => conn.tcp && conn.stage.unknown) = tcpHandshakes ∧
    (setting.authFailuresPerMinute ≠ 0 → ∀ key, pendingOf s.limiter key =
      s.conns.countP fun conn => conn.tcp && conn.stage.unknown && Limiter.key conn.remote.ip == key) ∧
    (∀ ip, s.failures.countP (·.1 = ip) = s.conns.countP fun conn => conn.failures = 1 ∧ conn.remote.ip = ip) ∧
    (∀ conn ∈ s.conns, conn.failures = 0 ∨ conn.failures = 1 ∧ Proved conn) ∧
    ∀ key, setting.policy.lookup key ≠ none → ((door setting).restrict (Names key)).Reachable s →
      ∀ conn ∈ s.conns, conn.peerKey = some key → conn.failures = 0 := by
  have inv := reachable_inv reachable
  refine ⟨?_, ?_, reachable_charged reachable, ?_, ?_⟩
  · rw [← inv.slots]
    congr 1
    exact List.countP_congr fun conn member => by rw [(inv.conns conn member).holds]
  · intro on key
    rw [inv.pending on, heldBy]
    exact List.countP_congr fun conn member => by rw [(inv.conns conn member).holds]
  · intro conn member
    have sound := inv.conns conn member
    rcases Nat.le_one_iff_eq_zero_or_eq_one.mp sound.once with none' | one
    · exact .inl none'
    · exact .inr ⟨one, sound.proved one⟩
  · intro key named kept conn member
    exact (reachable_innocent named kept conn member).uncharged

/-! ## The loop as the limiter's desk -/

section Desk
variable {setting : Setting} {s t : State} {d : Desk} {conn next : Conn} {i : Nat} {event : Event}

/-- No connection over QUIC fails, and no failure finds the table full. -/
def Tracked (setting : Setting) (s : State) (event : Event) : Prop :=
  ∀ t, s.step setting event = some t → ∀ (i : Nat) (conn next : Conn), s.conns[i]? = some conn → t.conns[i]? = some next →
    next.failures ≠ conn.failures → conn.tcp = true ∧ (s.limiter.failed conn.remote.ip s.now).1 ≠ .untracked

def attempt (conn : Conn) : Option Attempt :=
  if conn.unproven then some ⟨conn.remote.ip, decide (conn.failures = 1)⟩ else none

structure Sim (s : State) (d : Desk) : Prop where
  limiter : d.limiter = s.limiter
  now : d.now ≤ s.now
  attempts : d.attempts.Perm (s.conns.filterMap attempt)
  charges : d.charges = s.failures.map fun failure => (Limiter.key failure.1, failure.2)

theorem attempts_set (stored : s.conns[i]? = some conn) (next : Conn) : ∃ rest,
    (s.conns.filterMap attempt).Perm ((attempt conn).toList ++ rest) ∧
      ((s.conns.set i next).filterMap attempt).Perm ((attempt next).toList ++ rest) := by
  obtain ⟨bound, rfl⟩ := List.getElem?_eq_some_iff.mp stored
  have split (conn : Conn) (rest : List Conn) : (conn :: rest).filterMap attempt = (attempt conn).toList ++ rest.filterMap attempt := by
    rw [List.filterMap_cons]
    cases attempt conn <;> rfl
  refine ⟨(s.conns.eraseIdx i).filterMap attempt, ?_, ?_⟩
  · rw [← split]
    exact (List.getElem_cons_eraseIdx_perm bound).symm.filterMap attempt
  · rw [← split]
    exact (List.set_perm_cons_eraseIdx bound next).filterMap attempt

theorem desk_finish {held : Attempt} {rest : List Attempt} (reached : (desk setting.authFailuresPerMinute).Reachable d)
    (attempts : d.attempts.Perm (held :: rest)) : ∃ e, (desk setting.authFailuresPerMinute).Reachable e ∧
      e.limiter = d.limiter.finish held.ip ∧ e.now = d.now ∧ e.attempts.Perm rest ∧ e.charges = d.charges := by
  obtain ⟨before, after, split⟩ := List.append_of_mem (attempts.mem_iff.mpr List.mem_cons_self)
  refine ⟨_, reached.next (Desk.Step.finish before after split), rfl, rfl, ?_, rfl⟩
  rw [split] at attempts
  exact (List.perm_middle.symm.trans attempts).cons_inv

theorem desk_failed {ip : IpAddr} {rest : List Attempt} (reached : (desk setting.authFailuresPerMinute).Reachable d)
    (attempts : d.attempts.Perm (⟨ip, false⟩ :: rest)) (now : Nat) (le : d.now ≤ now)
    (tracked : (d.limiter.failed ip now).1 ≠ .untracked) : ∃ e, (desk setting.authFailuresPerMinute).Reachable e ∧
      e.limiter = (d.limiter.failed ip now).2 ∧ e.now = now ∧ e.attempts.Perm (⟨ip, true⟩ :: rest) ∧
      e.charges = (Limiter.key ip, now) :: d.charges := by
  obtain ⟨before, after, split⟩ := List.append_of_mem (attempts.mem_iff.mpr List.mem_cons_self)
  refine ⟨_, reached.next (Desk.Step.failed now before after le split tracked), rfl, rfl, ?_, rfl⟩
  rw [split] at attempts
  exact List.perm_middle.trans ((List.perm_middle.symm.trans attempts).cons_inv.cons _)

theorem Sim.same (sim : Sim s d) (limiter : t.limiter = s.limiter) (now : s.now ≤ t.now)
    (conns : (t.conns.filterMap attempt).Perm (s.conns.filterMap attempt)) (failures : t.failures = s.failures) : Sim t d where
  limiter := sim.limiter.trans limiter.symm
  now := sim.now.trans now
  attempts := sim.attempts.trans conns.symm
  charges := sim.charges.trans (by rw [failures])

theorem attempts_kept (stored : s.conns[i]? = some conn) (kept : attempt next = attempt conn) :
    ((s.conns.set i next).filterMap attempt).Perm (s.conns.filterMap attempt) := by
  obtain ⟨rest, before, after⟩ := attempts_set stored next
  rw [kept] at after
  exact after.trans before.symm

/-- Of a connection that lets go of what it has, if it has anything. -/
theorem sim_release (sim : Sim s d) (reached : (desk setting.authFailuresPerMinute).Reachable d)
    (stored : s.conns[i]? = some conn) (released : next.unproven = false) :
    ∃ e, (desk setting.authFailuresPerMinute).Reachable e ∧ Sim ((s.letGo conn).put i next) e := by
  have gone : attempt next = none := by simp [attempt, released]
  cases held : conn.unproven with
  | false =>
      have nothing : attempt conn = none := by simp [attempt, held]
      rw [letGo_none held]
      exact ⟨d, reached, sim.same rfl le_rfl (attempts_kept stored (gone.trans nothing.symm)) rfl⟩
  | true =>
      obtain ⟨rest, before, after⟩ := attempts_set stored next
      have own : attempt conn = some ⟨conn.remote.ip, decide (conn.failures = 1)⟩ := by simp [attempt, held]
      rw [own] at before
      rw [gone] at after
      obtain ⟨e, arrived, limiter, now, attempts, charges⟩ := desk_finish reached (sim.attempts.trans before)
      rw [letGo_some held]
      refine ⟨e, arrived, ?_, now.trans_le sim.now, attempts.trans after.symm, charges.trans sim.charges⟩
      rw [limiter, sim.limiter]
      rfl

/-- Of a connection with nothing charged to it yet, which has its `Unproven`. -/
theorem sim_failed (sim : Sim s d) (reached : (desk setting.authFailuresPerMinute).Reachable d)
    (stored : s.conns[i]? = some conn) (held : conn.unproven = true) (uncharged : conn.failures = 0)
    (tracked : (s.limiter.failed conn.remote.ip s.now).1 ≠ .untracked)
    (marked : attempt next = some ⟨conn.remote.ip, true⟩) :
    ∃ e, (desk setting.authFailuresPerMinute).Reachable e ∧ Sim ((s.authFailed conn.remote.ip).put i next) e := by
  obtain ⟨rest, before, after⟩ := attempts_set stored next
  have own : attempt conn = some ⟨conn.remote.ip, false⟩ := by simp [attempt, held, uncharged]
  rw [own] at before
  rw [marked] at after
  obtain ⟨e, arrived, limiter, now, attempts, charges⟩ :=
    desk_failed reached (sim.attempts.trans before) s.now sim.now (sim.limiter ▸ tracked)
  refine ⟨e, arrived, ?_, now.le, attempts.trans after.symm, ?_⟩
  · rw [limiter, sim.limiter]
    rfl
  · rw [charges, sim.charges]
    rfl

theorem sim_permits (sim : Sim s d) (reached : (desk setting.authFailuresPerMinute).Reachable d) (ip : IpAddr) :
    ∃ e, (desk setting.authFailuresPerMinute).Reachable e ∧
      Sim { s.dropArm with limiter := (s.limiter.permits ip s.now).2 } e := by
  refine ⟨_, reached.next (Desk.Step.permits s.now ip sim.now), ?_, (dropArm_now s).ge, ?_, ?_⟩
  · rw [sim.limiter]
  · rw [dropArm_conns]
    exact sim.attempts
  · rw [dropArm_failures]
    exact sim.charges

theorem sim_admit (sim : Sim s d) (reached : (desk setting.authFailuresPerMinute).Reachable d) (remote : SocketAddr) :
    ∃ e, (desk setting.authFailuresPerMinute).Reachable e ∧ Sim (s.admitConn remote) e := by
  unfold State.admitConn
  cases begun : (s.limiter.begin remote.ip s.now).1 with
  | true =>
      simp only [begun, if_true]
      refine ⟨_, reached.next (Desk.Step.begun s.now remote.ip sim.now (sim.limiter ▸ begun)), ?_, le_rfl, ?_, sim.charges⟩
      · rw [sim.limiter]
      · rw [List.filterMap_append]
        exact (sim.attempts.cons _).trans (List.perm_append_singleton _ _).symm
  | false =>
      simp only [begun, Bool.false_eq_true, if_false]
      refine ⟨_, reached.next (Desk.Step.refused s.now remote.ip sim.now (sim.limiter ▸ begun)), ?_, le_rfl, sim.attempts, sim.charges⟩
      rw [sim.limiter]

theorem sim_step (inv : Inv setting s) (sim : Sim s d) (reached : (desk setting.authFailuresPerMinute).Reachable d)
    (tracked : Tracked setting s event) (acted : s.step setting event = some t) :
    ∃ e, (desk setting.authFailuresPerMinute).Reachable e ∧ Sim t e := by
  have own {i : Nat} {conn : Conn} (stored : s.conns[i]? = some conn) := inv.conns conn (List.mem_of_getElem? stored)
  cases step_stepped acted with
  | pass time => exact ⟨d, reached, sim.same rfl (Nat.le_add_right _ _) (.refl _) rfl⟩
  | reload | cancel | acquire => exact ⟨d, reached, sim.same rfl le_rfl (.refl _) rfl⟩
  | stop | acceptFailed =>
      refine ⟨d, reached, sim.same (dropArm_limiter s) (dropArm_now s).ge ?_ (dropArm_failures s)⟩
      rw [dropArm_conns]
  | refused remote validated => exact sim_permits sim reached remote.ip
  | incoming remote validated =>
      obtain ⟨e, arrived, sim⟩ := sim_permits sim reached remote.ip
      refine ⟨e, arrived, sim.same rfl le_rfl ?_ rfl⟩
      rw [List.filterMap_append]
      exact .of_eq (List.append_nil _)
  | accepted remote accepting =>
      have resumed : Sim { s with resumeTcp := none } d := sim.same rfl le_rfl (.refl _) rfl
      exact sim_admit resumed reached remote
  | failed _ i conn reason stored turn proved =>
      have bound := (List.getElem?_eq_some_iff.mp stored).1
      have unknown : conn.stage.unknown = true := by
        rcases turn with early | ⟨key, greeting⟩
        · rw [early]
          rfl
        · rw [greeting]
          rfl
      have uncharged := (own stored).uncharged (turn.elim (.inr ∘ .inl) fun greeting => .inl ⟨_, _, greeting.choose_spec⟩)
      have placed : (s.fail i conn reason).conns[i]? =
          some { conn with failures := conn.failures + 1, stage := .closed reason, unproven := false } := by
        rw [State.fail, State.close, State.put, letGo_conns]
        exact List.getElem?_set_self bound
      obtain ⟨tcp, counted⟩ := tracked _ acted i conn _ stored placed (Nat.succ_ne_self _)
      have held : conn.unproven = true := by
        rw [(own stored).holds, tcp, unknown]
        rfl
      let charged : Conn := { conn with failures := conn.failures + 1 }
      let ended : Conn := { charged with stage := .closed reason, unproven := false }
      have holding : charged.unproven = true := held
      have marked : attempt charged = some ⟨conn.remote.ip, true⟩ := by simp [attempt, charged, held, uncharged]
      have gone : ended.unproven = false := rfl
      obtain ⟨e, arrived, failed⟩ := sim_failed sim reached stored held uncharged counted marked
      obtain ⟨e, arrived, released⟩ := sim_release failed arrived (List.getElem?_set_self bound) gone
      have same : (((s.authFailed conn.remote.ip).put i charged).letGo charged).put i ended = s.fail i conn reason := by
        rw [State.fail, State.close, letGo_some holding, letGo_some holding]
        simp [State.put, charged, ended]
      exact ⟨e, arrived, same ▸ released⟩
  | closed _ i conn reason stored => exact sim_release sim reached stored rfl
  | keyed _ i conn peer stored turn =>
      exact ⟨d, reached, sim.same rfl le_rfl (attempts_kept stored (by rfl)) rfl⟩
  | denied _ i conn peer stranger stored turn unknown =>
      have bound := (List.getElem?_eq_some_iff.mp stored).1
      have uncharged := (own stored).uncharged (.inl ⟨_, _, turn⟩)
      obtain ⟨tcp, counted⟩ := tracked _ acted i conn _ stored (List.getElem?_set_self bound) (Nat.succ_ne_self _)
      have held : conn.unproven = true := by
        rw [(own stored).holds, tcp, turn]
        rfl
      have marked : attempt { conn with stage := .denied peer, failures := conn.failures + 1 } = some ⟨conn.remote.ip, true⟩ := by
        simp [attempt, held, uncharged]
      obtain ⟨e, arrived, failed⟩ := sim_failed sim reached stored held uncharged counted marked
      exact ⟨e, arrived, failed.same rfl le_rfl (.refl _) rfl⟩
  | known _ i conn peer stranger grant agent stored turn => exact sim_release sim reached stored rfl

theorem reachable_desk (reachable : ((door setting).restrict (Tracked setting)).Reachable s) :
    ∃ d, (desk setting.authFailuresPerMinute).Reachable d ∧ Inv setting s ∧ Sim s d := by
  refine reachable.simulated (fun s d => Inv setting s ∧ Sim s d) ?_ ?_
  · rintro _ ⟨now, rfl⟩
    exact ⟨_, ⟨now, rfl⟩, inv_start now, rfl, le_rfl, .refl _, rfl⟩
  · rintro s event t d ⟨tracked, acted⟩ ⟨inv, sim⟩ reached
    obtain ⟨e, arrived, sim⟩ := sim_step inv sim reached tracked acted
    exact ⟨e, arrived, inv.step (step_stepped acted), sim⟩

end Desk

/-- What the limiter promises of one desk it keeps for the whole loop, with up to as many connections
of one address under way at once as there are slots. -/
theorem tcp_failures_bounded (setting : Setting) (enabled : 0 < setting.authFailuresPerMinute) {s : State}
    (reachable : ((door setting).restrict (Tracked setting)).Reachable s) (key : IpAddr) (start duration : Nat) :
    (s.failures.countP fun failure => Limiter.key failure.1 = key ∧ start ≤ failure.2 ∧ failure.2 ≤ start + duration : ℚ) ≤
      setting.authFailuresPerMinute.toNat + setting.authFailuresPerMinute.toNat * Limiter.asSecs duration / 60 := by
  have on : setting.authFailuresPerMinute ≠ 0 := by
    intro off
    rw [off] at enabled
    cases enabled
  obtain ⟨d, reached, -, sim⟩ := reachable_desk reachable
  have bound := spent_after (Hawse.Proof.Server.reachable_inv on reached) (reachable_spent on key start (start + duration) reached)
  rw [Nat.add_sub_cancel_left, Desk.chargesIn, sim.charges, List.countP_map] at bound
  exact bound

section Example

def openDoor : Setting := ⟨false, true, ⟨∅⟩, 2⟩

def stranger : IpAddr := .v4 0xc0000201#32

/-- Two connections of one stranger, of which one never says hello. -/
def knocks : List Event :=
  [.acquire, .accepted ⟨stranger, 40000⟩, .acquire, .accepted ⟨stranger, 40001⟩, .pass 1000,
    .handshake 0 (some (some (Vector.replicate 32 7))), .hello 0 none]

def tcpStep (s : State) (event : Event) : Option State :=
  if s.conns.all (·.tcp) ∧ s.limiter.buckets.size < Limiter.maxTracked then s.step openDoor event else none

theorem failed_tracked {l : Limiter} (room : l.buckets.size < Limiter.maxTracked) (ip : IpAddr) (now : Nat) :
    (l.failed ip now).1 ≠ .untracked := by
  have roomy : ¬ (Limiter.key ip ∉ l.buckets ∧ Limiter.maxTracked ≤ l.buckets.size) := fun full => absurd full.2 (not_le.mpr room)
  unfold Limiter.failed
  dsimp only
  rw [if_neg roomy]
  unfold Limiter.charge
  dsimp only
  split_ifs <;> simp

theorem tcpStep_follows (s : State) (event : Event) (t : State) (stepped : tcpStep s event = some t) :
    ((door openDoor).restrict (Tracked openDoor)).step s event t := by
  unfold tcpStep at stepped
  split_ifs at stepped with quiet
  refine ⟨fun t _ i conn next stored _ _ => ⟨?_, failed_tracked quiet.2 _ _⟩, stepped⟩
  exact List.all_eq_true.mp quiet.1 conn (List.mem_of_getElem? stored)

theorem knocks_ran : ∃ s, ((door openDoor).restrict (Tracked openDoor)).Reachable s ∧ s.handshakes = 255 ∧
    s.failures = [(stranger, 1000)] := by
  have ran : (Lib.System.run tcpStep (.start openDoor 0) knocks).map (fun s => (s.handshakes, s.failures)) =
      some (255, [(stranger, 1000)]) := by
    decide +kernel
  obtain ⟨s, reached, found⟩ := Option.map_eq_some_iff.mp ran
  obtain ⟨slots, failures⟩ := Prod.mk.inj found
  exact ⟨s, Lib.System.Reachable.run tcpStep_follows (.initial ⟨0, rfl⟩) knocks reached, slots, failures⟩

theorem strangers_bounded_knocks : ∃ s, (door openDoor).Reachable s ∧ s.handshakes = 255 ∧
    s.handshakes + s.accepting.toNat + (s.conns.countP fun conn => conn.tcp && conn.stage.unknown) = tcpHandshakes ∧
    s.conns.countP (fun conn => conn.failures = 1 ∧ conn.remote.ip = stranger) = 1 := by
  obtain ⟨s, reachable, slots, failures⟩ := knocks_ran
  obtain ⟨conserved, -, charged, -⟩ := strangers_bounded openDoor reachable.of_restrict
  refine ⟨s, reachable.of_restrict, slots, conserved, ?_⟩
  rw [← charged, failures]
  rfl

theorem tcp_failures_bounded_knocks : ∃ s, ((door openDoor).restrict (Tracked openDoor)).Reachable s ∧
    s.failures = [(stranger, 1000)] ∧
    (s.failures.countP fun failure => Limiter.key failure.1 = stranger ∧ 0 ≤ failure.2 ∧ failure.2 ≤ 0 + 30000000000 : ℚ) ≤ 3 := by
  obtain ⟨s, reachable, -, failures⟩ := knocks_ran
  refine ⟨s, reachable, failures, (tcp_failures_bounded openDoor (by decide) reachable stranger 0 30000000000).trans ?_⟩
  have two : openDoor.authFailuresPerMinute.toNat = 2 := rfl
  norm_num [two, Limiter.asSecs]

end Example
end Hawse.Proof.Door
