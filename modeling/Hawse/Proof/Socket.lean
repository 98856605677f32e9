import Hawse.Socket

namespace Hawse.Proof.Socket
open Hawse.Socket

/-! ## Where it is -/

/-- Where a process can be asked, given the facts it shares with its caller: the platform, and its
own account's directories where it is not the system's. A unit's runtime directory is the one its
`RuntimeDirectory=` names. -/
structure Reaches (role : Role) (env caller : Env) : Prop where
  linux : caller.linux = env.linux
  unit : env.runtimeDirectory = none ∨ env.linux = true ∧ env.runtimeDirectory = some ["run", "hawse-" ++ roleName role]
  runtime : caller.xdgRuntimeDir = env.xdgRuntimeDir
  state : caller.stateDir = env.stateDir

theorem place_candidates {role : Role} {env caller : Env} (reaches : Reaches role env caller) {path : Path}
    (placed : place role env = .at_ path) : path ∈ candidates role caller := by
  rw [candidates, reaches.linux, reaches.runtime, reaches.state]
  rcases reaches.unit with none | ⟨linux, unit⟩
  · simp only [place, none] at placed
    split_ifs at placed with notified system
    · cases placed
      rw [Bool.and_eq_true] at system
      simp [system.2]
    · cases runtime : env.xdgRuntimeDir with
      | some dir =>
          rw [runtime] at placed
          cases placed
          simp
      | none =>
          cases state : env.stateDir with
          | some dir =>
              rw [runtime, state] at placed
              cases placed
              simp
          | none =>
              rw [runtime, state] at placed
              cases placed
  · simp only [place, unit] at placed
    cases placed
    simp [linux, systemPath]

/-! ## Who has it -/

variable {euid : Nat → Nat} {s t : State} {p q : Nat}

/-- It listens on what is its own at the path, for callers to find. -/
def Held (stage : Stage) : Prop := stage = .bound ∨ stage = .serving

instance (stage : Stage) : Decidable (Held stage) := inferInstanceAs (Decidable (_ ∨ _))

/-- What is at the path is its own. -/
def Owns (stage : Stage) : Prop := stage = .named ∨ Held stage

instance (stage : Stage) : Decidable (Owns stage) := inferInstanceAs (Decidable (_ ∨ _))

/-- Its socket is open. -/
def Has (stage : Stage) : Prop := Owns stage ∨ stage = .leaving

instance (stage : Stage) : Decidable (Has stage) := inferInstanceAs (Decidable (_ ∨ _))

theorem has_of_listening {stage : Stage} (listening : stage.Listening) : Has stage := by
  rcases listening with rfl | rfl | rfl <;> decide

theorem has_iff {stage : Stage} : Has stage ↔ stage = .named ∨ stage.Listening := by
  constructor
  · rintro ((rfl | rfl | rfl) | rfl) <;> decide
  · rintro (rfl | listening)
    · decide
    · exact has_of_listening listening

/-- A socket no process has open any more. -/
def Left (s : State) : Prop := ∃ q, s.entry = some (.socket q) ∧ ¬ Has (s.stage q)

structure Inv (s : State) : Prop where
  owned : ∀ p, Owns (s.stage p) → s.entry = some (.socket p)
  refused : ∀ p, s.stage p = .refused → s.entry = some .other ∨ Left s
  stale : ∀ p, s.stage p = .stale → Left s
  alone : ∀ p q, (s.stage p).Replacing → (s.stage q).Replacing → p = q

theorem Inv.replacing (inv : Inv s) (replacing : (s.stage p).Replacing) : s.entry = some .other ∨ Left s := by
  rcases replacing with refused | stale
  · exact inv.refused p refused
  · exact .inr (inv.stale p stale)

theorem Left.not_owned (left : Left s) (inv : Inv s) (q : Nat) : ¬ Owns (s.stage q) := by
  intro owns
  obtain ⟨owner, there, quiet⟩ := left
  obtain rfl : q = owner := by
    have same := (inv.owned q owns).symm.trans there
    cases same
    rfl
  exact quiet (.inl owns)

@[simp] theorem put_own (s : State) (p : Nat) (stage : Stage) : (s.put p stage).stage p = stage := Function.update_self ..

theorem put_other (s : State) (stage : Stage) (apart : q ≠ p) : (s.put p stage).stage q = s.stage q := Function.update_of_ne apart ..

/-- No listener comes up. -/
theorem Left.put (left : Left s) {stage : Stage} (quiet : Has stage → Has (s.stage p)) : Left (s.put p stage) := by
  obtain ⟨owner, there, gone⟩ := left
  refine ⟨owner, there, ?_⟩
  by_cases same : owner = p
  · subst same
    rw [put_own]
    exact fun listening => gone (quiet listening)
  · rw [put_other s stage same]
    exact gone

/-- A process goes on with nothing new at the path and not about to replace it. -/
theorem Inv.goes (inv : Inv s) {stage : Stage} (owns : Owns stage → Owns (s.stage p))
    (quiet : Has stage → Has (s.stage p)) (harmless : ¬ stage.Replacing) : Inv (s.put p stage) := by
  have other {q : Nat} {found : Stage} (replacing : found.Replacing) (stages : (s.put p stage).stage q = found) : s.stage q = found := by
    by_cases same : q = p
    · subst same
      rw [put_own] at stages
      subst stages
      exact absurd replacing harmless
    · rwa [put_other s stage same] at stages
  refine ⟨fun q there => ?_, fun q refused => ?_, fun q stale => ?_, fun q r first second => ?_⟩
  · by_cases same : q = p
    · subst same
      rw [put_own] at there
      exact inv.owned q (owns there)
    · rw [put_other s stage same] at there
      exact inv.owned q there
  · rcases inv.refused q (other (.inl rfl) refused) with file | left
    · exact .inl file
    · exact .inr (left.put quiet)
  · exact (inv.stale q (other (.inr rfl) stale)).put quiet
  · apply inv.alone
    · rw [other first rfl]
      exact first
    · rw [other second rfl]
      exact second

/-- A process goes on as the one that is to replace what is at the path. -/
theorem Inv.comes (inv : Inv s) {stage : Stage} (replacing : stage.Replacing) (others : ∀ q, q ≠ p → ¬ (s.stage q).Replacing)
    (found : stage = .refused ∧ s.entry = some .other ∨ Left s) : Inv (s.put p stage) := by
  have silent : ¬ Has stage := by
    rcases replacing with rfl | rfl <;> decide
  have own {q : Nat} (there : ((s.put p stage).stage q).Replacing) : q = p := by
    by_contra apart
    rw [put_other s stage apart] at there
    exact others q apart there
  refine ⟨fun q there => ?_, fun q refused => ?_, fun q stale => ?_, fun q r first second => ?_⟩
  · by_cases same : q = p
    · subst same
      rw [put_own] at there
      exact absurd (.inl there) silent
    · rw [put_other s stage same] at there
      exact inv.owned q there
  · rcases found with ⟨_, file⟩ | left
    · exact .inl file
    · exact .inr (left.put fun listening => absurd listening silent)
  · obtain rfl := own (.inr stale)
    rw [put_own] at stale
    rcases found with ⟨refused, _⟩ | left
    · rw [refused] at stale
      cases stale
    · exact left.put fun listening => absurd listening silent
  · rw [own first, own second]

/-- The path is left empty, by the process that had it or was alone to replace it. -/
theorem Inv.clears (inv : Inv s) {stage : Stage} (own : Owns (s.stage p) ∨ s.stage p = .stale) (owns : ¬ Owns stage)
    (harmless : ¬ stage.Replacing) : Inv ({ s with entry := none }.put p stage) := by
  have others {q : Nat} (apart : q ≠ p) : ¬ Owns (s.stage q) ∧ ¬ (s.stage q).Replacing := by
    rcases own with holder | stale
    · have there := inv.owned p holder
      refine ⟨fun other => ?_, fun replacing => ?_⟩
      · have same := (inv.owned q other).symm.trans there
        cases same
        exact apart rfl
      · rcases inv.replacing replacing with file | ⟨owner, found, quiet⟩
        · rw [there] at file
          cases file
        · rw [there] at found
          cases found
          exact quiet (.inl holder)
    · exact ⟨(inv.stale p stale).not_owned inv q, fun replacing => apart (inv.alone q p replacing (.inr stale))⟩
  have quiet (q : Nat) : ¬ Owns (({ s with entry := none }.put p stage : State).stage q) ∧
      ¬ (({ s with entry := none }.put p stage : State).stage q).Replacing := by
    by_cases same : q = p
    · subst same
      rw [put_own]
      exact ⟨owns, harmless⟩
    · rw [put_other _ stage same]
      exact others same
  refine ⟨fun q there => ?_, fun q refused => ?_, fun q stale => ?_, fun q r first _ => ?_⟩
  · exact absurd there (quiet q).1
  · exact absurd (.inl refused) (quiet q).2
  · exact absurd (.inr stale) (quiet q).2
  · exact absurd first (quiet q).2

/-- A process binds the path where nothing stands. -/
theorem Inv.binds (inv : Inv s) (free : s.entry = none) : Inv ({ s with entry := some (.socket p) }.put p .named) := by
  have quiet (q : Nat) : ¬ Owns (s.stage q) ∧ ¬ (s.stage q).Replacing := by
    refine ⟨fun owns => ?_, fun replacing => ?_⟩
    · have there := inv.owned q owns
      rw [free] at there
      cases there
    · rcases inv.replacing replacing with file | ⟨owner, found, _⟩
      · rw [free] at file
        cases file
      · rw [free] at found
        cases found
  have calm (q : Nat) : ¬ (({ s with entry := some (.socket p) }.put p .named : State).stage q).Replacing := by
    by_cases same : q = p
    · subst same
      rw [put_own]
      rintro (stage | stage) <;> cases stage
    · rw [put_other _ _ same]
      exact (quiet q).2
  refine ⟨fun q there => ?_, fun q refused => ?_, fun q stale => ?_, fun q r first _ => ?_⟩
  · by_cases same : q = p
    · rw [same]
      rfl
    · rw [put_other _ _ same] at there
      exact absurd there (quiet q).1
  · exact absurd (.inl refused) (calm q)
  · exact absurd (.inr stale) (calm q)
  · exact absurd first (calm q)

/-- A step in which nothing comes up or goes to replace what is there. -/
theorem Inv.calm (inv : Inv s) {stage : Stage} (calm : ¬ Has stage ∧ ¬ stage.Replacing) : Inv (s.put p stage) :=
  inv.goes (fun owns => absurd (.inl owns) calm.1) (fun has => absurd has calm.1) calm.2

theorem failed_calm (err : BindError) : ¬ Has (Stage.failed err) ∧ ¬ (Stage.failed err).Replacing := by
  refine ⟨?_, ?_⟩
  · rintro ((stage | stage | stage) | stage) <;> cases stage
  · rintro (stage | stage) <;> cases stage

theorem connect_inv (inv : Inv s) (own : s.stage p = .owned)
    (others : ∀ q, q ≠ p → ¬ (s.stage q).Replacing ∧ s.stage q ≠ .named) (other : Bool) :
    Inv (s.put p (s.connect other)) := by
  rw [State.connect]
  cases found : s.entry with
  | none =>
      have calm : ¬ Has Stage.missing ∧ ¬ Stage.missing.Replacing := by decide
      exact inv.calm calm
  | some entry =>
      cases entry with
      | socket q =>
          dsimp only
          split
          · exact inv.calm (failed_calm .taken)
          · next quiet =>
              have unnamed : s.stage q ≠ .named := by
                by_cases same : q = p
                · rw [same, own]
                  decide
                · exact (others q same).2
              have closed : ¬ Has (s.stage q) := fun has => (has_iff.mp has).elim unnamed quiet
              exact inv.comes (.inl rfl) (fun q apart => (others q apart).1) (.inr ⟨q, found, closed⟩)
      | other =>
          dsimp only
          split
          · exact inv.comes (.inl rfl) (fun q apart => (others q apart).1) (.inl ⟨rfl, found⟩)
          · exact inv.calm (failed_calm .io)

theorem step_inv (inv : Inv s) {event : Event} (alone : s.Alone event) (stepped : s.step euid event = some t) : Inv t := by
  cases event with
  | create p ok =>
      simp only [State.step] at stepped
      split_ifs at stepped with starting made
      · cases stepped
        have there : Inv { s with dir := some (s.dir.getD (euid p)) } := ⟨inv.owned, inv.refused, inv.stale, inv.alone⟩
        exact there.calm (by decide)
      · cases stepped
        exact inv.calm (failed_calm .noDir)
  | owner p ok =>
      simp only [State.step] at stepped
      split_ifs at stepped with made known own
      · cases stepped
        exact inv.calm (by decide)
      · cases stepped
        exact inv.calm (failed_calm .foreign)
      · cases stepped
        exact inv.calm (failed_calm .io)
  | connect p ok other =>
      simp only [State.step] at stepped
      split_ifs at stepped with owned
      · cases stepped
        exact connect_inv inv owned alone other
      · cases stepped
        exact inv.calm (failed_calm .io)
  | inspect p ok =>
      simp only [State.step] at stepped
      split_ifs at stepped with refused
      split at stepped
      · next q _ found =>
          cases stepped
          have left : Left s := by
            rcases inv.refused p refused with file | left
            · rw [found] at file
              cases file
            · exact left
          exact inv.comes (.inr rfl) (fun q apart replacing => apart (inv.alone q p replacing (.inl refused))) (.inr left)
      · cases stepped
        exact inv.calm (failed_calm .io)
  | remove p ok =>
      simp only [State.step] at stepped
      split_ifs at stepped with stale
      split at stepped
      · cases stepped
        exact inv.clears (.inr stale) (by decide) (by decide)
      · cases stepped
        exact inv.calm (failed_calm .io)
  | bind p ok =>
      simp only [State.step] at stepped
      split_ifs at stepped with missing
      split at stepped
      · next _ free =>
          cases stepped
          exact inv.binds free
      · cases stepped
        exact inv.calm (failed_calm .io)
  | listen p ok =>
      simp only [State.step] at stepped
      split_ifs at stepped with named fine
      · cases stepped
        exact inv.goes (fun _ => .inl named) (fun _ => .inl (.inl named)) (by decide)
      · cases stepped
        exact inv.calm (failed_calm .io)
  | permit p ok =>
      simp only [State.step] at stepped
      split_ifs at stepped with bound fine
      · cases stepped
        exact inv.goes (fun _ => .inr (.inl bound)) (fun _ => .inl (.inr (.inl bound))) (by decide)
      · cases stepped
        exact inv.clears (.inl (.inr (.inl bound))) (by decide) (by decide)
  | drop p =>
      simp only [State.step] at stepped
      split_ifs at stepped with held
      cases stepped
      exact inv.clears (.inl (.inr held)) (by decide) (by decide)
  | close p =>
      simp only [State.step] at stepped
      split_ifs at stepped with leaving
      cases stepped
      exact inv.calm (by decide)
  | crash p =>
      simp only [State.step] at stepped
      split_ifs at stepped with gone
      cases stepped
      exact inv.calm (by decide)

theorem reachable_inv (reachable : ((sockets euid).restrict State.Alone).Reachable s) : Inv s := by
  apply reachable.invariant Inv
  · rintro s ⟨stages, left⟩
    refine ⟨fun p owns => ?_, fun p refused => ?_, fun p stale => ?_, fun p q replacing _ => ?_⟩
    · rcases stages p with stage | stage <;> rw [stage] at owns <;> rcases owns with stage | stage | stage <;> cases stage
    · rcases stages p with stage | stage <;> rw [stage] at refused <;> cases refused
    · rcases stages p with stage | stage <;> rw [stage] at stale <;> cases stale
    · rcases stages p with stage | stage <;> rw [stage] at replacing <;> rcases replacing with stage | stage <;> cases stage
  · intro s event t _ inv step
    exact step_inv inv step.1 step.2

/-- What stands at the path is taken off it only by the process that bound it, or after that
process is gone; a file of another kind is never taken off it. -/
theorem step_entry (inv : Inv s) {event : Event} (stepped : s.step euid event = some t) {entry : Entry} (found : s.entry = some entry) :
    t.entry = s.entry ∨ t.entry = none ∧ ∃ q, entry = .socket q ∧
      (¬ Has (s.stage q) ∨ Held (s.stage q) ∧ (event = .drop q ∨ event = .permit q false)) := by
  cases event with
  | create p ok | owner p ok | connect p ok other | inspect p ok =>
      simp only [State.step] at stepped
      left
      split_ifs at stepped <;> first | (cases stepped; rfl) | (split at stepped <;> cases stepped <;> rfl)
  | listen p ok | close p | crash p =>
      simp only [State.step] at stepped
      left
      split_ifs at stepped
      all_goals
        cases stepped
        rfl
  | remove p ok =>
      simp only [State.step] at stepped
      split_ifs at stepped with stale
      split at stepped
      · cases stepped
        obtain ⟨q, there, quiet⟩ := inv.stale p stale
        rw [found, Option.some.injEq] at there
        exact .inr ⟨rfl, q, there, .inl quiet⟩
      · cases stepped
        exact .inl rfl
  | bind p ok =>
      simp only [State.step] at stepped
      split_ifs at stepped with missing
      split at stepped
      · next _ free =>
          rw [found] at free
          cases free
      · cases stepped
        exact .inl rfl
  | permit p ok =>
      simp only [State.step] at stepped
      split_ifs at stepped with bound fine
      · cases stepped
        exact .inl rfl
      · cases stepped
        have there := inv.owned p (.inr (.inl bound))
        rw [found, Option.some.injEq] at there
        refine .inr ⟨rfl, p, there, .inr ⟨.inl bound, .inr ?_⟩⟩
        rw [Bool.not_eq_true] at fine
        rw [fine]
  | drop p =>
      simp only [State.step] at stepped
      split_ifs at stepped with held
      cases stepped
      have there := inv.owned p (.inr held)
      rw [found, Option.some.injEq] at there
      exact .inr ⟨rfl, p, there, .inr ⟨held, .inl rfl⟩⟩

/-- An undisturbed start gets the path, where nothing stands or a socket no process has open. -/
theorem startup_serves (starting : s.stage p = .starting) (own : s.dir.getD (euid p) = euid p) (clear : s.entry = none ∨ Left s) :
    Lib.System.run (fun s event => s.step euid event) s (State.startup p s.entry) =
      some ⟨some (euid p), some (.socket p), Function.update s.stage p .serving⟩ := by
  rcases clear with free | ⟨q, there, closed⟩
  · simp [free, State.startup, Lib.System.run, State.step, State.connect, State.put, starting, own]
  · have silent : ¬ (Function.update s.stage p Stage.owned q).Listening := by
      by_cases same : q = p
      · rw [same, Function.update_self]
        decide
      · rw [Function.update_of_ne same]
        exact fun listening => closed (has_of_listening listening)
    simp [there, State.startup, Lib.System.run, State.step, State.connect, State.put, starting, own, silent]

/-- However processes for one role start, run, exit and crash, as long as no process comes to the
path while another is replacing what it found there or has yet to listen on what it bound: what one
that has bound finds at the path is its own and is who a caller that connects reaches, it is taken
off the path by nothing but its own exit, and one that starts undisturbed, where the last is gone,
gets the path. -/
theorem status_socket_owned (euid : Nat → Nat) {s : State} (reachable : ((sockets euid).restrict State.Alone).Reachable s) :
    (∀ p, Owns (s.stage p) → s.entry = some (.socket p)) ∧
      (∀ event t entry, s.step euid event = some t → s.entry = some entry →
        t.entry = s.entry ∨ t.entry = none ∧ ∃ q, entry = .socket q ∧
          (¬ Has (s.stage q) ∨ Held (s.stage q) ∧ (event = .drop q ∨ event = .permit q false))) ∧
      ∀ p, s.stage p = .starting → s.dir.getD (euid p) = euid p → s.entry = none ∨ Left s →
        Lib.System.run (fun s event => s.step euid event) s (State.startup p s.entry) =
          some ⟨some (euid p), some (.socket p), Function.update s.stage p .serving⟩ := by
  have inv := reachable_inv reachable
  refine ⟨inv.owned, ?_, ?_⟩
  · intro event t entry stepped found
    exact step_entry inv stepped found
  · intro p starting own clear
    exact startup_serves starting own clear

/-- Process 1 crashed and left its socket; process 2 replaces it. -/
def crashed : State := ⟨some 0, some (.socket 1), fun p => if p = 1 then .gone else .starting⟩

theorem status_socket_owned_crashed :
    Lib.System.run (fun s event => s.step (fun _ => 0) event) crashed (State.startup 2 crashed.entry) =
      some ⟨some 0, some (.socket 2), Function.update crashed.stage 2 .serving⟩ := by
  have start : ((sockets fun _ => 0).restrict State.Alone).Reachable crashed := by
    refine .initial ⟨fun p => ?_, fun p there => ?_⟩
    · by_cases first : p = 1
      · exact .inr (if_pos first)
      · exact .inl (if_neg first)
    · cases there
      rfl
  exact (status_socket_owned (fun _ => 0) start).2.2 2 rfl rfl (.inr ⟨1, rfl, by decide⟩)

end Hawse.Proof.Socket
