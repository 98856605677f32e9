import Hawse.Server.Claim

namespace Hawse.Proof.Claims
open Std (ExtTreeMap)
open Hawse.Server Hawse.Server.Claims

/-- Past the wait for the session before it. -/
def Cleared : Stage → Prop
  | .staked _ => False
  | .waiting _ => False
  | _ => True

def Fired (stage : Stage) : Prop := stage = .dropping ∨ stage = .gone

theorem Fired.cleared {stage : Stage} (fired : Fired stage) : Cleared stage := by
  rcases fired with rfl | rfl <;> trivial

def stageOf (s : Claims) (i : Nat) : Option (PublicKey × Stage) :=
  s.runs[i]?.map fun run => (run.key, run.stage)

theorem stageOf_eq_some {s : Claims} {i : Nat} {key : PublicKey} {stage : Stage} :
    stageOf s i = some (key, stage) ↔ ∃ run, s.runs[i]? = some run ∧ run.key = key ∧ run.stage = stage := by
  simp [stageOf]

theorem stageOf_bounded {s : Claims} {i : Nat} {key : PublicKey} {stage : Stage}
    (found : stageOf s i = some (key, stage)) : i < s.runs.length := by
  obtain ⟨run, stored, -⟩ := stageOf_eq_some.mp found
  exact (List.getElem?_eq_some_iff.mp stored).1

section Steps
variable {s t : Claims} {i j : Nat} {key : PublicKey} {run : Run} {event : Event}

inductive Goes (s : Claims) (i : Nat) (key : PublicKey) : Stage → Stage → Prop
  | first : Goes s i key (.staked none) .welcoming
  | waits (previous : Nat) : Goes s i key (.staked (some previous)) (.waiting previous)
  | woken (previous : Nat) (run : Run) (stored : s.runs[previous]? = some run) (done : run.done = true) :
      Goes s i key (.waiting previous) .welcoming
  | on {old new : Stage} (cleared : Cleared old) (kept : Cleared new) (fired : Fired old → Fired new) :
      Goes s i key old new

structure Advanced (s t : Claims) (i : Nat) (key : PublicKey) (old new : Stage) : Prop where
  before : stageOf s i = some (key, old)
  goes : Goes s i key old new
  after : ∀ j, stageOf t j = if i = j then some (key, new) else stageOf s j
  length : t.runs.length = s.runs.length
  done : (∀ run ∈ s.runs, run.done = true ↔ Fired run.stage) → ∀ run ∈ t.runs, run.done = true ↔ Fired run.stage
  sessions : t.sessions =
    if new = .gone ∧ s.sessions[key]? = some i then s.sessions.erase key else s.sessions

theorem stageOf_update (stored : s.runs[i]? = some run) (new : Run) (j : Nat) :
    stageOf (s.update i new) j = if i = j then some (new.key, new.stage) else stageOf s j := by
  have bound := (List.getElem?_eq_some_iff.mp stored).1
  unfold stageOf update
  rw [List.getElem?_set]
  split_ifs <;> rfl

theorem stageOf_cancel (previous j : Nat) : stageOf (s.cancel previous) j = stageOf s j := by
  unfold stageOf cancel
  rw [List.getElem?_modify]
  cases s.runs[j]? with
  | none => rfl
  | some run =>
      simp only [Option.map_eq_map, Option.map_some]
      split_ifs <;> rfl

theorem update_done (new : Run) (faithful : new.done = true ↔ Fired new.stage)
    (all : ∀ run ∈ s.runs, run.done = true ↔ Fired run.stage) :
    ∀ run ∈ (s.update i new).runs, run.done = true ↔ Fired run.stage := by
  intro run member
  rcases List.mem_or_eq_of_mem_set member with old | rfl
  · exact all run old
  · exact faithful

theorem cancel_done (previous : Nat) (all : ∀ run ∈ s.runs, run.done = true ↔ Fired run.stage) :
    ∀ run ∈ (s.cancel previous).runs, run.done = true ↔ Fired run.stage := by
  intro run member
  obtain ⟨j, stored⟩ := List.mem_iff_getElem?.mp member
  rw [cancel, List.getElem?_modify] at stored
  obtain ⟨old, found, rfl⟩ := Option.map_eq_some_iff.mp stored
  have faithful := all old (List.mem_of_getElem? found)
  split_ifs
  · exact faithful
  · exact faithful

theorem advanced_stage {old new : Stage} (stored : s.runs[i]? = some run) (was : run.stage = old)
    (goes : Goes s i run.key old new) (quiet : ¬ Fired old) (still : ¬ Fired new) :
    Advanced s (s.update i { run with stage := new }) i run.key old new where
  before := stageOf_eq_some.mpr ⟨run, stored, rfl, was⟩
  goes := goes
  after := stageOf_update stored _
  length := List.length_set
  done all := by
    refine update_done _ ?_ all
    rw [all run (List.mem_of_getElem? stored), was]
    exact iff_of_false quiet still
  sessions := by
    rw [if_neg fun gone => still (.inr gone.1)]
    rfl

theorem advanced_on {old new : Stage} (stored : s.runs[i]? = some run) (was : run.stage = old)
    (cleared : Cleared old) (kept : Cleared new) (quiet : ¬ Fired old) (still : ¬ Fired new) :
    Advanced s (s.update i { run with stage := new }) i run.key old new :=
  advanced_stage stored was (.on cleared kept fun fired => absurd fired quiet) quiet still

theorem advanced_done (stored : s.runs[i]? = some run) (was : run.stage = .leaving) :
    Advanced s (s.update i { run with stage := .dropping, done := true }) i run.key .leaving .dropping where
  before := stageOf_eq_some.mpr ⟨run, stored, rfl, was⟩
  goes := .on trivial trivial fun _ => .inl rfl
  after := stageOf_update stored _
  length := List.length_set
  done := update_done _ (iff_of_true rfl (.inl rfl))
  sessions := by
    rw [if_neg (by simp)]
    rfl

theorem Advanced.cancel {old new : Stage} (advanced : Advanced s t i key old new) (previous : Nat) :
    Advanced s (t.cancel previous) i key old new where
  before := advanced.before
  goes := advanced.goes
  after j := (stageOf_cancel previous j).trans (advanced.after j)
  length := (List.length_modify _ _ _).trans advanced.length
  done all := cancel_done previous (advanced.done all)
  sessions := advanced.sessions

theorem giveUp_runs : (s.giveUp i key).runs = s.runs := by
  unfold giveUp
  split_ifs <;> rfl

theorem advanced_giveUp (stored : s.runs[i]? = some run) (was : run.stage = .dropping) :
    Advanced s ((s.update i { run with stage := .gone }).giveUp i run.key) i run.key .dropping .gone where
  before := stageOf_eq_some.mpr ⟨run, stored, rfl, was⟩
  goes := .on trivial trivial fun _ => .inr rfl
  after j := by
    rw [stageOf, giveUp_runs]
    exact stageOf_update stored _ j
  length := by
    rw [giveUp_runs]
    exact List.length_set
  done all := by
    rw [giveUp_runs]
    refine update_done _ ?_ all
    rw [all run (List.mem_of_getElem? stored), was]
    exact iff_of_true (.inl rfl) (.inr rfl)
  sessions := by
    unfold giveUp
    simp only [true_and]
    split_ifs with held held' held'
    · rfl
    · exact absurd held held'
    · exact absurd held' held
    · rfl

inductive Stepped (s : Claims) : Event → Claims → Prop
  | stake (key : PublicKey) : Stepped s (.stake key) (s.stake key)
  | first {i : Nat} {run : Run} (stored : s.runs[i]? = some run) (was : run.stage = .staked none) :
      Stepped s (.supersede i) (s.update i { run with stage := .welcoming })
  | waits {i : Nat} {run : Run} (previous : Nat) (stored : s.runs[i]? = some run)
      (was : run.stage = .staked (some previous)) :
      Stepped s (.supersede i) ((s.update i { run with stage := .waiting previous }).cancel previous)
  | woken {i : Nat} {run live : Run} (previous : Nat) (stored : s.runs[i]? = some run)
      (was : run.stage = .waiting previous) (held : s.runs[previous]? = some live) (done : live.done = true) :
      Stepped s (.woken i) (s.update i { run with stage := .welcoming })
  | elapsed {i : Nat} {run : Run} (previous : Nat) (stored : s.runs[i]? = some run)
      (was : run.stage = .waiting previous) :
      Stepped s (.elapsed i) (s.update i { run with stage := .welcoming })
  | shutdown {i : Nat} {run : Run} (previous : Nat) (stored : s.runs[i]? = some run)
      (was : run.stage = .waiting previous) :
      Stepped s (.shutdown i) (s.update i { run with stage := .leaving })
  | welcomed {i : Nat} {run : Run} (stored : s.runs[i]? = some run) (was : run.stage = .welcoming) :
      Stepped s (.welcome i true) (s.update i { run with stage := .serving })
  | unwelcomed {i : Nat} {run : Run} (stored : s.runs[i]? = some run) (was : run.stage = .welcoming) :
      Stepped s (.welcome i false) (s.update i { run with stage := .leaving })
  | superseded {i : Nat} {run : Run} (stored : s.runs[i]? = some run) (was : run.stage = .serving)
      (cancelled : run.cancelled = true) :
      Stepped s (.superseded i) (s.update i { run with stage := .leaving })
  | ended {i : Nat} {run : Run} (stored : s.runs[i]? = some run) (was : run.stage = .serving) :
      Stepped s (.ended i) (s.update i { run with stage := .leaving })
  | done {i : Nat} {run : Run} (stored : s.runs[i]? = some run) (was : run.stage = .leaving) :
      Stepped s (.done i) (s.update i { run with stage := .dropping, done := true })
  | giveUp {i : Nat} {run : Run} (stored : s.runs[i]? = some run) (was : run.stage = .dropping) :
      Stepped s (.giveUp i) ((s.update i { run with stage := .gone }).giveUp i run.key)

theorem step_stepped (stepped : s.step event = some t) : Stepped s event t := by
  cases event with
  | stake key =>
      obtain rfl := Option.some.inj stepped
      exact .stake key
  | supersede i =>
      obtain ⟨run, stored, stepped⟩ := Option.bind_eq_some_iff.mp stepped
      cases was : run.stage with
      | staked previous =>
          rw [was] at stepped
          cases previous with
          | none =>
              obtain rfl := Option.some.inj stepped
              exact .first stored was
          | some previous =>
              obtain rfl := Option.some.inj stepped
              exact .waits previous stored was
      | _ => simp [was] at stepped
  | woken i =>
      obtain ⟨run, stored, stepped⟩ := Option.bind_eq_some_iff.mp stepped
      cases was : run.stage with
      | waiting previous =>
          rw [was] at stepped
          obtain ⟨live, held, stepped⟩ := Option.bind_eq_some_iff.mp stepped
          split_ifs at stepped with done
          obtain rfl := Option.some.inj stepped
          exact .woken previous stored was held done
      | _ => simp [was] at stepped
  | elapsed i =>
      obtain ⟨run, stored, stepped⟩ := Option.bind_eq_some_iff.mp stepped
      cases was : run.stage with
      | waiting previous =>
          rw [was] at stepped
          obtain rfl := Option.some.inj stepped
          exact .elapsed previous stored was
      | _ => simp [was] at stepped
  | shutdown i =>
      obtain ⟨run, stored, stepped⟩ := Option.bind_eq_some_iff.mp stepped
      cases was : run.stage with
      | waiting previous =>
          rw [was] at stepped
          obtain rfl := Option.some.inj stepped
          exact .shutdown previous stored was
      | _ => simp [was] at stepped
  | welcome i sent =>
      obtain ⟨run, stored, stepped⟩ := Option.bind_eq_some_iff.mp stepped
      by_cases was : run.stage = .welcoming
      · rw [if_pos was] at stepped
        obtain rfl := Option.some.inj stepped
        cases sent with
        | true => exact .welcomed stored was
        | false => exact .unwelcomed stored was
      · simp [was] at stepped
  | superseded i =>
      obtain ⟨run, stored, stepped⟩ := Option.bind_eq_some_iff.mp stepped
      split_ifs at stepped with was
      obtain rfl := Option.some.inj stepped
      exact .superseded stored was.1 was.2
  | ended i =>
      obtain ⟨run, stored, stepped⟩ := Option.bind_eq_some_iff.mp stepped
      split_ifs at stepped with was
      obtain rfl := Option.some.inj stepped
      exact .ended stored was
  | done i =>
      obtain ⟨run, stored, stepped⟩ := Option.bind_eq_some_iff.mp stepped
      split_ifs at stepped with was
      obtain rfl := Option.some.inj stepped
      exact .done stored was
  | giveUp i =>
      obtain ⟨run, stored, stepped⟩ := Option.bind_eq_some_iff.mp stepped
      split_ifs at stepped with was
      obtain rfl := Option.some.inj stepped
      exact .giveUp stored was

theorem step_cases (stepped : claimsUndisturbed.step s event t) :
    (∃ key, event = .stake key ∧ t = s.stake key) ∨ ∃ i key old new, Advanced s t i key old new := by
  obtain ⟨allowed, stepped⟩ := stepped
  cases step_stepped stepped with
  | stake key => exact .inl ⟨key, rfl, rfl⟩
  | elapsed => exact absurd rfl (allowed _).1
  | shutdown => exact absurd rfl (allowed _).2
  | first stored was =>
      exact .inr ⟨_, _, _, _, advanced_stage stored was .first (by simp [Fired]) (by simp [Fired])⟩
  | waits previous stored was =>
      have advanced := advanced_stage stored was (.waits previous) (by simp [Fired]) (by simp [Fired])
      exact .inr ⟨_, _, _, _, advanced.cancel previous⟩
  | woken previous stored was held done =>
      exact .inr ⟨_, _, _, _, advanced_stage stored was (.woken previous _ held done) (by simp [Fired])
        (by simp [Fired])⟩
  | welcomed stored was | unwelcomed stored was =>
      exact .inr ⟨_, _, _, _, advanced_on stored was trivial trivial (by simp [Fired]) (by simp [Fired])⟩
  | superseded stored was | ended stored was =>
      exact .inr ⟨_, _, _, _, advanced_on stored was trivial trivial (by simp [Fired]) (by simp [Fired])⟩
  | done stored was => exact .inr ⟨_, _, _, _, advanced_done stored was⟩
  | giveUp stored was => exact .inr ⟨_, _, _, _, advanced_giveUp stored was⟩

end Steps

section Chain
variable {s t : Claims}

/-- Every session of a key that staked before the `n`th has fired its `done`. -/
def Settled (s : Claims) (key : PublicKey) (n : Nat) : Prop :=
  ∀ i < n, ∀ stage, stageOf s i = some (key, stage) → Fired stage

/-- The last session of a key that staked before the `n`th. -/
def Latest (s : Claims) (key : PublicKey) (n i : Nat) : Prop :=
  (∃ stage, stageOf s i = some (key, stage)) ∧ ∀ j < n, ∀ stage, stageOf s j = some (key, stage) → j ≤ i

structure Inv (s : Claims) : Prop where
  done : ∀ run ∈ s.runs, run.done = true ↔ Fired run.stage
  settled : ∀ i key stage, stageOf s i = some (key, stage) → Cleared stage ∨ stage = .staked none → Settled s key i
  previous : ∀ i key stage previous, stageOf s i = some (key, stage) →
    stage = .staked (some previous) ∨ stage = .waiting previous → Latest s key i previous
  held : ∀ key i, s.sessions[key]? = some i →
    Latest s key s.runs.length i ∧ ∀ stage, stageOf s i = some (key, stage) → stage ≠ .gone
  free : ∀ key, s.sessions[key]? = none → Settled s key s.runs.length

theorem inv_new : Inv .new := by
  constructor <;> simp [Claims.new, stageOf, Settled]

theorem stageOf_stake (key : PublicKey) (i : Nat) :
    stageOf (s.stake key) i =
      if i = s.runs.length then some (key, .staked s.sessions[key]?) else stageOf s i := by
  unfold stageOf stake
  rw [List.getElem?_append]
  split_ifs with less same same
  · omega
  · rfl
  · simp [same]
  · have beyond : s.runs[i]? = none := List.getElem?_eq_none (by omega)
    have after : i - s.runs.length ≠ 0 := by omega
    simp [beyond, after]

theorem stageOf_stake_of_lt (key : PublicKey) {i : Nat} (less : i < s.runs.length) :
    stageOf (s.stake key) i = stageOf s i := by
  rw [stageOf_stake, if_neg less.ne]

theorem length_stake (key : PublicKey) : (s.stake key).runs.length = s.runs.length + 1 := by
  simp [stake]

theorem sessions_stake (key other : PublicKey) :
    (s.stake key).sessions[other]? = if key = other then some s.runs.length else s.sessions[other]? := by
  simp [stake, ExtTreeMap.getElem?_insert]

theorem Settled.stake {key : PublicKey} {n : Nat} (settled : Settled s key n) (le : n ≤ s.runs.length)
    (other : PublicKey) : Settled (s.stake other) key n := by
  intro i less stage found
  rw [stageOf_stake_of_lt other (by omega)] at found
  exact settled i less stage found

theorem Latest.stake {key : PublicKey} {n i : Nat} (latest : Latest s key n i) (le : n ≤ s.runs.length)
    (other : PublicKey) : Latest (s.stake other) key n i := by
  obtain ⟨⟨stage, found⟩, last⟩ := latest
  refine ⟨⟨stage, ?_⟩, ?_⟩
  · rw [stageOf_stake_of_lt other (stageOf_bounded found)]
    exact found
  · intro j less stage found
    rw [stageOf_stake_of_lt other (by omega)] at found
    exact last j less stage found

theorem Inv.stake (inv : Inv s) (key : PublicKey) : Inv (s.stake key) where
  done := by
    intro run member
    rcases List.mem_append.mp member with member | member
    · exact inv.done run member
    · obtain rfl := List.mem_singleton.mp member
      simp [Fired]
  settled := by
    intro i key' stage found entitled
    rw [stageOf_stake] at found
    split_ifs at found with newest
    · obtain ⟨rfl, rfl⟩ := Prod.mk.inj (Option.some.inj found)
      subst newest
      rcases entitled with cleared | alone
      · exact cleared.elim
      · exact (inv.free key (Stage.staked.inj alone)).stake le_rfl key
    · exact (inv.settled i key' stage found entitled).stake (stageOf_bounded found).le key
  previous := by
    intro i key' stage previous found waits
    rw [stageOf_stake] at found
    split_ifs at found with newest
    · obtain ⟨rfl, rfl⟩ := Prod.mk.inj (Option.some.inj found)
      subst newest
      rcases waits with held | waiting
      · exact (inv.held key previous (Stage.staked.inj held)).1.stake le_rfl key
      · cases waiting
    · exact (inv.previous i key' stage previous found waits).stake (stageOf_bounded found).le key
  held := by
    intro key' i entry
    rw [length_stake]
    rw [sessions_stake] at entry
    split_ifs at entry with same
    · obtain rfl := Option.some.inj entry
      subst same
      have newest : stageOf (s.stake key) s.runs.length = some (key, .staked s.sessions[key]?) := by
        rw [stageOf_stake, if_pos rfl]
      refine ⟨⟨⟨_, newest⟩, fun j less _ _ => by omega⟩, ?_⟩
      rintro stage found rfl
      cases newest.symm.trans found
    · obtain ⟨latest, alive⟩ := inv.held key' i entry
      obtain ⟨⟨stage, found⟩, last⟩ := latest
      have kept := stageOf_stake_of_lt key (stageOf_bounded found)
      refine ⟨⟨⟨stage, kept.trans found⟩, ?_⟩, fun stage found => alive stage (kept ▸ found)⟩
      intro j less stage found
      rw [stageOf_stake] at found
      split_ifs at found with newest
      · exact absurd (Prod.mk.inj (Option.some.inj found)).1 same
      · exact last j (by omega) stage found
  free := by
    intro key' absent
    rw [sessions_stake] at absent
    split_ifs at absent with same
    rw [length_stake]
    intro i less stage found
    rw [stageOf_stake] at found
    split_ifs at found with newest
    · exact absurd (Prod.mk.inj (Option.some.inj found)).1 same
    · exact inv.free key' absent i (by omega) stage found

section Advanced
variable {i : Nat} {key : PublicKey} {old new : Stage}

theorem Goes.fired (goes : Goes s i key old new) (fired : Fired old) : Fired new := by
  cases goes with
  | first => simp [Fired] at fired
  | waits => simp [Fired] at fired
  | woken => simp [Fired] at fired
  | on _ _ kept => exact kept fired

theorem Advanced.back (advanced : Advanced s t i key old new) {j : Nat} {key' : PublicKey} {stage : Stage}
    (found : stageOf t j = some (key', stage)) :
    ∃ before, stageOf s j = some (key', before) ∧ (Fired before → Fired stage) := by
  rw [advanced.after] at found
  split_ifs at found with same
  · subst same
    obtain ⟨rfl, rfl⟩ := Prod.mk.inj (Option.some.inj found)
    exact ⟨old, advanced.before, advanced.goes.fired⟩
  · exact ⟨stage, found, id⟩

theorem Advanced.forth (advanced : Advanced s t i key old new) {j : Nat} {key' : PublicKey} {stage : Stage}
    (found : stageOf s j = some (key', stage)) : ∃ after, stageOf t j = some (key', after) := by
  rw [advanced.after]
  split_ifs with same
  · subst same
    obtain ⟨rfl, -⟩ := Prod.mk.inj (Option.some.inj (advanced.before.symm.trans found))
    exact ⟨new, rfl⟩
  · exact ⟨stage, found⟩

theorem Advanced.settled (advanced : Advanced s t i key old new) {key' : PublicKey} {n : Nat}
    (settled : Settled s key' n) : Settled t key' n := by
  intro j less stage found
  obtain ⟨before, found, fired⟩ := advanced.back found
  exact fired (settled j less before found)

theorem Advanced.latest (advanced : Advanced s t i key old new) {key' : PublicKey} {n j : Nat}
    (latest : Latest s key' n j) : Latest t key' n j := by
  obtain ⟨⟨stage, found⟩, last⟩ := latest
  refine ⟨advanced.forth found, ?_⟩
  intro k less stage found
  obtain ⟨before, found, -⟩ := advanced.back found
  exact last k less before found

theorem Inv.settled_of_done (inv : Inv s) {previous : Nat} (before : stageOf s i = some (key, .waiting previous))
    {run : Run} (stored : s.runs[previous]? = some run) (done : run.done = true) : Settled s key i := by
  -- The session waited for has fired, so it was let past its own wait before that.
  obtain ⟨⟨stage, waited⟩, last⟩ := inv.previous i key _ previous before (.inr rfl)
  obtain ⟨run', stored', rfl, rfl⟩ := stageOf_eq_some.mp waited
  obtain rfl := Option.some.inj (stored.symm.trans stored')
  have fired := (inv.done run (List.mem_of_getElem? stored)).mp done
  intro j less stage found
  rcases (last j less stage found).lt_or_eq with earlier | rfl
  · exact inv.settled previous run.key run.stage waited (.inl fired.cleared) j earlier stage found
  · obtain ⟨-, rfl⟩ := Prod.mk.inj (Option.some.inj (waited.symm.trans found))
    exact fired

theorem Inv.settled_of_gone (inv : Inv s) (advanced : Advanced s t i key old .gone)
    (entry : s.sessions[key]? = some i) : Settled t key s.runs.length := by
  obtain ⟨⟨-, last⟩, -⟩ := inv.held key i entry
  have cleared : Cleared old := by
    cases advanced.goes with
    | on cleared => exact cleared
  have earlier := advanced.settled (inv.settled i key old advanced.before (.inl cleared))
  intro j less stage found
  obtain ⟨before, was, -⟩ := advanced.back found
  rcases (last j less before was).lt_or_eq with less | rfl
  · exact earlier j less stage found
  · rw [advanced.after, if_pos rfl] at found
    exact .inr (Prod.mk.inj (Option.some.inj found)).2.symm

theorem Inv.advance (inv : Inv s) (advanced : Advanced s t i key old new) : Inv t where
  done := advanced.done inv.done
  settled := by
    intro j key' stage found entitled
    apply advanced.settled
    rw [advanced.after] at found
    split_ifs at found with same
    · subst same
      obtain ⟨rfl, rfl⟩ := Prod.mk.inj (Option.some.inj found)
      have before := advanced.before
      cases advanced.goes with
      | first => exact inv.settled i key _ before (.inr rfl)
      | waits => simp [Cleared] at entitled
      | on cleared => exact inv.settled i key _ before (.inl cleared)
      | woken previous run stored done => exact inv.settled_of_done before stored done
    · exact inv.settled j key' stage found entitled
  previous := by
    intro j key' stage previous found waits
    apply advanced.latest
    rw [advanced.after] at found
    split_ifs at found with same
    · subst same
      obtain ⟨rfl, rfl⟩ := Prod.mk.inj (Option.some.inj found)
      have before := advanced.before
      cases advanced.goes with
      | first => simp at waits
      | woken => simp at waits
      | on _ kept => rcases waits with rfl | rfl <;> exact kept.elim
      | waits previous' =>
          obtain rfl : previous' = previous := by simpa using waits
          exact inv.previous i key _ previous' before (.inl rfl)
    · exact inv.previous j key' stage previous found waits
  held := by
    intro key' j entry
    have kept : s.sessions[key']? = some j ∧ ¬ (new = .gone ∧ key' = key ∧ j = i) := by
      rw [advanced.sessions] at entry
      split_ifs at entry with dropped
      · rw [ExtTreeMap.getElem?_erase] at entry
        split_ifs at entry with same
        exact ⟨entry, fun gone => same (Std.compare_eq_iff_eq.mpr gone.2.1.symm)⟩
      · refine ⟨entry, ?_⟩
        rintro ⟨gone, rfl, rfl⟩
        exact dropped ⟨gone, entry⟩
    obtain ⟨latest, alive⟩ := inv.held key' j kept.1
    rw [advanced.length]
    refine ⟨advanced.latest latest, ?_⟩
    rintro stage found rfl
    rw [advanced.after] at found
    split_ifs at found with same
    · obtain ⟨rfl, rfl⟩ := Prod.mk.inj (Option.some.inj found)
      exact kept.2 ⟨rfl, rfl, same.symm⟩
    · exact alive .gone found rfl
  free := by
    intro key' absent
    rw [advanced.length]
    rw [advanced.sessions] at absent
    split_ifs at absent with dropped
    · obtain ⟨rfl, entry⟩ := dropped
      by_cases same : key' = key
      · subst same
        exact inv.settled_of_gone advanced entry
      · rw [ExtTreeMap.getElem?_erase, if_neg fun equal => same (Std.compare_eq_iff_eq.mp equal).symm] at absent
        exact advanced.settled (inv.free key' absent)
    · exact advanced.settled (inv.free key' absent)

end Advanced

theorem reachable_inv (reachable : claimsUndisturbed.Reachable s) : Inv s := by
  apply reachable.invariant Inv
  · rintro s rfl
    exact inv_new
  · intro s event t _ inv stepped
    rcases step_cases stepped with ⟨key, -, rfl⟩ | ⟨i, key, old, new, advanced⟩
    · exact inv.stake key
    · exact inv.advance advanced

theorem giveUp_keeps {i newer : Nat} {key other : PublicKey} (differ : newer ≠ i)
    (entry : s.sessions[key]? = some newer) : (s.giveUp i other).sessions[key]? = some newer := by
  unfold giveUp
  split_ifs with held
  · rw [ExtTreeMap.getElem?_erase, if_neg, entry]
    intro same
    obtain rfl := Std.compare_eq_iff_eq.mp same
    exact differ (Option.some.inj (entry.symm.trans held))
  · exact entry

/-- A session sends `Welcome` only after `done` has fired for each of its key that staked before it. -/
theorem supersede_chain {s : Claims} (reachable : claimsUndisturbed.Reachable s) :
    (∀ i sent t run, claimsUndisturbed.step s (.welcome i sent) t → s.runs[i]? = some run →
      ∀ j earlier, j < i → s.runs[j]? = some earlier → earlier.key = run.key → earlier.done = true) ∧
    (∀ i event t, event = .done i ∨ event = .giveUp i → claimsUndisturbed.step s event t →
      ∀ (key : PublicKey) (newer : Nat), i < newer → s.sessions[key]? = some newer →
        t.sessions[key]? = some newer) ∧
    ∀ (key : PublicKey) (i : Nat), s.sessions[key]? = some i →
      ∃ run : Run, s.runs[i]? = some run ∧ run.key = key ∧ run.stage ≠ .gone ∧
        ∀ (j : Nat) (later : Run), i < j → s.runs[j]? = some later → later.key ≠ key := by
  have inv := reachable_inv reachable
  refine ⟨?_, ?_, ?_⟩
  · rintro i sent t run ⟨-, stepped⟩ stored j earlier less stored' same
    obtain ⟨run', found, stepped⟩ := Option.bind_eq_some_iff.mp stepped
    obtain rfl := Option.some.inj (stored.symm.trans found)
    split_ifs at stepped with welcoming
    all_goals
      have settled := inv.settled i run.key run.stage (stageOf_eq_some.mpr ⟨run, stored, rfl, rfl⟩)
        (.inl (welcoming ▸ trivial))
      exact (inv.done earlier (List.mem_of_getElem? stored')).mpr
        (settled j less earlier.stage (stageOf_eq_some.mpr ⟨earlier, stored', same, rfl⟩))
  · rintro i event t drops stepped key newer less entry
    rcases drops with rfl | rfl
    · obtain ⟨run, -, stepped⟩ := Option.bind_eq_some_iff.mp stepped.2
      split_ifs at stepped
      obtain rfl := Option.some.inj stepped
      exact entry
    · obtain ⟨run, -, stepped⟩ := Option.bind_eq_some_iff.mp stepped.2
      split_ifs at stepped
      obtain rfl := Option.some.inj stepped
      exact giveUp_keeps less.ne' entry
  · intro key i entry
    obtain ⟨⟨⟨stage, found⟩, last⟩, alive⟩ := inv.held key i entry
    obtain ⟨run, stored, rfl, rfl⟩ := stageOf_eq_some.mp found
    refine ⟨run, stored, rfl, alive run.stage found, ?_⟩
    intro j later less stored' same
    have le := last j (List.getElem?_eq_some_iff.mp stored').1 later.stage
      (stageOf_eq_some.mpr ⟨later, stored', same, rfl⟩)
    omega

/-- The second session of a key, woken by the first. -/
def handover (key : PublicKey) : Claims where
  runs := [⟨key, .dropping, true, true⟩, ⟨key, .welcoming, false, false⟩]
  sessions := ((∅ : ExtTreeMap PublicKey Nat).insert key 0).insert key 1

theorem handover_reachable (key : PublicKey) : claimsUndisturbed.Reachable (handover key) := by
  have follows {s t : Claims} (event : Event) (reachable : claimsUndisturbed.Reachable s)
      (allowed : ∀ run, event ≠ .elapsed run ∧ event ≠ .shutdown run) (stepped : s.step event = some t) :
      claimsUndisturbed.Reachable t := by
    have step : claimsUndisturbed.step s event t := ⟨allowed, stepped⟩
    exact reachable.next step
  have alone : Claims.new.step (.stake key) =
      some ⟨[⟨key, .staked none, false, false⟩], (∅ : ExtTreeMap PublicKey Nat).insert key 0⟩ := by
    simp [Claims.step, stake, Claims.new]
  have first := follows (.stake key) (.initial rfl) (by simp) alone
  have second := follows (.supersede 0) first (by simp) rfl
  have third := follows (.welcome 0 true) second (by simp) rfl
  have both : Claims.step ⟨[⟨key, .serving, false, false⟩], (∅ : ExtTreeMap PublicKey Nat).insert key 0⟩
      (.stake key) = some ⟨[⟨key, .serving, false, false⟩, ⟨key, .staked (some 0), false, false⟩],
        ((∅ : ExtTreeMap PublicKey Nat).insert key 0).insert key 1⟩ := by
    simp [Claims.step, stake]
  have fourth := follows (.stake key) third (by simp) both
  have fifth := follows (.supersede 1) fourth (by simp) rfl
  have sixth := follows (.superseded 0) fifth (by simp) rfl
  have seventh := follows (.done 0) sixth (by simp) rfl
  exact follows (.woken 1) seventh (by simp) rfl

theorem supersede_chain_handover :
    claimsUndisturbed.Reachable (handover (Vector.replicate 32 0)) ∧
    ((handover (Vector.replicate 32 0)).step (.welcome 1 true)).isSome ∧
    ∀ (j : Nat) (earlier : Run), j < 1 → (handover (Vector.replicate 32 0)).runs[j]? = some earlier →
      earlier.key = Vector.replicate 32 0 → earlier.done = true := by
  have reachable := handover_reachable (Vector.replicate 32 0)
  have sends : ((handover (Vector.replicate 32 0)).step (.welcome 1 true)).isSome := rfl
  obtain ⟨t, stepped⟩ := Option.isSome_iff_exists.mp sends
  exact ⟨reachable, sends, (supersede_chain reachable).1 1 true t _ ⟨by simp, stepped⟩ rfl⟩

end Chain
end Hawse.Proof.Claims
