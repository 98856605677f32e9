import Hawse.Client.Traffic
import Hawse.Lib.Ledger
import Hawse.Lib.Lists

namespace Hawse.Proof.Client.Traffic
open Lib Hawse.Client.Traffic
open Std (ExtTreeMap)

/-! ## Figures -/

theorem add_eq (this other : Counts) : this + other = ⟨this.opened + other.opened, this.visitors + other.visitors,
    this.down + other.down, this.up + other.up, this.datagramsDown + other.datagramsDown,
    this.datagramsUp + other.datagramsUp, this.dropped + other.dropped⟩ := rfl

theorem zero_eq : (0 : Counts) = ⟨0, 0, 0, 0, 0, 0, 0⟩ := rfl

instance : AddCommMonoid Counts where
  add_assoc a b c := by simp only [add_eq, Nat.add_assoc]
  zero_add a := by simp only [add_eq, zero_eq, Nat.zero_add]
  add_zero a := by simp only [add_eq, zero_eq, Nat.add_zero]
  add_comm a b := by
    rw [add_eq, add_eq]
    simp only [Nat.add_comm]
  nsmul := nsmulRec

@[simp] theorem opened_add (a b : Counts) : (a + b).opened = a.opened + b.opened := rfl

@[simp] theorem visitors_add (a b : Counts) : (a + b).visitors = a.visitors + b.visitors := rfl

@[simp] theorem opened_zero : (0 : Counts).opened = 0 := rfl

@[simp] theorem visitors_zero : (0 : Counts).visitors = 0 := rfl

theorem opened_sum (l : List Counts) : l.sum.opened = (l.map Counts.opened).sum := by
  induction l with
  | nil => rfl
  | cons a l ih => rw [List.sum_cons, opened_add, ih, List.map_cons, List.sum_cons]

theorem visitors_sum (l : List Counts) : l.sum.visitors = (l.map Counts.visitors).sum := by
  induction l with
  | nil => rfl
  | cons a l ih => rw [List.sum_cons, visitors_add, ih, List.map_cons, List.sum_cons]

theorem figures_insert (totals : Totals) (service other : String) (counts : Counts) :
    figures (totals.insert service counts) other = if service = other then counts else figures totals other := by
  unfold figures
  rw [ExtTreeMap.getElem?_insert]
  by_cases same : service = other
  · simp [same]
  · simp [same]

theorem figures_absent {totals : Totals} {service : String} (absent : service ∉ totals) : figures totals service = 0 := by
  unfold figures
  rw [ExtTreeMap.getElem?_eq_none absent]
  rfl

theorem figures_addTo (totals : Totals) (service other : String) (counts : Counts) :
    figures (addTo totals service counts) other = figures totals other + if service = other then counts else 0 := by
  rw [addTo, figures_insert]
  split_ifs with same
  · rw [same]
  · rw [add_zero]

theorem figures_foldl (entries : List (String × Counts)) (totals : Totals) (service : String) :
    figures (entries.foldl (fun totals entry => addTo totals entry.1 entry.2) totals) service =
      figures totals service + (entries.map fun entry => if entry.1 = service then entry.2 else 0).sum := by
  induction entries generalizing totals with
  | nil => exact (add_zero _).symm
  | cons entry entries ih => rw [List.foldl_cons, ih, figures_addTo, List.map_cons, List.sum_cons, add_assoc]

theorem sum_absent {entries : List (String × Counts)} {service : String} (absent : service ∉ entries.map Prod.fst) :
    (entries.map fun entry => if entry.1 = service then entry.2 else 0).sum = 0 := by
  induction entries with
  | nil => rfl
  | cons entry entries ih =>
      rw [List.map_cons, List.mem_cons, not_or] at absent
      rw [List.map_cons, List.sum_cons, ih absent.2, if_neg fun same => absent.1 same.symm, add_zero]

theorem sum_present {entries : List (String × Counts)} {service : String} {counts : Counts}
    (distinct : (entries.map Prod.fst).Nodup) (present : (service, counts) ∈ entries) :
    (entries.map fun entry => if entry.1 = service then entry.2 else 0).sum = counts := by
  induction entries with
  | nil => cases present
  | cons entry entries ih =>
      rw [List.map_cons, List.nodup_cons] at distinct
      rw [List.map_cons, List.sum_cons]
      cases present with
      | head => rw [sum_absent distinct.1, if_pos rfl, add_zero]
      | tail _ later =>
          have apart : entry.1 ≠ service := by
            rintro rfl
            exact distinct.1 (List.mem_map.mpr ⟨_, later, rfl⟩)
          rw [if_neg apart, ih distinct.2 later, zero_add]

theorem sum_toList (totals : Totals) (service : String) :
    (totals.toList.map fun entry => if entry.1 = service then entry.2 else 0).sum = figures totals service := by
  have keys : totals.toList.map Prod.fst = totals.keys := ExtTreeMap.map_fst_toList_eq_keys
  cases found : totals[service]? with
  | none =>
      have absent : service ∉ totals := by
        intro present
        rw [ExtTreeMap.mem_iff_isSome_getElem?, found] at present
        cases present
      rw [figures_absent absent]
      apply sum_absent
      rw [keys, ExtTreeMap.mem_keys]
      exact absent
  | some counts =>
      rw [figures, found, Option.getD_some]
      refine sum_present ?_ (ExtTreeMap.mem_toList_iff_getElem?_eq_some.mpr found)
      rw [keys]
      exact totals.nodup_keys

/-! ## One client -/

def alive (turn : Turn) (service : String) : Nat :=
  turn.guards.countP fun guard => guard.service = service && guard.alive

def made (turn : Turn) (service : String) : Nat := turn.guards.countP fun guard => guard.service = service

/-- The guards a service has now, over every client there has been, and those ever made. -/
def openNow (s : State) (service : String) : Nat := (s.turns.map (alive · service)).sum

def everMade (s : State) (service : String) : Nat := (s.turns.map (made · service)).sum

/-- How a client's figures for a service stand to its guards and to what has been read of them. -/
structure Sound (turn : Turn) (service : String) (unread : Bool) : Prop where
  opened : (figures turn.meters service).opened = alive turn service
  visitors : (figures turn.meters service).visitors = made turn service
  before : unread = true → figures turn.copied service = 0 ∧ turn.late.count (service, true) = 0 ∧
    turn.late.count (service, false) = 0
  since : unread = false →
    alive turn service + turn.late.count (service, false) =
      (figures turn.copied service).opened + turn.late.count (service, true) ∧
    made turn service = (figures turn.copied service).visitors + turn.late.count (service, true)

theorem Sound.new (service : String) (unread : Bool) : Sound .new service unread :=
  ⟨rfl, rfl, fun _ => ⟨rfl, rfl, rfl⟩, fun _ => ⟨rfl, rfl⟩⟩

theorem Sound.read {turn : Turn} {service : String} (sound : Sound turn service true) {copied : Totals}
    (reads : figures copied service = figures turn.meters service) :
    Sound { turn with copied := copied } service false := by
  obtain ⟨_, no_opens, no_drops⟩ := sound.before rfl
  refine ⟨sound.opened, sound.visitors, by simp, fun _ => ?_⟩
  simp only [reads, no_opens, no_drops, sound.opened, sound.visitors, add_zero]
  exact ⟨rfl, rfl⟩

theorem Sound.congr {turn : Turn} {service : String} {unread : Bool} (sound : Sound turn service unread) {copied : Totals}
    (same : figures copied service = figures turn.copied service) :
    Sound { turn with copied := copied } service unread := by
  refine ⟨sound.opened, sound.visitors, ?_, ?_⟩
  · rw [same]
    exact sound.before
  · rw [same]
    exact sound.since

theorem count_noted (s : State) (i : Nat) (turn : Turn) (service other : String) (opened opened' : Bool) :
    (s.noted i turn service opened).count (other, opened') = turn.late.count (other, opened') +
      if s.unread i service = false ∧ service = other ∧ opened = opened' then 1 else 0 := by
  unfold State.noted
  cases s.unread i service with
  | true => simp
  | false => simp [List.count_append, List.count_singleton]

section Turn
variable {s : State} {i : Nat} {turn : Turn} {service other : String} {counts : Counts}

theorem Sound.opens (sound : Sound turn other (s.unread i other)) (found : turn.meters[service]? = some counts) :
    Sound { turn with
      meters := turn.meters.insert service { counts with opened := counts.opened + 1, visitors := counts.visitors + 1 }
      guards := turn.guards ++ [⟨service, true⟩]
      late := s.noted i turn service true } other (s.unread i other) := by
  have figured : figures turn.meters service = counts := by
    rw [figures, found, Option.getD_some]
  obtain ⟨opened, visitors, before, since⟩ := sound
  by_cases same : service = other
  · subst same
    rw [figured] at opened visitors
    refine ⟨?_, ?_, ?_, ?_⟩
    · simp [figures_insert, alive, List.countP_append, opened]
    · simp [figures_insert, made, List.countP_append, visitors]
    · intro unread
      simpa [count_noted, unread] using before unread
    · intro read
      obtain ⟨opens, visits⟩ := since read
      simp only [alive, made, List.countP_append, List.countP_singleton, count_noted, read] at opens visits ⊢
      simp
      omega
  · refine ⟨?_, ?_, ?_, ?_⟩
    · simpa [figures_insert, same, alive, List.countP_append] using opened
    · simpa [figures_insert, same, made, List.countP_append] using visitors
    · simpa [count_noted, same] using before
    · simpa [count_noted, same, alive, made, List.countP_append] using since

theorem alive_drop {g : Nat} {guard : Guard} (found : turn.guards[g]? = some guard) (living : guard.alive = true)
    (other : String) :
    alive { turn with guards := turn.guards.set g { guard with alive := false } } other +
      (if guard.service = other then 1 else 0) = alive turn other := by
  obtain ⟨bound, same⟩ := List.getElem?_eq_some_iff.mp found
  have counted := List.countP_pos_iff (p := fun guard : Guard => guard.service = other && guard.alive) (l := turn.guards)
  simp only [alive, List.countP_set bound, same, living]
  by_cases here : guard.service = other
  · have some_ := counted.mpr ⟨guard, List.mem_of_getElem? found, by simp [here, living]⟩
    simp [here]
    omega
  · simp [here]

theorem made_drop {g : Nat} {guard : Guard} (found : turn.guards[g]? = some guard) (other : String) :
    made { turn with guards := turn.guards.set g { guard with alive := false } } other = made turn other := by
  obtain ⟨bound, same⟩ := List.getElem?_eq_some_iff.mp found
  have counted := List.countP_pos_iff (p := fun guard : Guard => guard.service = other) (l := turn.guards)
  simp only [made, List.countP_set bound, same]
  by_cases here : guard.service = other
  · have some_ := counted.mpr ⟨guard, List.mem_of_getElem? found, by simp [here]⟩
    simp [here]
    omega
  · simp [here]

theorem Sound.drops (sound : Sound turn other (s.unread i other)) {g : Nat} {guard : Guard}
    (held : turn.guards[g]? = some guard) (living : guard.alive = true)
    (found : turn.meters[guard.service]? = some counts) :
    Sound { turn with
      meters := turn.meters.insert guard.service { counts with opened := counts.opened - 1 }
      guards := turn.guards.set g { guard with alive := false }
      late := s.noted i turn guard.service false } other (s.unread i other) := by
  have figured : figures turn.meters guard.service = counts := by
    rw [figures, found, Option.getD_some]
  have fewer := alive_drop held living other
  have as_many := made_drop held other
  obtain ⟨opened, visitors, before, since⟩ := sound
  by_cases same : guard.service = other
  · subst same
    rw [figured] at opened visitors
    rw [if_pos rfl] at fewer
    refine ⟨?_, ?_, ?_, ?_⟩
    · rw [figures_insert, if_pos rfl]
      change counts.opened - 1 = alive { turn with guards := _ } _
      omega
    · rw [figures_insert, if_pos rfl]
      exact visitors.trans as_many.symm
    · intro unread
      simpa [count_noted, unread] using before unread
    · intro read
      obtain ⟨opens, visits⟩ := since read
      change alive { turn with guards := _ } _ + _ = _ ∧ made { turn with guards := _ } _ = _
      rw [as_many]
      simp [count_noted, read]
      omega
  · rw [if_neg same, add_zero] at fewer
    refine ⟨?_, ?_, ?_, ?_⟩
    · rw [figures_insert, if_neg same]
      exact opened.trans fewer.symm
    · rw [figures_insert, if_neg same]
      exact visitors.trans as_many.symm
    · simpa [count_noted, same] using before
    · intro read
      change alive { turn with guards := _ } _ + _ = _ ∧ made { turn with guards := _ } _ = _
      rw [fewer, as_many]
      simpa [count_noted, same] using since read

theorem Sound.insert {unread : Bool} (sound : Sound turn other unread) (now : Counts)
    (opened : now.opened = (figures turn.meters service).opened)
    (visitors : now.visitors = (figures turn.meters service).visitors) :
    Sound { turn with meters := turn.meters.insert service now } other unread := by
  refine ⟨?_, ?_, sound.before, sound.since⟩
  · rw [figures_insert]
    split_ifs with same
    · rw [opened, same]
      exact sound.opened
    · exact sound.opened
  · rw [figures_insert]
    split_ifs with same
    · rw [visitors, same]
      exact sound.visitors
    · exact sound.visitors

end Turn

/-! ## Runs -/

def copies (s : State) (service : String) : List Counts := s.turns.map fun turn => figures turn.copied service

structure Inv (s : State) : Prop where
  sound : ∀ (i : Nat) (turn : Turn), s.turns[i]? = some turn → ∀ service, Sound turn service (s.unread i service)
  carried : ∀ service, figures s.carried service = (copies s service).sum
  shown : ∀ service, figures s.shown.carried service = (copies s service).dropLast.sum
  latest : s.shown.traffic = if s.turns.length = 0 then none else some (s.turns.length - 1)
  distinct : ∀ left, s.stage = .copying left → left.Nodup

section Steps
variable {s t : State}

theorem Inv.change (inv : Inv s) {i : Nat} {old new : Turn} (found : s.turns[i]? = some old)
    (copied : new.copied = old.copied) (sound : ∀ service, Sound new service (s.unread i service)) :
    Inv { s with turns := s.turns.set i new } := by
  have same (service : String) : copies { s with turns := s.turns.set i new } service = copies s service :=
    map_set_same found (by rw [copied])
  refine ⟨?_, ?_, ?_, ?_, inv.distinct⟩
  · intro j turn at_j service
    have unread : State.unread { s with turns := s.turns.set i new } j service = s.unread j service := by
      simp [State.unread]
    rw [unread]
    by_cases here : i = j
    · subst here
      rw [List.getElem?_set_self (List.getElem?_eq_some_iff.mp found).1] at at_j
      cases at_j
      exact sound service
    · exact inv.sound j turn ((List.getElem?_set_ne here).symm.trans at_j) service
  · intro service
    rw [same]
    exact inv.carried service
  · intro service
    rw [same]
    exact inv.shown service
  · simpa using inv.latest

theorem Inv.start (inv : Inv s) (ready : s.stage = .ready) : Inv s.start := by
  have appended (service : String) : copies s.start service = copies s service ++ [0] := by
    simp only [copies, State.start, List.map_append, List.map_cons, List.map_nil]
    rfl
  refine ⟨?_, ?_, ?_, ?_, ?_⟩
  · intro i turn found service
    by_cases before : i < s.turns.length
    · have sound := inv.sound i turn ((List.getElem?_append_left before).symm.trans found) service
      have unread : s.unread i service = false := by
        simp [State.unread, ready, Stage.unread]
      have still : s.start.unread i service = false := by
        simp [State.unread, State.start]
        omega
      rw [still, ← unread]
      exact sound
    · obtain rfl : turn = .new := by
        have found : (s.turns ++ [.new])[i]? = some turn := found
        rw [List.getElem?_append_right (not_lt.mp before)] at found
        exact (List.mem_singleton.mp (List.mem_of_getElem? found))
      exact Sound.new service _
  · intro service
    rw [appended, List.sum_append, List.sum_singleton, add_zero]
    exact inv.carried service
  · intro service
    rw [appended, List.dropLast_concat]
    exact inv.carried service
  · simp [State.start]
  · intro left copying
    cases copying

/-- The client the loop is on is the last one. -/
theorem split_last {turn : Turn} (last : s.turns.getLast? = some turn) :
    s.turns = s.turns.dropLast ++ [turn] ∧ s.turns[s.turns.length - 1]? = some turn := by
  rw [List.getLast?_eq_getElem?] at last
  refine ⟨?_, last⟩
  have nonempty : s.turns ≠ [] := by
    rintro empty
    simp [empty] at last
  have same := List.getLast?_eq_some_getLast nonempty
  rw [List.getLast?_eq_getElem?, last] at same
  rw [Option.some.inj same]
  exact (List.dropLast_append_getLast nonempty).symm

theorem Inv.stage (inv : Inv s) (stage : Stage) (distinct : ∀ left, stage = .copying left → left.Nodup)
    (sound : ∀ turn, s.turns.getLast? = some turn → ∀ service, Sound turn service (stage.unread service)) :
    Inv { s with stage := stage } := by
  refine ⟨?_, inv.carried, inv.shown, inv.latest, distinct⟩
  intro i turn found service
  by_cases last : i + 1 = s.turns.length
  · have here : s.turns.getLast? = some turn := by
      rw [List.getLast?_eq_getElem?, ← last]
      exact found
    simpa [State.unread, last] using sound turn here service
  · simpa [State.unread, last] using inv.sound i turn found service

theorem Inv.last_sound (inv : Inv s) {turn : Turn} (last : s.turns.getLast? = some turn) (service : String) :
    Sound turn service (s.stage.unread service) := by
  obtain ⟨split, found⟩ := split_last last
  have length : s.turns.length - 1 + 1 = s.turns.length := by
    have := (List.getElem?_eq_some_iff.mp found).1
    omega
  have sound := inv.sound _ turn found service
  simpa [State.unread, length] using sound

theorem Inv.finish (inv : Inv s) {turn : Turn} (last : s.turns.getLast? = some turn) (running : s.stage = .running) :
    Inv { s with stage := .copying turn.meters.keys } := by
  refine inv.stage _ ?_ ?_
  · intro left copying
    cases copying
    exact turn.meters.nodup_keys
  · intro other same service
    cases last.symm.trans same
    have sound := inv.last_sound last service
    rw [running] at sound
    by_cases metered : service ∈ turn.meters
    · simpa [Stage.unread, metered] using sound
    · -- There is nothing to read of a service without a meter.
      have reads : figures turn.copied service = figures turn.meters service := by
        rw [(sound.before rfl).1, figures_absent metered]
      simpa [Stage.unread, metered] using sound.read reads

section Copy
variable {turn : Turn} (last : s.turns.getLast? = some turn) (service : String) (left : List String)
include last

theorem copies_last (other : String) : copies s other =
    s.turns.dropLast.map (fun turn => figures turn.copied other) ++ [figures turn.copied other] := by
  rw [copies, (split_last last).1]
  simp

theorem copies_copy (other : String) : copies (s.copy turn service left) other =
    s.turns.dropLast.map (fun turn => figures turn.copied other) ++
      [figures (turn.copied.insert service (figures turn.meters service)) other] := by
  let read : Turn := { turn with copied := turn.copied.insert service (figures turn.meters service) }
  have turns : (s.copy turn service left).turns = s.turns.dropLast ++ [read] := by
    change s.turns.set (s.turns.length - 1) read = _
    rw [(split_last last).1]
    simp
  rw [copies, turns]
  simp [read]

end Copy

theorem Inv.copy_sound (inv : Inv s) {turn : Turn} (last : s.turns.getLast? = some turn) {service : String}
    {left : List String} (copying : s.stage = .copying (service :: left)) (fresh : service ∉ left) {i : Nat} {other : Turn}
    (found : (s.copy turn service left).turns[i]? = some other) (name : String) :
    Sound other name ((s.copy turn service left).unread i name) := by
  have bound := (List.getElem?_eq_some_iff.mp (split_last last).2).1
  have sound := inv.last_sound last
  rw [copying] at sound
  by_cases here : s.turns.length - 1 = i
  · subst here
    obtain rfl := Option.some.inj ((List.getElem?_set_self bound).symm.trans found)
    have unread : (s.copy turn service left).unread (s.turns.length - 1) name = left.contains name := by
      have length : s.turns.length - 1 + 1 = s.turns.length := by omega
      simp [State.unread, State.copy, Stage.unread, length]
    rw [unread]
    by_cases same : service = name
    · subst same
      have unread_before : Sound turn service true := by simpa [Stage.unread] using sound service
      have gone : left.contains service = false := by simpa using fresh
      rw [gone]
      exact unread_before.read (by rw [figures_insert, if_pos rfl])
    · have still : Sound turn name (left.contains name) := by simpa [Stage.unread, Ne.symm same] using sound name
      exact still.congr (by rw [figures_insert, if_neg same])
  · have before : s.unread i name = false := by
      simp [State.unread]
      omega
    have after : (s.copy turn service left).unread i name = false := by
      simp [State.unread, State.copy]
      omega
    rw [after, ← before]
    exact inv.sound i other ((List.getElem?_set_ne here).symm.trans found) name

theorem Inv.copy (inv : Inv s) {turn : Turn} (last : s.turns.getLast? = some turn) {service : String} {left : List String}
    (copying : s.stage = .copying (service :: left)) : Inv (s.copy turn service left) := by
  obtain ⟨fresh, distinct⟩ := List.nodup_cons.mp (inv.distinct _ copying)
  refine ⟨fun i other found name => inv.copy_sound last copying fresh found name, ?_, ?_, ?_, ?_⟩
  · intro other
    rw [copies_copy last, List.sum_append, List.sum_singleton]
    change figures (addTo s.carried service (figures turn.meters service)) other = _
    rw [figures_addTo, inv.carried, copies_last last, List.sum_append, List.sum_singleton, add_assoc, figures_insert]
    split_ifs with same
    · -- It was unread, so there is nothing of it yet.
      have sound := inv.last_sound last service
      rw [copying] at sound
      rw [← same, (sound.before (by simp [Stage.unread])).1, zero_add]
    · rw [add_zero]
  · intro other
    have shown := inv.shown other
    rw [copies_last last, List.dropLast_concat] at shown
    rw [copies_copy last, List.dropLast_concat]
    exact shown
  · simpa [State.copy] using inv.latest
  · intro rest copying
    cases copying
    exact distinct

theorem Inv.copied (inv : Inv s) (copying : s.stage = .copying []) (again : Bool) :
    Inv { s with stage := if again then .ready else .stopped } := by
  refine inv.stage _ ?_ ?_
  · cases again <;> simp
  · intro turn last service
    have sound := inv.last_sound last service
    rw [copying] at sound
    cases again <;> exact sound

theorem Inv.make (inv : Inv s) {i : Nat} {turn : Turn} (found : s.turns[i]? = some turn) (service : String) :
    Inv (s.make i turn service) := by
  unfold State.make
  split_ifs with metered
  · exact inv
  · refine inv.change found rfl fun other => (inv.sound i turn found other).insert _ ?_ ?_
    · rw [figures_absent metered]
      rfl
    · rw [figures_absent metered]
      rfl

inductive Stepped (s : State) : Event → State → Prop
  | start (ready : s.stage = .ready) : Stepped s .start s.start
  | meter {i : Nat} {turn : Turn} (found : s.turns[i]? = some turn) (service : String) :
      Stepped s (.meter i service) (s.make i turn service)
  | opens {i : Nat} {turn : Turn} {service : String} {counts : Counts} (found : s.turns[i]? = some turn)
      (metered : turn.meters[service]? = some counts) :
      Stepped s (.opens i service) { s with turns := s.turns.set i { turn with
        meters := turn.meters.insert service
          { counts with opened := counts.opened + 1, visitors := counts.visitors + 1 }
        guards := turn.guards ++ [⟨service, true⟩]
        late := s.noted i turn service true } }
  | drops {i g : Nat} {turn : Turn} {guard : Guard} {counts : Counts} (found : s.turns[i]? = some turn)
      (held : turn.guards[g]? = some guard) (metered : turn.meters[guard.service]? = some counts)
      (living : guard.alive = true) :
      Stepped s (.drops i g) { s with turns := s.turns.set i { turn with
        meters := turn.meters.insert guard.service { counts with opened := counts.opened - 1 }
        guards := turn.guards.set g { guard with alive := false }
        late := s.noted i turn guard.service false } }
  | carries {i : Nat} {turn : Turn} {service : String} {counts : Counts} (found : s.turns[i]? = some turn)
      (metered : turn.meters[service]? = some counts) (down up datagramsDown datagramsUp dropped : Nat) :
      Stepped s (.carries i service down up datagramsDown datagramsUp dropped) { s with turns := s.turns.set i { turn with
        meters := turn.meters.insert service (counts + ⟨0, 0, down, up, datagramsDown, datagramsUp, dropped⟩) } }
  | finish {turn : Turn} (last : s.turns.getLast? = some turn) (running : s.stage = .running) :
      Stepped s .finish { s with stage := .copying turn.meters.keys }
  | read {turn : Turn} {service : String} {left : List String} (last : s.turns.getLast? = some turn)
      (copying : s.stage = .copying (service :: left)) : Stepped s .read (s.copy turn service left)
  | copied (copying : s.stage = .copying []) (again : Bool) :
      Stepped s (.copied again) { s with stage := if again then .ready else .stopped }

theorem step_stepped {event : Event} (stepped : next s event = some t) : Stepped s event t := by
  cases event with
  | start =>
      simp only [next] at stepped
      split_ifs at stepped with ready
      cases stepped
      exact .start ready
  | meter i service =>
      obtain ⟨turn, found, stepped⟩ := Option.bind_eq_some_iff.mp stepped
      split at stepped
      · split_ifs at stepped
        cases stepped
        exact .meter found service
      · cases stepped
        exact .meter found service
  | opens i service =>
      obtain ⟨turn, found, stepped⟩ := Option.bind_eq_some_iff.mp stepped
      obtain ⟨counts, metered, stepped⟩ := Option.bind_eq_some_iff.mp stepped
      cases stepped
      exact .opens found metered
  | drops i g =>
      obtain ⟨turn, found, stepped⟩ := Option.bind_eq_some_iff.mp stepped
      obtain ⟨guard, held, stepped⟩ := Option.bind_eq_some_iff.mp stepped
      obtain ⟨counts, metered, stepped⟩ := Option.bind_eq_some_iff.mp stepped
      split_ifs at stepped with living
      cases stepped
      exact .drops found held metered living
  | carries i service down up datagramsDown datagramsUp dropped =>
      obtain ⟨turn, found, stepped⟩ := Option.bind_eq_some_iff.mp stepped
      obtain ⟨counts, metered, stepped⟩ := Option.bind_eq_some_iff.mp stepped
      cases stepped
      exact .carries found metered down up datagramsDown datagramsUp dropped
  | finish =>
      obtain ⟨turn, last, stepped⟩ := Option.bind_eq_some_iff.mp stepped
      split_ifs at stepped with running
      cases stepped
      exact .finish last running
  | read =>
      obtain ⟨turn, last, stepped⟩ := Option.bind_eq_some_iff.mp stepped
      split at stepped
      · rename_i service left copying
        cases stepped
        exact .read last copying
      · cases stepped
  | copied again =>
      by_cases copying : s.stage = .copying []
      · simp only [next, copying, if_true] at stepped
        cases stepped
        exact .copied copying again
      · simp [next, copying] at stepped

theorem Inv.step (inv : Inv s) {event : Event} (stepped : next s event = some t) : Inv t := by
  cases step_stepped stepped with
  | start ready => exact inv.start ready
  | meter found service => exact inv.make found service
  | opens found metered => exact inv.change found rfl fun other => (inv.sound _ _ found other).opens metered
  | drops found held metered living =>
      exact inv.change found rfl fun other => (inv.sound _ _ found other).drops held living metered
  | carries found metered down up datagramsDown datagramsUp dropped =>
      refine inv.change found rfl fun other => (inv.sound _ _ found other).insert _ ?_ ?_
      · rw [figures, metered, Option.getD_some, opened_add, add_zero]
      · rw [figures, metered, Option.getD_some, visitors_add, add_zero]
  | finish last running => exact inv.finish last running
  | read last copying => exact inv.copy last copying
  | copied copying again => exact inv.copied copying again

theorem inv_of_reachable (reachable : system.Reachable s) : Inv s := by
  refine reachable.invariant Inv ?_ fun s event t _ inv stepped => inv.step stepped
  rintro _ rfl
  refine ⟨?_, fun _ => rfl, fun _ => rfl, rfl, ?_⟩
  · intro i turn found
    simp [State.init] at found
  · intro left copying
    cases copying

end Steps

/-! ## The status -/

/-- The status's figures for a service: each client counted once, a finished one by what was read of it, and
between them the guards there are and the guards there have been. -/
structure Right (s : State) (service : String) : Prop where
  once : figures s.totals service = (s.turns.dropLast.map fun turn => figures turn.copied service).sum +
    s.turns.getLast?.elim 0 fun turn => figures turn.meters service
  opened : (figures s.totals service).opened = openNow s service
  visitors : (figures s.totals service).visitors = everMade s service

/-- No guard of the service was made or dropped on a client that had been read, of those before the last. -/
def Settled (s : State) (service : String) : Prop :=
  ∀ turn ∈ s.turns.dropLast, ∀ entry ∈ turn.late, entry.1 ≠ service

section Status
variable {s : State} (inv : Inv s) (service : String)
include inv

theorem figures_totals : figures s.totals service = (s.turns.dropLast.map fun turn => figures turn.copied service).sum +
    s.turns.getLast?.elim 0 fun turn => figures turn.meters service := by
  have shown := inv.shown service
  rw [copies, ← List.map_dropLast] at shown
  have latest : s.shown.traffic.bind (s.turns[·]?) = s.turns.getLast? := by
    rw [inv.latest, List.getLast?_eq_getElem?]
    split_ifs with empty
    · simp [List.length_eq_zero_iff.mp empty]
    · rfl
  rw [State.totals, latest, figures_foldl, shown]
  cases s.turns.getLast? with
  | none => rfl
  | some turn => simp only [sum_toList, Option.elim_some]

theorem since_read {turn : Turn} (member : turn ∈ s.turns.dropLast) :
    alive turn service + turn.late.count (service, false) =
      (figures turn.copied service).opened + turn.late.count (service, true) ∧
    made turn service = (figures turn.copied service).visitors + turn.late.count (service, true) := by
  obtain ⟨i, bound, found⟩ := List.mem_iff_getElem.mp member
  rw [List.length_dropLast] at bound
  rw [List.getElem_dropLast] at found
  have sound := inv.sound i turn (List.getElem?_eq_some_iff.mpr ⟨by omega, found⟩) service
  refine sound.since ?_
  simp [State.unread]
  omega

theorem sums_since_read :
    (s.turns.dropLast.map (alive · service)).sum + (s.turns.dropLast.map fun turn => turn.late.count (service, false)).sum =
      (s.turns.dropLast.map fun turn => figures turn.copied service).sum.opened +
        (s.turns.dropLast.map fun turn => turn.late.count (service, true)).sum ∧
    (s.turns.dropLast.map (made · service)).sum =
      (s.turns.dropLast.map fun turn => figures turn.copied service).sum.visitors +
        (s.turns.dropLast.map fun turn => turn.late.count (service, true)).sum := by
  rw [opened_sum, visitors_sum, List.map_map, List.map_map, ← List.sum_map_add, ← List.sum_map_add, ← List.sum_map_add]
  exact ⟨congrArg List.sum (List.map_congr_left fun turn member => (since_read inv service member).1),
    congrArg List.sum (List.map_congr_left fun turn member => (since_read inv service member).2)⟩

omit inv in
theorem settled_iff : Settled s service ↔
    (s.turns.dropLast.map fun turn => turn.late.count (service, true)).sum = 0 ∧
      (s.turns.dropLast.map fun turn => turn.late.count (service, false)).sum = 0 := by
  simp only [List.sum_eq_zero_iff, List.forall_mem_map, List.count_eq_zero]
  constructor
  · intro settled
    exact ⟨fun turn member late => settled turn member _ late rfl, fun turn member late => settled turn member _ late rfl⟩
  · rintro ⟨no_opens, no_drops⟩ turn member ⟨name, opened⟩ late rfl
    cases opened with
    | true => exact no_opens turn member late
    | false => exact no_drops turn member late

theorem last_figures :
    openNow s service = (s.turns.dropLast.map (alive · service)).sum +
      (s.turns.getLast?.elim 0 fun turn => figures turn.meters service).opened ∧
    everMade s service = (s.turns.dropLast.map (made · service)).sum +
      (s.turns.getLast?.elim 0 fun turn => figures turn.meters service).visitors := by
  cases last : s.turns.getLast? with
  | none =>
      rw [List.getLast?_eq_none_iff] at last
      simp [openNow, everMade, last]
  | some turn =>
      have sound := inv.last_sound last service
      obtain ⟨split, _⟩ := split_last last
      rw [Option.elim_some, sound.opened, sound.visitors, openNow, everMade]
      constructor
      · conv_lhs => rw [split, List.map_append, List.sum_append, List.map_singleton, List.sum_singleton]
      · conv_lhs => rw [split, List.map_append, List.sum_append, List.map_singleton, List.sum_singleton]

theorem right_iff : Right s service ↔ Settled s service := by
  have totals := figures_totals inv service
  obtain ⟨openings, visits⟩ := sums_since_read inv service
  obtain ⟨opened, visitors⟩ := last_figures inv service
  have total_opened := congrArg Counts.opened totals
  have total_visitors := congrArg Counts.visitors totals
  rw [opened_add] at total_opened
  rw [visitors_add] at total_visitors
  rw [settled_iff]
  constructor
  · intro right
    have same_opened := right.opened
    have same_visitors := right.visitors
    omega
  · rintro ⟨no_opens, no_drops⟩
    exact ⟨totals, by omega, by omega⟩

end Status

/-- A guard is made or dropped only as long as its client's figures for it are unread. -/
def OnTime (s : State) : Event → Prop
  | .opens i service => s.unread i service = true
  | .drops i g => ∀ turn guard, s.turns[i]? = some turn → turn.guards[g]? = some guard → s.unread i guard.service = true
  | _ => True

def Calm (turns : List Turn) : Prop := ∀ turn ∈ turns, turn.late = []

theorem Calm.set {turns : List Turn} (calm : Calm turns) {i : Nat} {old new : Turn} (found : turns[i]? = some old)
    (same : new.late = old.late) : Calm (turns.set i new) := by
  intro turn member
  obtain member | rfl := List.mem_or_eq_of_mem_set member
  · exact calm turn member
  · exact same.trans (calm old (List.mem_of_getElem? found))

theorem calm_step {s t : State} {event : Event} (calm : Calm s.turns) (onTime : OnTime s event)
    (stepped : next s event = some t) : Calm t.turns := by
  cases step_stepped stepped with
  | start ready =>
      intro turn member
      obtain member | member := List.mem_append.mp member
      · exact calm turn member
      · rw [List.mem_singleton.mp member]
        rfl
  | meter found service =>
      unfold State.make
      split_ifs
      · exact calm
      · exact calm.set found rfl
  | opens found metered => exact calm.set found (if_pos onTime)
  | drops found held metered living => exact calm.set found (if_pos (onTime _ _ found held))
  | carries found metered down up datagramsDown datagramsUp dropped => exact calm.set found rfl
  | finish last running => exact calm
  | read last copying => exact calm.set (split_last last).2 rfl
  | copied copying again => exact calm

theorem calm_of_reachable {s : State} (reachable : (system.restrict OnTime).Reachable s) : Calm s.turns := by
  refine reachable.invariant (fun s => Calm s.turns) ?_ ?_
  · rintro _ rfl turn member
    cases member
  · rintro s event t _ calm ⟨onTime, stepped⟩
    exact calm_step calm onTime stepped

/-- In a run whose guards are all made and dropped before their client's figures are read, the status is right
throughout; in any run, it is right exactly as long as no client before the last one has had another. -/
theorem status_figures (s : State) (service : String) :
    ((system.restrict OnTime).Reachable s → Right s service) ∧
      (system.Reachable s → (Right s service ↔ Settled s service)) := by
  refine ⟨fun reachable => ?_, fun reachable => right_iff (inv_of_reachable reachable) service⟩
  rw [right_iff (inv_of_reachable reachable.of_restrict)]
  intro turn member entry late
  rw [calm_of_reachable reachable turn (List.mem_of_mem_dropLast member)] at late
  cases late

/-- A reload that reconnects while a visitor is connected, whose pump ends before the drain is over or after it. -/
def reconnect (drained : Bool) : List Event :=
  ([.start, .meter 0 "web", .opens 0 "web"] : List Event) ++ (if drained then [.drops 0 0] else [] : List Event) ++
    ([.finish, .read, .copied true, .start] : List Event) ++ (if drained then [] else [.drops 0 0] : List Event)

theorem reconnect_reachable (drained : Bool) {s : State} (ran : System.run next .init (reconnect drained) = some s) :
    system.Reachable s :=
  System.Reachable.run (fun _ _ _ stepped => stepped) (.initial rfl) _ ran

theorem status_figures_drained : ∃ s, system.Reachable s ∧ Right s "web" ∧ everMade s "web" = 1 := by
  have ran : (System.run next .init (reconnect true)).map (fun s => (everMade s "web", s.turns.map Turn.late)) =
      some (1, [[], []]) := by
    decide +kernel
  obtain ⟨s, reached, figures⟩ := Option.map_eq_some_iff.mp ran
  obtain ⟨one, late⟩ := Prod.mk.inj figures
  have reachable := reconnect_reachable true reached
  refine ⟨s, reachable, ((status_figures s "web").2 reachable).mpr ?_, one⟩
  intro turn member entry noted
  have empty : turn.late ∈ s.turns.map Turn.late := List.mem_map_of_mem (List.mem_of_mem_dropLast member)
  rw [late] at empty
  simp only [List.mem_cons, List.not_mem_nil, or_false, or_self] at empty
  rw [empty] at noted
  cases noted

/-- The connection is gone, and the status says one is open. -/
theorem status_stays_open : ¬ ∀ s, system.Reachable s → ∀ service, Right s service := by
  intro right
  have ran : (System.run next .init (reconnect false)).map
      (fun s => ((figures s.totals "web").opened, openNow s "web")) = some (1, 0) := by
    decide +kernel
  obtain ⟨s, reached, both⟩ := Option.map_eq_some_iff.mp ran
  obtain ⟨one, none_left⟩ := Prod.mk.inj both
  have same := (right s (reconnect_reachable false reached) "web").opened
  rw [one, none_left] at same
  cases same

end Hawse.Proof.Client.Traffic
