import Mathlib.Tactic

/-!
Calls on a state at given moments, and the answers of a whole run of them. A call that does not
return ends the run.
-/

namespace Hawse.Lib.Timed
variable {State State' Op Out : Type*}

def run (call : State → Nat → Op → Option (Out × State)) :
    State → List (Nat × Op) → Option (List Out × State)
  | s, [] => some ([], s)
  | s, (now, op) :: calls =>
      match call s now op with
      | none => none
      | some (out, t) => (run call t calls).map fun (outs, last) => (out :: outs, last)

def answers (call : State → Nat → Op → Option (Out × State)) (s : State)
    (calls : List (Nat × Op)) : Option (List Out) :=
  (run call s calls).map (·.1)

/-- Moments never move backwards. -/
def Ascending (calls : List (Nat × Op)) : Prop := calls.Pairwise (·.1 ≤ ·.1)

variable {call : State → Nat → Op → Option (Out × State)}
  {call' : State' → Nat → Op → Option (Out × State')}

theorem run_cons {s last : State} {now : Nat} {op : Op} {calls : List (Nat × Op)} {outs : List Out} :
    run call s ((now, op) :: calls) = some (outs, last) ↔
      ∃ out next rest, call s now op = some (out, next) ∧ run call next calls = some (rest, last) ∧
        outs = out :: rest := by
  rw [run]
  cases call s now op with
  | none => simp
  | some result =>
      obtain ⟨out, next⟩ := result
      simp only [Option.map_eq_some_iff, Prod.exists, Prod.mk.injEq, Option.some.injEq]
      constructor
      · rintro ⟨rest, last, ran, rfl, rfl⟩
        exact ⟨out, next, rest, ⟨rfl, rfl⟩, ran, rfl⟩
      · rintro ⟨_, _, rest, ⟨rfl, rfl⟩, ran, rfl⟩
        exact ⟨rest, last, ran, rfl, rfl⟩

theorem answers_eq_some {s : State} {calls : List (Nat × Op)} {outs : List Out} :
    answers call s calls = some outs ↔ ∃ last, run call s calls = some (outs, last) := by
  simp [answers]

theorem run_append {s last : State} {calls rest : List (Nat × Op)} {outs : List Out} :
    run call s (calls ++ rest) = some (outs, last) ↔
      ∃ first mid second, run call s calls = some (first, mid) ∧ run call mid rest = some (second, last) ∧
        outs = first ++ second := by
  induction calls generalizing s outs with
  | nil => simp [run]
  | cons timed calls ih =>
      obtain ⟨now, op⟩ := timed
      simp only [List.cons_append, run_cons, ih]
      constructor
      · rintro ⟨out, next, _, called, ⟨first, mid, second, ran, ran_rest, rfl⟩, rfl⟩
        exact ⟨out :: first, mid, second, ⟨out, next, first, called, ran, rfl⟩, ran_rest, rfl⟩
      · rintro ⟨_, mid, second, ⟨out, next, first, called, ran, rfl⟩, ran_rest, rfl⟩
        exact ⟨out, next, first ++ second, called, ⟨first, mid, second, ran, ran_rest, rfl⟩, rfl⟩

theorem run_at {s last : State} {calls : List (Nat × Op)} {outs : List Out}
    (ran : run call s calls = some (outs, last)) {i now : Nat} {op : Op}
    (asked : calls[i]? = some (now, op)) :
    ∃ before mid out next, run call s (calls.take i) = some (before, mid) ∧
      call mid now op = some (out, next) ∧ run call s (calls.take (i + 1)) = some (before ++ [out], next) ∧
      run call next (calls.drop (i + 1)) = some (outs.drop (i + 1), last) ∧ outs[i]? = some out := by
  induction calls generalizing s outs i with
  | nil => cases asked
  | cons timed calls ih =>
      obtain ⟨out, next, rest, called, ran_rest, rfl⟩ := run_cons.mp ran
      cases i with
      | zero =>
          obtain ⟨rfl, rfl⟩ := Prod.mk.inj (Option.some.inj asked)
          exact ⟨[], s, out, next, rfl, called, run_cons.mpr ⟨out, next, [], called, rfl, rfl⟩, ran_rest, rfl⟩
      | succ i =>
          obtain ⟨before, mid, at_i, after, ran_before, called_i, ran_i, ran_after, given⟩ :=
            ih ran_rest asked
          exact ⟨out :: before, mid, at_i, after, run_cons.mpr ⟨out, next, before, called, ran_before, rfl⟩,
            called_i, run_cons.mpr ⟨out, next, before ++ [at_i], called, ran_i, rfl⟩, ran_after, given⟩

theorem run_invariant (holds : Nat → State → Prop)
    (waits : ∀ now later s, now ≤ later → holds now s → holds later s)
    (steps : ∀ now op s out next, holds now s → call s now op = some (out, next) → holds now next)
    {start : Nat} {s last : State} (held : holds start s) {calls : List (Nat × Op)} {outs : List Out}
    (after : ∀ timed ∈ calls, start ≤ timed.1) (ascending : Ascending calls)
    (ran : run call s calls = some (outs, last)) {now : Nat} (le : start ≤ now)
    (past : ∀ timed ∈ calls, timed.1 ≤ now) : holds now last := by
  induction calls generalizing start s outs with
  | nil =>
      obtain ⟨-, rfl⟩ := Prod.mk.inj (Option.some.inj ran)
      exact waits start now _ le held
  | cons timed calls ih =>
      obtain ⟨first, head⟩ := timed
      obtain ⟨later, ascending⟩ := List.pairwise_cons.mp ascending
      obtain ⟨out, next, rest, called, ran_rest, rfl⟩ := run_cons.mp ran
      have held := waits start first s (after (first, head) List.mem_cons_self) held
      exact ih (steps first head s out next held called) later ascending ran_rest
        (past (first, head) List.mem_cons_self) fun timed member => past timed (List.mem_cons_of_mem _ member)

theorem answers_congr {calls others : List (Nat × Op)}
    (alike : List.Forall₂ (fun timed other => ∀ s, call s timed.1 timed.2 = call s other.1 other.2) calls others)
    (s : State) : answers call s calls = answers call s others := by
  unfold answers
  congr 1
  induction alike generalizing s with
  | nil => rfl
  | cons same _ ih =>
      unfold run
      rw [same]
      cases call s _ _ with
      | none => rfl
      | some result => simp only [ih]

theorem exists_answers (returns : ∀ s now op, ∃ out next, call s now op = some (out, next)) (s : State)
    (calls : List (Nat × Op)) : ∃ outs, answers call s calls = some outs := by
  induction calls generalizing s with
  | nil => exact ⟨[], rfl⟩
  | cons timed calls ih =>
      obtain ⟨now, op⟩ := timed
      obtain ⟨out, next, called⟩ := returns s now op
      obtain ⟨outs, answered⟩ := ih next
      obtain ⟨last, ran⟩ := answers_eq_some.mp answered
      exact ⟨out :: outs, answers_eq_some.mpr ⟨last, run_cons.mpr ⟨out, next, outs, called, ran, rfl⟩⟩⟩

/-- What waiting alone can break must have been broken before an answer it rules out. -/
theorem run_breaks (holds breaks : Nat → State → Prop) (never : Op → Out → Prop)
    (waits : ∀ now later s, now ≤ later → holds now s → holds later s ∨ breaks later s)
    (steps : ∀ now op s out next, holds now s → call s now op = some (out, next) →
      holds now next ∧ ¬ never op out)
    {start : Nat} {s last : State} (held : holds start s) {calls : List (Nat × Op)} {outs : List Out}
    (after : ∀ timed ∈ calls, start ≤ timed.1) (ascending : Ascending calls)
    (ran : run call s calls = some (outs, last)) {i : Nat} {now : Nat} {op : Op} {out : Out}
    (asked : calls[i]? = some (now, op)) (given : outs[i]? = some out) (ruled : never op out) :
    ∃ n ≤ i, ∃ moment op given mid, calls[n]? = some (moment, op) ∧
      run call s (calls.take n) = some (given, mid) ∧ breaks moment mid := by
  induction calls generalizing start s outs i with
  | nil => cases asked
  | cons timed calls ih =>
      obtain ⟨first, head⟩ := timed
      obtain ⟨later, ascending⟩ := List.pairwise_cons.mp ascending
      have before : start ≤ first := after (first, head) List.mem_cons_self
      obtain ⟨answer, next, rest, called, ran_rest, rfl⟩ := run_cons.mp ran
      rcases waits start first s before held with held | broken
      · obtain ⟨held, allowed⟩ := steps first head s answer next held called
        cases i with
        | zero =>
            obtain ⟨-, rfl⟩ := Prod.mk.inj (Option.some.inj asked)
            obtain rfl := Option.some.inj given
            exact absurd ruled allowed
        | succ i =>
            obtain ⟨n, le, moment, op, given, mid, at_n, ran_n, broken⟩ :=
              ih held later ascending ran_rest asked given
            exact ⟨n + 1, Nat.succ_le_succ le, moment, op, answer :: given, mid, at_n,
              run_cons.mpr ⟨answer, next, given, called, ran_n, rfl⟩, broken⟩
      · exact ⟨0, Nat.zero_le i, first, head, [], s, rfl, rfl, broken⟩

/-- Two states answer alike, and what they leave is related again. -/
inductive Alike (rel : State → State' → Prop) :
    Option (Out × State) → Option (Out × State') → Prop
  | stuck : Alike rel none none
  | answered (out : Out) {s : State} {t : State'} (related : rel s t) :
      Alike rel (some (out, s)) (some (out, t))

theorem run_alike {rel : Nat → State → State' → Prop}
    (waits : ∀ now later s t, now ≤ later → rel now s t → rel later s t)
    (steps : ∀ now op s t, rel now s t → Alike (rel now) (call s now op) (call' t now op))
    {start : Nat} {s : State} {t : State'} (related : rel start s t) {calls : List (Nat × Op)}
    (after : ∀ timed ∈ calls, start ≤ timed.1) (ascending : Ascending calls) :
    Alike (fun s t => ∀ now, start ≤ now → (∀ timed ∈ calls, timed.1 ≤ now) → rel now s t)
      (run call s calls) (run call' t calls) := by
  induction calls generalizing start s t with
  | nil => exact .answered [] fun now le _ => waits start now s t le related
  | cons timed calls ih =>
      obtain ⟨now, op⟩ := timed
      obtain ⟨later, ascending⟩ := List.pairwise_cons.mp ascending
      have before : start ≤ now := after (now, op) List.mem_cons_self
      have step := steps now op s t (waits start now s t before related)
      unfold run
      generalize call s now op = result at step ⊢
      generalize call' t now op = result' at step ⊢
      cases step with
      | stuck => exact .stuck
      | answered out related =>
          have rest := ih related later ascending
          dsimp only
          generalize run call _ calls = last at rest ⊢
          generalize run call' _ calls = last' at rest ⊢
          cases rest with
          | stuck => exact .stuck
          | answered outs related =>
              refine .answered (out :: outs) ?_
              intro moment _ past
              exact related moment (past (now, op) List.mem_cons_self)
                fun timed member => past timed (List.mem_cons_of_mem _ member)

theorem Alike.answers_eq {rel : State → State' → Prop} {s : State} {t : State'} {calls : List (Nat × Op)}
    (alike : Alike rel (run call s calls) (run call' t calls)) :
    answers call s calls = answers call' t calls := by
  unfold Timed.answers
  generalize run call s calls = result at alike ⊢
  generalize run call' t calls = result' at alike ⊢
  cases alike <;> rfl

/-- As long as every answer is one that `follows` allows for, the second state gives the same. -/
theorem run_follows (rel : Nat → State → State' → Prop) (allowed : Out → Prop)
    (waits : ∀ now later s t, now ≤ later → rel now s t → rel later s t)
    (follows : ∀ now op s t out next, rel now s t → call s now op = some (out, next) → allowed out →
      ∃ next', call' t now op = some (out, next') ∧ rel now next next')
    {start : Nat} {s last : State} {t : State'} (related : rel start s t) {calls : List (Nat × Op)}
    {outs : List Out} (after : ∀ timed ∈ calls, start ≤ timed.1) (ascending : Ascending calls)
    (ran : run call s calls = some (outs, last)) (all : ∀ out ∈ outs, allowed out) :
    answers call' t calls = some outs := by
  induction calls generalizing start s t outs with
  | nil =>
      obtain ⟨rfl, -⟩ := Prod.mk.inj (Option.some.inj ran)
      rfl
  | cons timed calls ih =>
      obtain ⟨now, op⟩ := timed
      obtain ⟨later, ascending⟩ := List.pairwise_cons.mp ascending
      have before : start ≤ now := after (now, op) List.mem_cons_self
      obtain ⟨out, next, rest, called, ran_rest, rfl⟩ := run_cons.mp ran
      obtain ⟨next', called', related⟩ := follows now op s t out next
        (waits start now s t before related) called (all out List.mem_cons_self)
      have answered := ih related later ascending ran_rest
        fun out member => all out (List.mem_cons_of_mem _ member)
      obtain ⟨last', ran'⟩ := answers_eq_some.mp answered
      exact answers_eq_some.mpr ⟨last', run_cons.mpr ⟨out, next', rest, called', ran', rfl⟩⟩

def kept (marked : List (Bool × Nat × Op)) : List (Nat × Op) :=
  (marked.filter fun timed => !timed.1).map (·.2)

/-- The answers to the calls that are not marked. -/
def unmarked (marks : List Bool) (outs : List Out) : List Out :=
  ((marks.zip outs).filter fun answered => !answered.1).map (·.2)

/-- A call that leaves the state as it was, as far as the relation goes, can be put in or left out. -/
theorem run_skips (rel : Nat → State → State → Prop) (quiet : Op → Prop)
    (waits : ∀ now later s t, now ≤ later → rel now s t → rel later s t)
    (steps : ∀ now op s t out next, rel now s t → call s now op = some (out, next) →
      ∃ next', call t now op = some (out, next') ∧ rel now next next')
    (skips : ∀ now op s t out next, rel now s t → quiet op → call s now op = some (out, next) →
      rel now next t)
    {start : Nat} {s last t : State} (related : rel start s t) {calls : List (Bool × Nat × Op)}
    {outs : List Out} (after : ∀ timed ∈ calls, start ≤ timed.2.1)
    (ascending : Ascending (calls.map (·.2))) (quiets : ∀ timed ∈ calls, timed.1 = true → quiet timed.2.2)
    (ran : run call s (calls.map (·.2)) = some (outs, last)) :
    answers call t (kept calls) = some (unmarked (calls.map (·.1)) outs) := by
  induction calls generalizing start s t outs with
  | nil =>
      obtain ⟨rfl, -⟩ := Prod.mk.inj (Option.some.inj ran)
      rfl
  | cons timed calls ih =>
      obtain ⟨mark, now, op⟩ := timed
      obtain ⟨ascends, ascends_rest⟩ := List.pairwise_cons.mp ascending
      have before : start ≤ now := after (mark, now, op) List.mem_cons_self
      have related := waits start now s t before related
      have later : ∀ timed ∈ calls, now ≤ timed.2.1 :=
        fun timed member => ascends timed.2 (List.mem_map_of_mem member)
      have quiet := quiets (mark, now, op) List.mem_cons_self
      have quiets_rest : ∀ timed ∈ calls, timed.1 = true → _ :=
        fun timed member => quiets timed (List.mem_cons_of_mem _ member)
      obtain ⟨out, next, rest, called, ran_rest, rfl⟩ := run_cons.mp ran
      cases mark with
      | true =>
          exact ih (skips now op s t out next related (quiet rfl) called) later ascends_rest quiets_rest ran_rest
      | false =>
          obtain ⟨next', called', related⟩ := steps now op s t out next related called
          obtain ⟨last', ran'⟩ := answers_eq_some.mp (ih related later ascends_rest quiets_rest ran_rest)
          exact answers_eq_some.mpr ⟨last', run_cons.mpr ⟨out, next', _, called', ran', rfl⟩⟩

end Hawse.Lib.Timed
