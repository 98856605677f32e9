import Mathlib.Tactic

/-!
Futures by the moment they are ready. What awaits them polls them at every moment from `now` on.
-/

namespace Hawse.Lib

/-- When a future is ready and with what, or `none` when it never is. -/
abbrev Future (α : Type*) := Option (Nat × α)

namespace Future
variable {α β : Type*}

/-- A future made at `now`, by how long it takes. -/
def start (now : Nat) : Future α → Future α
  | none => none
  | some (takes, value) => some (now + takes, value)

def await (now : Nat) : Future α → Future α
  | none => none
  | some (ready, value) => some (max now ready, value)

/-- `none` when the time is up. The future is polled before the timer, so at the deadline it is
still in time. -/
def timeout (now after : Nat) : Future α → Nat × Option α
  | none => (now + after, none)
  | some (ready, value) =>
      if ready ≤ now + after then (max now ready, some value) else (now + after, none)

/-- A biased `select!` of two, which polls the first one first. -/
def select (now : Nat) (first : Future α) (second : Future β) : Future (α ⊕ β) :=
  match await now first, await now second with
  | none, none => none
  | some (ready, value), none => some (ready, .inl value)
  | none, some (ready, value) => some (ready, .inr value)
  | some (ready, value), some (ready', value') =>
      if ready ≤ ready' then some (ready, .inl value) else some (ready', .inr value')

@[simp] theorem await_start (now : Nat) (fut : Future α) : await now (start now fut) = start now fut := by
  rcases fut with - | ⟨takes, value⟩
  · rfl
  · simp [start, await]

theorem await_later {now ready : Nat} (later : now ≤ ready) (value : α) :
    await now (some (ready, value)) = some (ready, value) := by
  simp [await, later]

theorem timeout_early {now after ready : Nat} (later : now ≤ ready) (early : ready ≤ now + after) (value : α) :
    timeout now after (some (ready, value)) = (ready, some value) := by
  simp [timeout, later, early]

theorem timeout_late {now after ready : Nat} (late : now + after < ready) (value : α) :
    timeout now after (some (ready, value)) = (now + after, none) := by
  simp [timeout, Nat.not_le.mpr late]

end Future
end Hawse.Lib
