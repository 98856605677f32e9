import Mathlib.Tactic

namespace Hawse.Lib.Fallible
variable {ε σ α β : Type}

theorem bind_eq_ok {first : Except ε α} {second : α → Except ε β} {result : β} :
    first >>= second = .ok result ↔ ∃ given, first = .ok given ∧ second given = .ok result := by
  cases first with
  | error failure =>
      constructor
      · intro impossible
        cases impossible
      · rintro ⟨_, ⟨⟩, _⟩
  | ok given =>
      refine ⟨fun done => ⟨given, rfl, done⟩, ?_⟩
      rintro ⟨_, ⟨⟩, done⟩
      exact done

/-- How a run ends: with a value or with an error, and in either case in a state. -/
def Ends (result : EStateM.Result ε σ α) (returned : α → σ → Prop) (failed : ε → σ → Prop) : Prop :=
  match result with
  | .ok a s => returned a s
  | .error e s => failed e s

variable {returned returned' : α → σ → Prop} {failed failed' : ε → σ → Prop}

theorem Ends.imp {result : EStateM.Result ε σ α} (ends : Ends result returned failed)
    (returns : ∀ a s, returned a s → returned' a s) (fails : ∀ e s, failed e s → failed' e s) :
    Ends result returned' failed' := by
  cases result with
  | ok a s => exact returns a s ends
  | error e s => exact fails e s ends

theorem Ends.bind {first : EStateM ε σ α} {second : α → EStateM ε σ β} {finished : β → σ → Prop} {s : σ}
    (returned : α → σ → Prop) (begins : Ends (first s) returned failed)
    (continues : ∀ a t, returned a t → Ends (second a t) finished failed) :
    Ends ((first >>= second) s) finished failed := by
  change Ends (EStateM.bind first second s) finished failed
  unfold EStateM.bind
  cases result : first s with
  | ok a t =>
      rw [result] at begins
      exact continues a t begins
  | error e t =>
      rw [result] at begins
      exact begins

end Hawse.Lib.Fallible
