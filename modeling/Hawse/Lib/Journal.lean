import Mathlib.Tactic

namespace Hawse.Lib.Journal
variable {α β γ : Type*} {p : α → Bool} {log : List α} {entry : α}

def last (p : α → Bool) (log : List α) : Option α := log.reverse.find? p

@[simp] theorem last_nil : last p [] = none := rfl

@[simp] theorem last_concat (p : α → Bool) (log : List α) (entry : α) :
    last p (log ++ [entry]) = if p entry then some entry else last p log := by
  unfold last
  rw [List.reverse_append, List.reverse_singleton, List.singleton_append, List.find?_cons]
  cases p entry <;> rfl

theorem last_mem (found : last p log = some entry) : entry ∈ log :=
  List.mem_reverse.mp (List.mem_of_find?_eq_some found)

theorem last_holds (found : last p log = some entry) : p entry = true := List.find?_some found

/-- What the entries `pick` takes from a journal come to, in order. -/
def replay (next : β → γ → β) (start : β) (pick : α → Option γ) (log : List α) : β :=
  (log.filterMap pick).foldl next start

variable {next : β → γ → β} {start : β} {pick : α → Option γ}

theorem replay_concat (entry : α) : replay next start pick (log ++ [entry]) =
    ((pick entry).map (next (replay next start pick log))).getD (replay next start pick log) := by
  unfold replay
  rw [List.filterMap_append, List.foldl_append]
  cases picked : pick entry with
  | none => simp [picked]
  | some event => simp [picked]

theorem replay_taken {event : γ} (picked : pick entry = some event) :
    replay next start pick (log ++ [entry]) = next (replay next start pick log) event := by
  rw [replay_concat, picked]
  rfl

theorem replay_left (picked : pick entry = none) :
    replay next start pick (log ++ [entry]) = replay next start pick log := by
  rw [replay_concat, picked]
  rfl

end Hawse.Lib.Journal
