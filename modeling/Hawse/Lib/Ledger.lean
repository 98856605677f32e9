import Mathlib.Tactic
import Mathlib.Data.Finset.Dedup
import Mathlib.Data.Multiset.Count

namespace Hawse.Lib

variable {α : Type*}

/-- Who has what of a pool whose members are claimed one at a time and given back. Some are set
aside for good. `claimed` and `released` are everything so far. -/
structure Ledger (α : Type*) where
  inUse : Finset α
  reserved : Multiset α
  held : Multiset α
  claimed : Multiset α
  released : Multiset α

namespace Ledger
variable [DecidableEq α]

inductive Step (l : Ledger α) : Ledger α → Prop
  | idle : Step l l
  | claim (x : α) (free : x ∉ l.inUse) :
      Step l { l with inUse := insert x l.inUse, held := x ::ₘ l.held, claimed := x ::ₘ l.claimed }
  | release (x : α) (held : Multiset α) (had : l.held = x ::ₘ held) :
      Step l { l with inUse := l.inUse.erase x, held := held, released := x ::ₘ l.released }

structure Balanced (l : Ledger α) : Prop where
  nodup : (l.reserved + l.held).Nodup
  inUse : l.inUse = (l.reserved + l.held).toFinset
  claimed : l.claimed = l.released + l.held
  apart : ∀ x ∈ l.reserved, x ∉ l.claimed

theorem Balanced.step {l next : Ledger α} (balanced : Balanced l) (step : Step l next) :
    Balanced next := by
  obtain ⟨nodup, inUse, claimed, apart⟩ := balanced
  cases step with
  | idle => exact ⟨nodup, inUse, claimed, apart⟩
  | claim x free =>
      have fresh : x ∉ l.reserved + l.held := by
        rwa [inUse, Multiset.mem_toFinset] at free
      refine ⟨?_, ?_, ?_, ?_⟩
      · rw [Multiset.add_cons]
        exact Multiset.nodup_cons.mpr ⟨fresh, nodup⟩
      · rw [Multiset.add_cons, Multiset.toFinset_cons, ← inUse]
      · rw [claimed, Multiset.add_cons]
      · intro y reserved
        rw [Multiset.mem_cons, not_or]
        refine ⟨?_, apart y reserved⟩
        intro same
        exact fresh (same ▸ Multiset.mem_add.mpr (.inl reserved))
  | release x held had =>
      rw [had, Multiset.add_cons] at nodup inUse
      obtain ⟨once, nodup⟩ := Multiset.nodup_cons.mp nodup
      refine ⟨nodup, ?_, ?_, apart⟩
      · rw [inUse, Multiset.toFinset_cons]
        exact Finset.erase_insert (by rwa [Multiset.mem_toFinset])
      · rw [claimed, had, Multiset.add_cons, Multiset.cons_add]

end Ledger

theorem mem_sum_map {β : Type*} {f : β → Multiset α} {l : List β} {x : α} :
    x ∈ (l.map f).sum ↔ ∃ y ∈ l, x ∈ f y := by
  induction l with
  | nil => simp
  | cons y l ih => simp [ih]

theorem sum_map_set {β M : Type*} [AddCommMonoid M] {f : β → M} {l : List β} {i : Nat} {old : β}
    (found : l[i]? = some old) (new : β) :
    ((l.set i new).map f).sum + f old = (l.map f).sum + f new := by
  induction l generalizing i with
  | nil => simp at found
  | cons first l ih =>
      cases i with
      | zero =>
          obtain rfl : first = old := by simpa using found
          simp only [List.set_cons_zero, List.map_cons, List.sum_cons]
          abel
      | succ i =>
          have rest := ih (i := i) (by simpa using found)
          simp only [List.set_cons_succ, List.map_cons, List.sum_cons]
          rw [add_assoc, rest, add_assoc]

theorem sum_map_eraseIdx {β : Type*} {f : β → Multiset α} {l : List β} {i : Nat} {old : β}
    (found : l[i]? = some old) : ((l.eraseIdx i).map f).sum + f old = (l.map f).sum := by
  induction l generalizing i with
  | nil => simp at found
  | cons first l ih =>
      cases i with
      | zero =>
          obtain rfl : first = old := by simpa using found
          simp only [List.eraseIdx_cons_zero, List.map_cons, List.sum_cons]
          abel
      | succ i =>
          have rest := ih (i := i) (by simpa using found)
          simp only [List.eraseIdx_cons_succ, List.map_cons, List.sum_cons]
          rw [add_assoc, rest]

end Hawse.Lib
