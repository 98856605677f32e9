import Mathlib.Tactic

namespace Hawse.Lib.Files
variable {κ ν : Type*}

/-- What stands at each path, the list of its names from the root. -/
abbrev Tree (κ ν : Type*) := List κ → Option ν

namespace Tree
variable [DecidableEq κ] (tree : Tree κ ν)

def set (path : List κ) (node : ν) : Tree κ ν := Function.update tree path (some node)

/-- In one step: what stood at the target is gone, and the source is nowhere else. -/
def rename (source target : List κ) : Tree κ ν := fun path =>
  if path = target then tree source else if path = source then none else tree path

def removeAll (root : List κ) : Tree κ ν := fun path => if root <+: path then none else tree path

/-- With everything below the root replaced. -/
def below (root : List κ) (inside : Tree κ ν) : Tree κ ν := fun path =>
  if root <+: path ∧ root ≠ path then inside path else tree path

end Tree

/-- Two trees that differ at most at a root and below it. -/
def Outside (root : List κ) (before after : Tree κ ν) : Prop := ∀ path, ¬ root <+: path → after path = before path

namespace Outside
variable {root : List κ} {first middle last : Tree κ ν}

theorem refl (root : List κ) (tree : Tree κ ν) : Outside root tree tree := fun _ _ => rfl

theorem trans (earlier : Outside root first middle) (later : Outside root middle last) : Outside root first last :=
  fun path outside => (later path outside).trans (earlier path outside)

variable [DecidableEq κ] {path : List κ}

theorem set (outside : Outside root first last) (inside : root <+: path) (node : ν) :
    Outside root first (last.set path node) := by
  intro other outer
  have apart : other ≠ path := by
    rintro rfl
    exact outer inside
  rw [Tree.set, Function.update_of_ne apart, outside other outer]

theorem below (outside : Outside root first last) (inside : Tree κ ν) : Outside root first (last.below root inside) := by
  intro other outer
  simp only [Tree.below, outer, false_and, if_false]
  exact outside other outer

end Outside

section Lookup
variable [DecidableEq κ] {tree : Tree κ ν} {root path other : List κ}

theorem set_other (apart : other ≠ path) (node : ν) : tree.set path node other = tree other := by
  simp [Tree.set, apart]

end Lookup
end Hawse.Lib.Files
