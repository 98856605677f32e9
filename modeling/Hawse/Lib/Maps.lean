import Mathlib.Tactic

namespace Hawse.Lib
open Std (ExtTreeMap TransCmp LawfulEqCmp)

variable {α β γ : Type*} {cmp : α → α → Ordering} [TransCmp cmp] [LawfulEqCmp cmp]

theorem size_eq_length {m : ExtTreeMap α β cmp} {keys : List α} (nodup : keys.Nodup)
    (same : ∀ key, key ∈ keys ↔ key ∈ m) : m.size = keys.length := by
  have perm : keys.Perm m.keys := by
    rw [List.perm_ext_iff_of_nodup nodup m.nodup_keys]
    intro key
    rw [same, ExtTreeMap.mem_keys]
  rw [perm.length_eq, ExtTreeMap.length_keys]

theorem size_eq_size {m : ExtTreeMap α β cmp} {m' : ExtTreeMap α γ cmp}
    (same : ∀ key, key ∈ m ↔ key ∈ m') : m.size = m'.size := by
  rw [size_eq_length m'.nodup_keys fun key => ExtTreeMap.mem_keys.trans (same key).symm,
    ExtTreeMap.length_keys]

end Hawse.Lib
