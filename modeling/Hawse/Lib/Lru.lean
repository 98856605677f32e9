import Mathlib.Tactic
import Mathlib.Data.List.Sort

/-!
Who was last used when, kept as one list: first what was used longest ago, and of those used at one
moment the least id.
-/

namespace Hawse.Lib
variable {Id Owner : Type*}

@[ext]
structure Use (Id Owner : Type*) where
  used : Nat
  id : Id
  owner : Owner

namespace Use
variable [Ord Id]

def order (a b : Use Id Owner) : Ordering :=
  compareLex (compareOn Use.used) (compareOn Use.id) a b

instance [Std.TransOrd Id] : Std.TransCmp (@order Id Owner _) :=
  inferInstanceAs (Std.TransCmp (compareLex (compareOn Use.used) (compareOn Use.id)))

def Before (a b : Use Id Owner) : Prop := (order a b).isLE

instance : DecidableRel (@Before Id Owner _) :=
  fun a b => inferInstanceAs (Decidable ((order a b).isLE = true))

instance [Std.TransOrd Id] : Std.Total (@Before Id Owner _) where
  total a b := by
    by_cases before : Before a b
    · exact .inl before
    · have after := Std.OrientedCmp.lt_of_not_isLE before
      exact .inr (Ordering.isLE_of_eq_lt after)

instance [Std.TransOrd Id] : IsTrans (Use Id Owner) Before :=
  ⟨fun _ _ _ => Std.TransCmp.isLE_trans⟩

theorem Before.used_le {a b : Use Id Owner} (before : Before a b) : a.used ≤ b.used := by
  have first : (compare a.used b.used).isLE := Ordering.isLE_left_of_isLE_then before
  rwa [Nat.isLE_compare] at first

end Use

namespace Lru

def expired (idle now : Nat) (entries : List (Use Id Owner)) : List (Use Id Owner) :=
  entries.filter fun use => use.used + idle ≤ now

def unexpired (idle now : Nat) (entries : List (Use Id Owner)) : List (Use Id Owner) :=
  entries.filter fun use => ¬ use.used + idle ≤ now

variable {entries : List (Use Id Owner)} {use : Use Id Owner} {idle now : Nat}

theorem unexpired_cons_expired (old : use.used + idle ≤ now) :
    unexpired idle now (use :: entries) = unexpired idle now entries := by
  simp [unexpired, old]

theorem expired_cons_expired (old : use.used + idle ≤ now) :
    expired idle now (use :: entries) = use :: expired idle now entries := by
  simp [expired, old]

variable [Ord Id]

def place (use : Use Id Owner) (entries : List (Use Id Owner)) : List (Use Id Owner) :=
  entries.orderedInsert Use.Before use

theorem mem_place {other : Use Id Owner} : other ∈ place use entries ↔ other = use ∨ other ∈ entries :=
  List.mem_orderedInsert _

structure Ordered (entries : List (Use Id Owner)) : Prop where
  before : entries.Pairwise Use.Before
  nodup : (entries.map (·.id)).Nodup

theorem Ordered.nil : Ordered ([] : List (Use Id Owner)) := ⟨.nil, List.nodup_nil⟩

theorem Ordered.sublist (ordered : Ordered entries) {kept : List (Use Id Owner)}
    (sub : kept.Sublist entries) : Ordered kept :=
  ⟨ordered.before.sublist sub, ordered.nodup.sublist (sub.map _)⟩

theorem Ordered.eq_of_id (ordered : Ordered entries) {other : Use Id Owner} (member : use ∈ entries)
    (member' : other ∈ entries) (same : use.id = other.id) : use = other :=
  List.inj_on_of_nodup_map ordered.nodup member member' same

/-- Nothing behind an entry that is young enough is older. -/
theorem Ordered.young (ordered : Ordered (use :: entries)) (young : ¬ use.used + idle ≤ now) :
    ∀ other ∈ use :: entries, ¬ other.used + idle ≤ now := by
  intro other member
  rcases List.mem_cons.mp member with rfl | behind
  · exact young
  · have later := ((List.pairwise_cons.mp ordered.before).1 other behind).used_le
    omega

theorem Ordered.unexpired_cons_young (ordered : Ordered (use :: entries))
    (young : ¬ use.used + idle ≤ now) : unexpired idle now (use :: entries) = use :: entries := by
  apply List.filter_eq_self.mpr
  intro other member
  exact decide_eq_true (ordered.young young other member)

theorem Ordered.expired_cons_young (ordered : Ordered (use :: entries))
    (young : ¬ use.used + idle ≤ now) : expired idle now (use :: entries) = [] := by
  apply List.filter_eq_nil_iff.mpr
  intro other member
  simpa using ordered.young young other member

variable [Std.TransOrd Id]

theorem Ordered.place (ordered : Ordered entries) (fresh : ∀ other ∈ entries, other.id ≠ use.id) :
    Ordered (place use entries) := by
  refine ⟨ordered.before.orderedInsert use entries, ?_⟩
  have perm := (List.perm_orderedInsert Use.Before use entries).map (·.id)
  rw [Lru.place, perm.nodup_iff, List.map_cons, List.nodup_cons]
  refine ⟨?_, ordered.nodup⟩
  intro listed
  obtain ⟨other, member, same⟩ := List.mem_map.mp listed
  exact fresh other member same

variable [DecidableEq Id]

/-- A use moves its entry back, to where its new moment puts it. -/
def touch (use : Use Id Owner) (now : Nat) (entries : List (Use Id Owner)) : List (Use Id Owner) :=
  place { use with used := now } (entries.filter (·.id ≠ use.id))

theorem Ordered.touch (ordered : Ordered entries) (use : Use Id Owner) (now : Nat) :
    Ordered (touch use now entries) := by
  apply (ordered.sublist List.filter_sublist).place
  intro other kept
  simpa using (List.mem_filter.mp kept).2

omit [Std.TransOrd Id] in
theorem mem_touch {other : Use Id Owner} : other ∈ touch use now entries ↔
    other = { use with used := now } ∨ other ∈ entries ∧ other.id ≠ use.id := by
  simp [touch, mem_place]

end Lru
end Hawse.Lib
