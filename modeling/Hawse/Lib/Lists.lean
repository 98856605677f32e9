import Mathlib.Tactic

namespace Hawse.Lib

variable {α β : Type*} {list : List α} {place : Nat} {before : α}

theorem set_getElem? (held : list[place]? = some before) (after : α) (other : Nat) :
    (list.set place after)[other]? = if place = other then some after else list[other]? := by
  have inside := (List.getElem?_eq_some_iff.mp held).1
  simp only [List.getElem?_set, inside, ↓reduceIte]

theorem countP_set_add (p : α → Bool) (held : list[place]? = some before) (after : α) :
    (list.set place after).countP p + (p before).toNat = list.countP p + (p after).toNat := by
  obtain ⟨bound, rfl⟩ := List.getElem?_eq_some_iff.mp held
  have counted : (p list[place]).toNat ≤ list.countP p := by
    cases holds : p list[place] with
    | false => exact Nat.zero_le _
    | true => exact List.countP_pos_iff.mpr ⟨_, List.getElem_mem bound, holds⟩
  have toNat (b : Bool) : (if b = true then 1 else 0) = b.toNat := by cases b <;> rfl
  rw [List.countP_set bound, toNat, toNat]
  omega

theorem map_set_same {f : α → β} (held : list[place]? = some before) {after : α} (same : f after = f before) :
    (list.set place after).map f = list.map f := by
  apply List.ext_getElem?
  intro other
  rw [List.getElem?_map, List.getElem?_map, set_getElem? held]
  split_ifs with here
  · rw [← here, held, Option.map_some, Option.map_some, same]
  · rfl

end Hawse.Lib
