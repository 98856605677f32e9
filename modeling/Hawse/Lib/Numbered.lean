import Hawse.Lib.Exchange

namespace Hawse.Lib

/-- One name in an exchange whose answers are told apart: each goes down with the number of the
`bind` it answers, counted from zero, and what was not asked for goes without. -/
@[ext]
structure Numbered (ID : Type*) where
  wanted : Bool
  id : Option ID
  left : Nat
  asked : Nat
  handled : Nat
  down : List (Option Nat × Option ID)
  granted : ID → Option Nat

namespace Numbered
variable {ID : Type*}

def numbers (down : List (Option Nat × Option ID)) : List Nat := down.filterMap (·.1)

def Quiet (this : Numbered ID) : Prop := this.asked = this.handled ∧ numbers this.down = []

/-- The count of answers to hear is the number of binds that have none yet, and what is known was
granted to the last. -/
structure Sound (this : Numbered ID) : Prop where
  behind : this.handled ≤ this.asked
  left : this.left + this.handled = this.asked + (numbers this.down).length
  latest : ∀ number, (numbers this.down).getLast? = some number → number + 1 = this.handled
  unasked : ∀ answer, (none, answer) ∈ this.down → answer = none
  carried : ∀ number id, (some number, some id) ∈ this.down → this.granted id = some number
  known : ∀ id, this.id = some id → ∃ number, this.granted id = some number ∧ number + 1 = this.asked
  gone : this.wanted = false → this.id = none

variable {this : Numbered ID}

theorem numbers_append (first second : List (Option Nat × Option ID)) :
    numbers (first ++ second) = numbers first ++ numbers second :=
  List.filterMap_append

theorem numbers_cons (number : Option Nat) (answer : Option ID) (down : List (Option Nat × Option ID)) :
    numbers ((number, answer) :: down) = number.toList ++ numbers down := by
  cases number <;> rfl

theorem Sound.last (sound : Sound this) {number : Nat} {answer : Option ID}
    {down : List (Option Nat × Option ID)} (next : this.down = (some number, answer) :: down)
    (last : this.left - 1 = 0) : number + 1 = this.asked := by
  have left := sound.left
  have behind := sound.behind
  have latest := sound.latest number
  rw [next, numbers_cons] at left latest
  simp only [Option.toList_some, List.singleton_append, List.length_cons] at left latest
  -- One answer is left to hear, so it is the only one on its way and no bind waits to be handled.
  have alone : numbers down = [] := by
    apply List.eq_nil_of_length_eq_zero
    omega
  rw [alone] at left latest
  have handled := latest rfl
  simp only [List.length_nil] at left
  omega

theorem Sound.hear (sound : Sound this) {number : Option Nat} {answer : Option ID}
    {down : List (Option Nat × Option ID)} (next : this.down = (number, answer) :: down)
    (solicited : number = none → this.Quiet) :
    Sound { this with
      id := Exchange.idAfter this.wanted (this.left - 1 = 0) answer this.id
      left := this.left - 1
      down } := by
  have member : ∀ answered ∈ down, answered ∈ this.down := by
    intro answered later
    rw [next]
    exact .tail _ later
  refine ⟨sound.behind, ?_, ?_, ?_, ?_, ?_, ?_⟩
  · have left := sound.left
    have behind := sound.behind
    rw [next, numbers_cons, List.length_append] at left
    cases number with
    | some number =>
        simp only [Option.toList_some, List.length_singleton] at left
        dsimp only
        omega
    | none =>
        -- Nothing was being waited for, so the count is already down.
        obtain ⟨same, empty⟩ := solicited rfl
        rw [next, numbers_cons] at empty
        simp only [Option.toList_none, List.nil_append] at empty
        simp only [Option.toList_none, List.length_nil, empty] at left ⊢
        omega
  · intro latest last
    apply sound.latest
    rw [next, numbers_cons, List.getLast?_append, last]
    rfl
  · intro other unasked
    exact sound.unasked other (member _ unasked)
  · intro number id carried
    exact sound.carried number id (member _ carried)
  · intro id known
    dsimp only at known
    by_cases last : this.left - 1 = 0
    · cases answer with
      | none => simp [Exchange.idAfter, last] at known
      | some answer =>
          cases wanted : this.wanted with
          | false =>
              simp only [Exchange.idAfter, wanted, last, decide_true, Bool.false_eq_true, ↓reduceIte,
                sound.gone wanted] at known
              cases known
          | true =>
              simp only [Exchange.idAfter, wanted, last, decide_true, ↓reduceIte,
                Option.some.injEq] at known
              subst known
              cases number with
              | none =>
                  have plain := sound.unasked (some answer) (by simp [next])
                  cases plain
              | some number =>
                  exact ⟨number, sound.carried number answer (by simp [next]), sound.last next last⟩
    · simp only [Exchange.idAfter, last, decide_false, Bool.false_eq_true, ↓reduceIte] at known
      exact sound.known id known
  · intro unwanted
    dsimp only at unwanted ⊢
    rw [unwanted, sound.gone unwanted, Exchange.idAfter_unwanted]

theorem Sound.reload (sound : Sound this) (wanted : Bool) :
    Sound { this with
      wanted
      id := if this.wanted then none else this.id
      left := this.left + (Exchange.binds wanted).length
      asked := this.asked + (Exchange.binds wanted).length } := by
  have forgotten : (if this.wanted then none else this.id) = none := by
    cases before : this.wanted with
    | true => rfl
    | false => simpa using sound.gone before
  obtain ⟨behind, left, latest, unasked, carried, -, -⟩ := sound
  refine ⟨Nat.le_add_right_of_le behind, ?_, latest, unasked, carried, ?_, fun _ => forgotten⟩
  · dsimp only
    omega
  · intro id known
    cases forgotten.symm.trans known

theorem Sound.notify (sound : Sound this) : Sound { this with down := this.down ++ [(none, none)] } := by
  have same : numbers (this.down ++ [(none, none)]) = numbers this.down := by
    rw [numbers_append]
    exact List.append_nil _
  refine ⟨sound.behind, by rw [same]; exact sound.left, by rw [same]; exact sound.latest, ?_, ?_,
    sound.known, sound.gone⟩
  · intro answer member
    rcases List.mem_append.mp member with member | member
    · exact sound.unasked answer member
    · simpa using member
  · intro number id member
    rcases List.mem_append.mp member with member | member
    · exact sound.carried number id member
    · simp at member

theorem Sound.answer (sound : Sound this) {answer : Option ID} {granted : ID → Option Nat}
    (waits : this.handled < this.asked)
    (fresh : ∀ id, answer = some id → granted id = some this.handled)
    (kept : ∀ id number, this.granted id = some number → granted id = some number) :
    Sound { this with
      handled := this.handled + 1
      down := this.down ++ [(some this.handled, answer)]
      granted } := by
  have added : numbers (this.down ++ [(some this.handled, answer)]) =
      numbers this.down ++ [this.handled] := numbers_append _ _
  refine ⟨waits, ?_, ?_, ?_, ?_, ?_, sound.gone⟩
  · have left := sound.left
    rw [added, List.length_append, List.length_singleton]
    dsimp only
    omega
  · rw [added]
    intro number last
    rw [List.getLast?_concat] at last
    rw [Option.some.inj last]
  · intro other member
    rcases List.mem_append.mp member with member | member
    · exact sound.unasked other member
    · simp at member
  · intro number id member
    rcases List.mem_append.mp member with member | member
    · exact kept id number (sound.carried number id member)
    · simp only [List.mem_singleton, Prod.mk.injEq, Option.some.injEq] at member
      obtain ⟨rfl, same⟩ := member
      exact fresh id same.symm
  · intro id known
    obtain ⟨number, before, last⟩ := sound.known id known
    exact ⟨number, kept id number before, last⟩

end Numbered
end Hawse.Lib
