import Mathlib.Tactic

namespace Hawse.Lib

inductive Ask
  | bind
  | unbind
deriving DecidableEq

/-- One name in an exchange over two queues, in which no answer says what it answers. One end asks
for the name to be bound and unbound and counts the answers it has `left` to hear. The other
answers every `bind`, with an id or without, and may take the name back and say so unasked. -/
@[ext]
structure Exchange (ID : Type*) where
  wanted : Bool
  id : Option ID
  left : Nat
  up : List Ask
  down : List (Option ID)
  held : Option ID

namespace Exchange
variable {ID : Type*}

def idAfter (wanted : Bool) (last : Bool) (answer before : Option ID) : Option ID :=
  if last then
    match answer with
    | some id => if wanted then some id else before
    | none => none
  else before

theorem idAfter_unwanted (last : Bool) (answer : Option ID) : idAfter false last answer none = none := by
  cases last <;> cases answer <;> rfl

theorem idAfter_new {wanted last : Bool} {answer before : Option ID} {id : ID}
    (after : idAfter wanted last answer before = some id) (new : before ≠ some id) :
    wanted = true ∧ last = true ∧ answer = some id := by
  cases last with
  | false => exact absurd after new
  | true =>
      cases answer with
      | none => cases after
      | some answer =>
          cases wanted with
          | false => exact absurd after new
          | true => exact ⟨rfl, rfl, after⟩

theorem idAfter_eq_some {wanted last : Bool} {answer before : Option ID} {id : ID}
    (after : idAfter wanted last answer before = some id) : before = some id ∨ answer = some id := by
  by_cases old : before = some id
  · exact .inl old
  · exact .inr (idAfter_new after old).2.2

def unbinds (wanted : Bool) : List Ask := if wanted then [.unbind] else []

def binds (wanted : Bool) : List Ask := if wanted then [.bind] else []

theorem unbind_mem (before after : Bool) : .unbind ∈ unbinds before ++ binds after ↔ before = true := by
  cases before <;> cases after <;> simp [unbinds, binds]

theorem count_bind (before after : Bool) :
    (unbinds before ++ binds after).count .bind = (binds after).length := by
  cases before <;> cases after <;> rfl

inductive Step (this : Exchange ID) : Exchange ID → Prop
  | idle : Step this this
  | reload (wanted : Bool) : Step this { this with
      wanted
      id := if this.wanted then none else this.id
      left := this.left + (binds wanted).length
      up := this.up ++ (unbinds this.wanted ++ binds wanted) }
  | hear (answer : Option ID) (down : List (Option ID)) (next : this.down = answer :: down) :
      Step this { this with
        id := idAfter this.wanted (this.left - 1 = 0) answer this.id
        left := this.left - 1
        down }
  | refuse (up : List Ask) (next : this.up = .bind :: up) (had : this.held ≠ none) :
      Step this { this with up, down := this.down ++ [none] }
  | answer (answer : Option ID) (up : List Ask) (next : this.up = .bind :: up)
      (free : this.held = none) :
      Step this { this with up, down := this.down ++ [answer], held := answer }
  | unbind (up : List Ask) (next : this.up = .unbind :: up) : Step this { this with up, held := none }
  | revoke (had : this.held ≠ none) : Step this { this with down := this.down ++ [none], held := none }

def Tidy : Bool → List Ask → Prop
  | _, [] => True
  | held, .bind :: up => held = false ∧ Tidy true up
  | _, .unbind :: up => Tidy false up

/-- Where the exchange is headed: what is on its way, once it has arrived, leaves both ends with the
same id. -/
structure Sound (this : Exchange ID) : Prop where
  left : this.left ≤ this.up.count .bind + this.down.length
  tidy : Tidy this.held.isSome this.up
  gone : this.wanted = false →
    this.id = none ∧ (this.up.getLast? = some .unbind ∨ (this.up = [] ∧ this.held = none))
  kept : this.wanted = true →
    this.up.getLast? = some .bind ∨ (this.up = [] ∧ this.down.getLast?.getD this.id = this.held)

theorem Tidy.free {held : Bool} {up : List Ask} (tidy : Tidy held up) : Tidy false up := by
  match up with
  | [] => trivial
  | .bind :: _ => exact ⟨rfl, tidy.2⟩
  | .unbind :: _ => exact tidy

theorem Tidy.of_true {up : List Ask} (tidy : Tidy true up) (held : Bool) : Tidy held up := by
  cases held with
  | true => exact tidy
  | false => exact tidy.free

theorem Tidy.append_unbind {held : Bool} {up : List Ask} (tidy : Tidy held up) :
    Tidy held (up ++ [.unbind]) := by
  induction up generalizing held with
  | nil => trivial
  | cons ask up ih =>
      cases ask with
      | bind => exact ⟨tidy.1, ih tidy.2⟩
      | unbind =>
          have free : Tidy false up := tidy
          exact ih free

theorem Tidy.append_bind {held : Bool} {up : List Ask} (tidy : Tidy held up)
    (last : up.getLast? = some .unbind ∨ (up = [] ∧ held = false)) : Tidy held (up ++ [.bind]) := by
  induction up generalizing held with
  | nil =>
      rcases last with last | ⟨-, free⟩
      · cases last
      · exact ⟨free, trivial⟩
  | cons ask up ih =>
      have later : up.getLast? = some .unbind ∨ (up = [] ∧ ask = .unbind) := by
        rcases last with last | ⟨empty, -⟩
        · cases up with
          | nil => exact .inr ⟨rfl, by simpa using last⟩
          | cons next up => exact .inl (by simpa using last)
        · cases empty
      cases ask with
      | bind =>
          rcases later with later | ⟨-, same⟩
          · exact ⟨tidy.1, ih tidy.2 (.inl later)⟩
          · cases same
      | unbind =>
          have free : Tidy false up := tidy
          rcases later with later | ⟨empty, -⟩
          · exact ih free (.inl later)
          · exact ih free (.inr ⟨empty, rfl⟩)

theorem getLast?_of_cons {α : Type*} {first last : α} {rest : List α}
    (same : (first :: rest).getLast? = some last) :
    (rest = [] ∧ first = last) ∨ rest.getLast? = some last := by
  cases rest with
  | nil => exact .inl ⟨rfl, by simpa using same⟩
  | cons next rest => exact .inr (by simpa using same)

section Sound
variable {this : Exchange ID}

theorem Sound.reload (sound : Sound this) (wanted : Bool) :
    Sound { this with
      wanted
      id := if this.wanted then none else this.id
      left := this.left + (binds wanted).length
      up := this.up ++ (unbinds this.wanted ++ binds wanted) } := by
  obtain ⟨left, tidy, gone, kept⟩ := sound
  have bounded : this.left + (binds wanted).length ≤
      (this.up ++ (unbinds this.wanted ++ binds wanted)).count .bind + this.down.length := by
    rw [List.count_append, count_bind]
    omega
  cases before : this.wanted with
  | false =>
      rw [before] at bounded
      obtain ⟨unknown, last⟩ := gone before
      cases wanted with
      | false =>
          simp only [unbinds, binds, Bool.false_eq_true, ↓reduceIte, List.append_nil] at bounded ⊢
          exact ⟨bounded, tidy, fun _ => ⟨unknown, last⟩, by simp⟩
      | true =>
          refine ⟨bounded, ?_, by simp, fun _ => .inl ?_⟩
          · apply tidy.append_bind
            rcases last with last | ⟨empty, free⟩
            · exact .inl last
            · exact .inr ⟨empty, by simp [free]⟩
          · simp [unbinds, binds]
  | true =>
      rw [before] at bounded
      cases wanted with
      | false =>
          refine ⟨bounded, ?_, fun _ => ⟨rfl, .inl ?_⟩, by simp⟩
          · exact tidy.append_unbind
          · simp [unbinds, binds]
      | true =>
          refine ⟨bounded, ?_, by simp, fun _ => .inl ?_⟩
          · have twice := tidy.append_unbind.append_bind (.inl (by simp))
            simpa [unbinds, binds] using twice
          · simp [unbinds, binds]

theorem Sound.hear (sound : Sound this) {answer : Option ID} {down : List (Option ID)}
    (next : this.down = answer :: down) :
    Sound { this with
      id := idAfter this.wanted (this.left - 1 = 0) answer this.id
      left := this.left - 1
      down } := by
  obtain ⟨left, tidy, gone, kept⟩ := sound
  rw [next, List.length_cons] at left
  refine ⟨by dsimp only; omega, tidy, ?_, ?_⟩
  · intro unwanted
    obtain ⟨unknown, last⟩ := gone unwanted
    refine ⟨?_, last⟩
    dsimp only at unwanted ⊢
    rw [unknown, unwanted, idAfter_unwanted]
  · intro wanted
    dsimp only at wanted ⊢
    rcases kept wanted with last | ⟨empty, agree⟩
    · exact .inl last
    · right
      refine ⟨empty, ?_⟩
      cases down with
      | cons first rest =>
          rw [next, List.getLast?_cons_cons] at agree
          simpa [List.getLast?_cons] using agree
      | nil =>
          -- The last answer on its way, to the last `bind` sent.
          have last : this.left - 1 = 0 := by
            simp only [empty, List.count_nil, List.length_nil] at left
            omega
          rw [next] at agree
          simp only [List.getLast?_singleton, Option.getD_some] at agree
          rw [← agree, wanted]
          cases answer <;> simp [idAfter, last]

theorem Sound.answer (sound : Sound this) {answer : Option ID} {up : List Ask}
    (next : this.up = .bind :: up) :
    Sound { this with up, down := this.down ++ [answer], held := answer } := by
  obtain ⟨left, tidy, gone, kept⟩ := sound
  rw [next] at left tidy gone kept
  refine ⟨?_, tidy.2.of_true _, ?_, ?_⟩
  · simp only [List.count_cons_self] at left
    simp only [List.length_append, List.length_singleton]
    omega
  · intro unwanted
    obtain ⟨unknown, last⟩ := gone unwanted
    refine ⟨unknown, .inl ?_⟩
    rcases last with last | ⟨empty, -⟩
    · rcases getLast?_of_cons last with ⟨-, same⟩ | last
      · cases same
      · exact last
    · cases empty
  · intro wanted
    rcases kept wanted with last | ⟨empty, -⟩
    · rcases getLast?_of_cons last with ⟨empty, -⟩ | last
      · exact .inr ⟨empty, by simp⟩
      · exact .inl last
    · cases empty

theorem Sound.unbind (sound : Sound this) {up : List Ask} (next : this.up = .unbind :: up) :
    Sound { this with up, held := none } := by
  obtain ⟨left, tidy, gone, kept⟩ := sound
  rw [next] at left tidy gone kept
  refine ⟨by simpa using left, tidy, ?_, ?_⟩
  · intro unwanted
    obtain ⟨unknown, last⟩ := gone unwanted
    refine ⟨unknown, ?_⟩
    rcases last with last | ⟨empty, -⟩
    · rcases getLast?_of_cons last with ⟨empty, -⟩ | last
      · exact .inr ⟨empty, rfl⟩
      · exact .inl last
    · cases empty
  · intro wanted
    rcases kept wanted with last | ⟨empty, -⟩
    · rcases getLast?_of_cons last with ⟨-, same⟩ | last
      · cases same
      · exact .inl last
    · cases empty

theorem Sound.revoke (sound : Sound this) :
    Sound { this with down := this.down ++ [none], held := none } := by
  obtain ⟨left, tidy, gone, kept⟩ := sound
  refine ⟨?_, tidy.free, ?_, ?_⟩
  · simp only [List.length_append, List.length_singleton]
    omega
  · intro unwanted
    obtain ⟨unknown, last⟩ := gone unwanted
    refine ⟨unknown, ?_⟩
    rcases last with last | ⟨empty, -⟩
    · exact .inl last
    · exact .inr ⟨empty, rfl⟩
  · intro wanted
    rcases kept wanted with last | ⟨empty, -⟩
    · exact .inl last
    · exact .inr ⟨empty, by simp⟩

theorem Sound.step (sound : Sound this) {next : Exchange ID} (step : Step this next) : Sound next := by
  cases step with
  | idle => exact sound
  | reload wanted => exact sound.reload wanted
  | hear answer down next => exact sound.hear next
  | refuse up next had =>
      have tidy := sound.tidy
      rw [next] at tidy
      exact absurd tidy.1 (by simpa [Option.isSome_iff_ne_none] using had)
  | answer answer up next free => exact sound.answer next
  | unbind up next => exact sound.unbind next
  | revoke had => exact sound.revoke

theorem Sound.agree (sound : Sound this) (up : this.up = []) (down : this.down = []) :
    this.id = this.held ∧ (this.wanted = false → this.held = none) := by
  have unwanted : this.wanted = false → this.id = none ∧ this.held = none := by
    intro unwanted
    obtain ⟨unknown, last⟩ := sound.gone unwanted
    rcases last with last | ⟨-, free⟩
    · rw [up] at last
      cases last
    · exact ⟨unknown, free⟩
  refine ⟨?_, fun gone => (unwanted gone).2⟩
  cases wanted : this.wanted with
  | false => rw [(unwanted wanted).1, (unwanted wanted).2]
  | true =>
      rcases sound.kept wanted with last | ⟨-, agree⟩
      · rw [up] at last
        cases last
      · rw [down] at agree
        exact agree

end Sound
end Exchange
end Hawse.Lib
