import Hawse.Transport.Records
import Hawse.Proof.Transport.Grammar

namespace Hawse.Proof.Transport
open Record Hawse.Transport

def backlog (inner : Inner) : Nat := inner.rest.length + inner.splits.length

inductive Pulled (inner : Inner) (want : Nat) : Option (List UInt8) → Inner → Prop
  | pending (next : Inner) (rest : next.rest = inner.rest) (less : backlog next < backlog inner) :
      Pulled inner want none next
  | ended (next : Inner) (empty : inner.rest = []) (rest : next.rest = [])
      (less : backlog next ≤ backlog inner) : Pulled inner want (some []) next
  | bytes (first : UInt8) (more : List UInt8) (next : Inner) (fits : (first :: more).length ≤ want)
      (rest : inner.rest = first :: more ++ next.rest) (less : backlog next < backlog inner) :
      Pulled inner want (some (first :: more)) next

theorem pulled_take (inner : Inner) (want : Nat) {cap : Nat} (some_cap : 0 < cap) (fits : cap ≤ want)
    {splits : List (Option Nat)} (fewer : splits.length ≤ inner.splits.length) :
    Pulled inner want (some (inner.rest.take cap)) ⟨inner.rest.drop cap, splits⟩ := by
  cases taken : inner.rest.take cap with
  | nil =>
      have empty : inner.rest = [] := by
        rcases List.take_eq_nil_iff.mp taken with zero | empty
        · omega
        · exact empty
      apply Pulled.ended _ empty
      · rw [empty, List.drop_nil]
      · simp only [backlog, empty, List.drop_nil, List.length_nil]
        omega
  | cons first more =>
      have whole : first :: more ++ inner.rest.drop cap = inner.rest := by
        rw [← taken, List.take_append_drop]
      have short : (first :: more).length ≤ cap := by
        rw [← taken]
        exact List.length_take_le _ _
      apply Pulled.bytes first more _ (le_trans short fits) whole.symm
      have lengths := congrArg List.length whole
      simp only [List.cons_append, List.length_cons, List.length_append] at lengths
      simp only [backlog]
      omega

theorem pollRead_pulled (inner : Inner) {want : Nat} (some_room : 0 < want) :
    Pulled inner want (inner.pollRead want).1 (inner.pollRead want).2 := by
  obtain ⟨rest, splits⟩ := inner
  cases splits with
  | nil => exact pulled_take ⟨rest, []⟩ want some_room le_rfl le_rfl
  | cons split splits =>
      cases split with
      | none =>
          refine Pulled.pending _ rfl ?_
          simp [backlog, Inner.pollRead]
      | some k =>
          apply pulled_take ⟨rest, some k :: splits⟩ want
          · omega
          · omega
          · simp

/-- What a reader in this state makes of the bytes still to come. -/
def expect : Reading → List UInt8 → List UInt8 × Ending
  | .head collected, rest => parse (collected ++ rest)
  | .data left, rest => parseData left rest
  | .finished, _ => ([], .finished)
  | .reset code, _ => ([], .reset code)

def Valid : Reading → Prop
  | .head collected =>
      collected.length ≤ 5 ∧ ∀ need, RecordReader.need collected = some need → collected.length ≤ need
  | .data left => 0 < left
  | _ => True

def turnsLeft : Reading → Nat
  | .head collected => 8 - collected.length
  | .data _ => 2
  | _ => 1

def report : Ending → Polled
  | .finished => .ok []
  | .reset code => .failed code

def Ending.state : Ending → Reading
  | .finished => .finished
  | .reset code => .reset code

inductive Turned (this : RecordReader) : Option Polled → RecordReader → Prop
  | again (next : RecordReader) (valid : Valid next.state)
      (same : expect next.state next.inner.rest = expect this.state this.inner.rest)
      (fewer : turnsLeft next.state < turnsLeft this.state)
      (less : backlog next.inner ≤ backlog this.inner) : Turned this none next
  | pending (next : RecordReader) (state : next.state = this.state)
      (rest : next.inner.rest = this.inner.rest) (less : backlog next.inner < backlog this.inner) :
      Turned this (some .pending) next
  | bytes (first : UInt8) (more : List UInt8) (next : RecordReader) (valid : Valid next.state)
      (same : expect this.state this.inner.rest =
        prepend (first :: more) (expect next.state next.inner.rest))
      (less : backlog next.inner < backlog this.inner) :
      Turned this (some (.ok (first :: more))) next
  | ended (ending : Ending) (state : this.state = ending.state) :
      Turned this (some (report ending)) this

theorem need_bounds {collected : List UInt8} {need : Nat}
    (asks : RecordReader.need collected = some need) : 1 ≤ need ∧ need ≤ 5 := by
  cases collected with
  | nil =>
      simp only [RecordReader.need, Option.some.injEq] at asks
      omega
  | cons tag more =>
      simp only [RecordReader.need, headLen] at asks
      split_ifs at asks <;> simp only [Option.some.injEq] at asks <;> omega

section Turn
variable {remaining : Nat} (inner : Inner)

theorem turn_data {left : Nat} (some_room : 0 < remaining) (some_left : 0 < left) :
    Turned ⟨inner, .data left⟩ ((RecordReader.mk inner (.data left)).turn remaining).1
      ((RecordReader.mk inner (.data left)).turn remaining).2 := by
  have pulled := pollRead_pulled inner (lt_min some_left some_room)
  simp only [RecordReader.turn, Nat.ne_of_gt some_room, ↓reduceIte]
  revert pulled
  generalize inner.pollRead (min left remaining) = result
  obtain ⟨result, next⟩ := result
  intro pulled
  cases pulled with
  | pending _ rest less => exact Turned.pending _ rfl rest less
  | ended _ empty rest less =>
      refine Turned.again _ trivial ?_ (by simp [turnsLeft]) less
      simp [expect, empty, parseData, some_left]
  | bytes first more _ fits rest less =>
      have fits_left : (first :: more).length ≤ left := le_trans fits (min_le_left _ _)
      dsimp only
      split_ifs with exactly
      · refine Turned.bytes first more _ ⟨by simp, by simp⟩ ?_ less
        simp only [expect, rest]
        rw [parseData_append fits_left, ← exactly, Nat.sub_self, parseData_zero, List.nil_append]
      · refine Turned.bytes first more _ ?_ ?_ less
        · show 0 < left - (first :: more).length
          omega
        · simp only [expect, rest]
          rw [parseData_append fits_left]

theorem turn_whole {tag : UInt8} {more : List UInt8} {need : Nat} (known : headLen tag = some need)
    (whole : more.length + 1 = need) :
    Turned ⟨inner, .head (tag :: more)⟩ ((RecordReader.mk inner (.head (tag :: more))).turn remaining).1
      ((RecordReader.mk inner (.head (tag :: more))).turn remaining).2 := by
  have all : (tag :: more).take need = tag :: more := List.take_of_length_le (by simp [whole])
  have notLess : ¬ (tag :: more).length < need := by simp [whole]
  simp only [RecordReader.turn, RecordReader.need, known, notLess, ↓reduceIte, all]
  unfold headLen at known
  split_ifs at known with isData isFinish isReset
  · subst isData
    simp only [Option.some.injEq] at known
    have two : more.length = 2 := by omega
    obtain ⟨lo, hi, rfl⟩ := List.length_eq_two.mp two
    by_cases zero : u16FromLe lo hi = 0
    · simp only [decode, zero, ↓reduceIte]
      refine Turned.again _ trivial ?_ (by simp [turnsLeft]) le_rfl
      simp [expect, parse_head_empty zero]
    · simp only [decode, zero, ↓reduceIte]
      refine Turned.again _ ?_ ?_ (by simp [turnsLeft]) le_rfl
      · show 0 < (u16FromLe lo hi).toNat
        exact Nat.pos_of_ne_zero fun none => zero (UInt16.toNat_inj.mp none)
      · simp [expect, parse_head_data _ _ zero]
  · subst isFinish
    simp only [Option.some.injEq] at known
    cases more with
    | nil =>
        simp only [decode, ↓reduceIte]
        refine Turned.again _ trivial ?_ (by simp [turnsLeft]) le_rfl
        simp [expect, parse_finish]
    | cons =>
        simp only [List.length_cons] at whole
        omega
  · subst isReset
    simp only [Option.some.injEq] at known
    have four : more.length = 4 := by omega
    obtain ⟨a, b, c, d, rfl⟩ := List.length_eq_four.mp four
    simp only [decode, ↓reduceIte]
    refine Turned.again _ trivial ?_ (by simp [turnsLeft]) le_rfl
    simp [expect, parse_head_reset]

theorem turn_more {collected : List UInt8} {need : Nat}
    (asks : RecordReader.need collected = some need) (short : collected.length < need) :
    Turned ⟨inner, .head collected⟩ ((RecordReader.mk inner (.head collected)).turn remaining).1
      ((RecordReader.mk inner (.head collected)).turn remaining).2 := by
  have pulled := pollRead_pulled inner (Nat.sub_pos_of_lt short)
  have few := (need_bounds asks).2
  simp only [RecordReader.turn, asks, short, ↓reduceIte]
  revert pulled
  generalize inner.pollRead (need - collected.length) = result
  obtain ⟨result, next⟩ := result
  intro pulled
  cases pulled with
  | pending _ rest less => exact Turned.pending _ rfl rest less
  | ended _ empty rest less =>
      refine Turned.again _ trivial ?_ (by simp only [turnsLeft]; omega) less
      cases collected with
      | nil => simp [expect, empty, parse]
      | cons tag more => simp [expect, empty, parse_short asks short]
  | bytes first more _ fits rest less =>
      refine Turned.again _ ?_ ?_ ?_ (le_of_lt less)
      · refine ⟨by rw [List.length_append]; omega, ?_⟩
        cases collected with
        | nil =>
            intro need' asks'
            have := (need_bounds asks').1
            simp only [RecordReader.need, Option.some.injEq] at asks
            subst asks
            exact le_trans fits this
        | cons tag others =>
            intro need' asks'
            have same : need' = need := Option.some.inj (asks'.symm.trans asks)
            rw [List.length_append]
            omega
      · simp [expect, rest]
      · simp only [turnsLeft, List.length_append, List.length_cons]
        omega

theorem turn_unknown {collected : List UInt8} (few : collected.length ≤ 5)
    (unknown : RecordReader.need collected = none) :
    Turned ⟨inner, .head collected⟩ ((RecordReader.mk inner (.head collected)).turn remaining).1
      ((RecordReader.mk inner (.head collected)).turn remaining).2 := by
  simp only [RecordReader.turn, unknown]
  cases collected with
  | nil => simp [RecordReader.need] at unknown
  | cons tag more =>
      refine Turned.again _ trivial ?_ ?_ le_rfl
      · simp [expect, parse_unknown unknown]
      · simp only [turnsLeft]
        omega

theorem turn_turned (this : RecordReader) (valid : Valid this.state) (some_room : 0 < remaining) :
    Turned this (this.turn remaining).1 (this.turn remaining).2 := by
  obtain ⟨inner, state⟩ := this
  cases state with
  | finished => exact Turned.ended .finished rfl
  | reset code => exact Turned.ended (.reset code) rfl
  | data left => exact turn_data inner some_room valid
  | head collected =>
      obtain ⟨few, within⟩ := valid
      cases asks : RecordReader.need collected with
      | none => exact turn_unknown inner few asks
      | some need =>
          rcases Nat.lt_or_eq_of_le (within need asks) with short | whole
          · exact turn_more inner asks short
          · cases collected with
            | nil =>
                have := (need_bounds asks).1
                simp only [List.length_nil] at whole
                omega
            | cons tag more => exact turn_whole inner asks whole

end Turn

inductive Returned (this : RecordReader) : Polled → RecordReader → Prop
  | pending (next : RecordReader) (valid : Valid next.state)
      (same : expect next.state next.inner.rest = expect this.state this.inner.rest)
      (less : backlog next.inner < backlog this.inner) : Returned this .pending next
  | bytes (first : UInt8) (more : List UInt8) (next : RecordReader) (valid : Valid next.state)
      (same : expect this.state this.inner.rest =
        prepend (first :: more) (expect next.state next.inner.rest))
      (less : backlog next.inner < backlog this.inner) : Returned this (.ok (first :: more)) next
  | ended (ending : Ending) (next : RecordReader) (state : next.state = ending.state)
      (same : expect this.state this.inner.rest = ([], ending)) :
      Returned this (report ending) next

theorem loop_returned {remaining turns : Nat} {this : RecordReader} (valid : Valid this.state)
    (some_room : 0 < remaining) (enough : turnsLeft this.state ≤ turns) :
    ∃ polled next, this.loop remaining turns = some (polled, next) ∧ Returned this polled next := by
  induction turns generalizing this with
  | zero =>
      exfalso
      revert enough
      rcases this with ⟨inner, collected | left | _ | code⟩
      · have := valid.1
        simp only [turnsLeft]
        omega
      all_goals simp [turnsLeft]
  | succ turns ih =>
      have turned := turn_turned this valid some_room
      unfold RecordReader.loop
      revert turned
      generalize this.turn remaining = result
      obtain ⟨result, next⟩ := result
      intro turned
      cases turned with
      | again _ valid' same fewer less =>
          obtain ⟨polled, last, ran, returned⟩ := ih valid' (by omega)
          refine ⟨polled, last, ran, ?_⟩
          cases returned with
          | pending _ valid'' same' less' =>
              exact Returned.pending _ valid'' (same'.trans same) (lt_of_lt_of_le less' less)
          | bytes first more _ valid'' same' less' =>
              exact Returned.bytes first more _ valid'' (same.symm.trans same')
                (lt_of_lt_of_le less' less)
          | ended ending _ state same' => exact Returned.ended ending _ state (same.symm.trans same')
      | pending _ state rest less =>
          exact ⟨_, _, rfl, Returned.pending _ (by rwa [state]) (by rw [state, rest]) less⟩
      | bytes first more _ valid' same less =>
          exact ⟨_, _, rfl, Returned.bytes first more _ valid' same less⟩
      | ended ending state =>
          refine ⟨_, _, rfl, Returned.ended ending _ state ?_⟩
          rw [state]
          cases ending <;> rfl

theorem pollRead_returned {remaining : Nat} {this : RecordReader} (valid : Valid this.state)
    (some_room : 0 < remaining) :
    ∃ polled next, this.pollRead remaining = some (polled, next) ∧ Returned this polled next := by
  apply loop_returned valid some_room
  rcases this with ⟨inner, collected | left | _ | code⟩ <;> simp [turnsLeft, RecordReader.maxTurns]

def Polled.bytes : Polled → List UInt8
  | .ok bytes => bytes
  | _ => []

def delivered (polled : List Polled) : List UInt8 := polled.flatMap Polled.bytes

def Polled.goesOn : Polled → Prop
  | .pending => True
  | .ok bytes => bytes ≠ []
  | .failed _ => False

/-- The polls `before` the end of a stream that holds `payload`, and whether the end was read. -/
structure Reads (payload : List UInt8) (most : Nat) (before : List Polled) (ends : Nat) : Prop where
  goesOn : ∀ polled ∈ before, Polled.goesOn polled
  delivers : delivered before <+: payload
  delivers_all : 0 < ends → delivered before = payload
  bounded : before.length ≤ most

theorem Reads.cons (polled : Polled) {payload : List UInt8} {less most : Nat} {before : List Polled}
    {ends : Nat} (goesOn : Polled.goesOn polled) (fewer : less < most)
    (reads : Reads payload less before ends) :
    Reads (Polled.bytes polled ++ payload) most (polled :: before) ends := by
  constructor
  · intro other member
    rcases List.mem_cons.mp member with rfl | member
    · exact goesOn
    · exact reads.goesOn other member
  · exact (List.prefix_append_right_inj _).mpr reads.delivers
  · intro ended
    rw [← reads.delivers_all ended]
    rfl
  · have := reads.bounded
    simp only [List.length_cons]
    omega

theorem polls_ended {ending : Ending} {this : RecordReader} (state : this.state = ending.state)
    {sizes : List Nat} :
    this.polls sizes = some (List.replicate sizes.length (report ending), this) := by
  induction sizes with
  | nil => rfl
  | cons size sizes ih =>
      have polled : this.pollRead size = some (report ending, this) := by
        obtain ⟨inner, _⟩ := this
        subst state
        cases ending <;> rfl
      simp [RecordReader.polls, polled, ih, List.replicate_succ]

theorem polls_reads {sizes : List Nat} (some_room : ∀ size ∈ sizes, 0 < size) {this : RecordReader}
    (valid : Valid this.state) {payload : List UInt8} {ending : Ending}
    (expected : expect this.state this.inner.rest = (payload, ending)) :
    ∃ before ends next,
      this.polls sizes = some (before ++ List.replicate ends (report ending), next) ∧
      before.length + ends = sizes.length ∧
      Reads payload (backlog this.inner) before ends := by
  induction sizes generalizing this payload with
  | nil => exact ⟨[], 0, this, rfl, rfl, by simp, by simp [delivered], by simp, by simp⟩
  | cons size sizes ih =>
      have some_room' : ∀ size ∈ sizes, 0 < size :=
        fun other member => some_room other (List.mem_cons_of_mem _ member)
      obtain ⟨polled, next, ran, returned⟩ := pollRead_returned valid (some_room size (by simp))
      cases returned with
      | pending _ valid' same less =>
          obtain ⟨before, ends, last, ran', count, reads⟩ :=
            ih some_room' valid' (same.trans expected)
          refine ⟨.pending :: before, ends, last, ?_, ?_, Reads.cons .pending trivial less reads⟩
          · simp [RecordReader.polls, ran, ran']
          · simp only [List.length_cons]
            omega
      | bytes first more _ valid' same less =>
          have split := expected.symm.trans same
          simp only [prepend, Prod.mk.injEq] at split
          obtain ⟨rfl, rfl⟩ := split
          obtain ⟨before, ends, last, ran', count, reads⟩ := ih some_room' valid' (Prod.mk.eta).symm
          refine ⟨.ok (first :: more) :: before, ends, last, ?_, ?_,
            Reads.cons (.ok (first :: more)) (List.cons_ne_nil _ _) less reads⟩
          · simp [RecordReader.polls, ran, ran']
          · simp only [List.length_cons]
            omega
      | ended ending' _ state same =>
          obtain ⟨rfl, rfl⟩ : [] = payload ∧ ending' = ending := by
            simpa using same.symm.trans expected
          refine ⟨[], sizes.length + 1, next, ?_, by simp, by simp, by simp [delivered],
            by simp [delivered], by simp⟩
          simp [RecordReader.polls, ran, polls_ended state, List.replicate_succ]

theorem new_reads (input : List UInt8) (splits : List (Option Nat)) {sizes : List Nat}
    (some_room : ∀ size ∈ sizes, 0 < size) :
    ∃ before ends reader,
      (RecordReader.new ⟨input, splits⟩).polls sizes =
        some (before ++ List.replicate ends (report (parse input).2), reader) ∧
      before.length + ends = sizes.length ∧
      Reads (parse input).1 (input.length + splits.length) before ends := by
  have valid : Valid (RecordReader.new ⟨input, splits⟩).state := ⟨by simp, by simp⟩
  exact polls_reads some_room valid rfl

theorem report_injective : Function.Injective report := by
  intro first second same
  cases first <;> cases second <;> simp_all [report]

theorem reader_accepts_grammar (input : List UInt8) (splits : List (Option Nat)) (sizes : List Nat)
    (some_room : ∀ size ∈ sizes, 0 < size) :
    ∃ (before : List Polled) (last : Polled) (ends : Nat) (reader : RecordReader),
      (RecordReader.new ⟨input, splits⟩).polls sizes =
        some (before ++ List.replicate ends last, reader) ∧
      (∀ polled ∈ before, Polled.goesOn polled) ∧
      (input.length + splits.length < sizes.length → 0 < ends) ∧
      (last = .ok [] ↔ Finishes input) ∧
      (∀ code, last = .failed (some code) ↔ Resets input code) ∧
      (last = .failed none ↔ ¬ Finishes input ∧ ¬ ∃ code, Resets input code) ∧
      ∃ payload, Carries input payload ∧ delivered before <+: payload ∧
        (0 < ends → delivered before = payload) := by
  obtain ⟨before, ends, reader, ran, count, reads⟩ := new_reads input splits some_room
  refine ⟨before, report (parse input).2, ends, reader, ran, reads.goesOn, ?_, ?_, ?_, ?_,
    (parse input).1, carries_iff.mpr rfl, reads.delivers, reads.delivers_all⟩
  · intro enough
    have := reads.bounded
    omega
  · rw [finishes_iff]
    exact report_injective.eq_iff (b := Ending.finished)
  · intro code
    rw [resets_iff]
    exact report_injective.eq_iff (b := Ending.reset (some code))
  · simp only [finishes_iff, resets_iff]
    cases (parse input).2 with
    | finished => simp [report]
    | reset code => cases code <;> simp [report]

theorem reader_accepts_grammar_cut :
    ∃ before ends reader,
      (RecordReader.new ⟨[0, 1, 0, 7, 0, 3, 0, 9], [some 0, none, some 1]⟩).polls
        (List.replicate 12 4) = some (before ++ List.replicate ends (.failed none), reader) ∧
      0 < ends ∧ delivered before = [7, 9] := by
  obtain ⟨before, last, ends, reader, ran, -, enough, -, -, cut, payload, carries, -, all⟩ :=
    reader_accepts_grammar [0, 1, 0, 7, 0, 3, 0, 9] [some 0, none, some 1] (List.replicate 12 4)
      (by simp)
  have parsed : parse [0, 1, 0, 7, 0, 3, 0, 9] = ([7, 9], .reset none) := by
    simp [parse, dataTag, u16FromLe, prepend]
  have ends_pos : 0 < ends := enough (by simp)
  have last_failed : last = .failed none := by
    apply cut.mpr
    simp [finishes_iff, resets_iff, parsed]
  refine ⟨before, ends, reader, last_failed ▸ ran, ends_pos, ?_⟩
  rw [all ends_pos, carries_iff.mp carries, parsed]

end Hawse.Proof.Transport
