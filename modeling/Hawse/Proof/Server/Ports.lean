import Hawse.Server.Ports

namespace Hawse.Proof.Ports
open Lib Hawse.Server PortAllocator

section Offset
variable {span : PortSpan} {number : UInt16}

def Inside (span : PortSpan) (number : UInt16) : Prop := span.first ≤ number ∧ number ≤ span.last

def offset (span : PortSpan) (number : UInt16) : Nat := number.toNat - span.first.toNat

theorem len_eq (ordered : span.first ≤ span.last) : span.len = span.last.toNat - span.first.toNat + 1 := by
  rw [PortSpan.len, UInt16.toNat_sub_of_le _ _ ordered]

theorem offset_lt (inside : Inside span number) : offset span number < span.len := by
  have low := UInt16.le_iff_toNat_le.mp inside.1
  have high := UInt16.le_iff_toNat_le.mp inside.2
  rw [len_eq (UInt16.le_trans inside.1 inside.2)]
  unfold offset
  omega

theorem offset_inj {other : UInt16} (inside : Inside span number) (inside' : Inside span other)
    (same : offset span number = offset span other) : number = other := by
  have low := UInt16.le_iff_toNat_le.mp inside.1
  have low' := UInt16.le_iff_toNat_le.mp inside'.1
  unfold offset at same
  exact UInt16.toNat_inj.mp (by omega)

theorem succ_toNat (inside : Inside span number) (more : number ≠ span.last) :
    (number + 1).toNat = number.toNat + 1 ∧ number.toNat < span.last.toNat := by
  have high := UInt16.le_iff_toNat_le.mp inside.2
  have below : number.toNat ≠ span.last.toNat := fun same => more (UInt16.toNat_inj.mp same)
  have top := span.last.toNat_lt
  refine ⟨?_, by omega⟩
  rw [UInt16.toNat_add, UInt16.toNat_one]
  omega

end Offset

section Cursor
variable {s : PortAllocator}

theorem advance_cursor (inside : Inside s.span s.cursor) :
    Inside s.span s.advance.cursor ∧
      offset s.span s.advance.cursor = (offset s.span s.cursor + 1) % s.span.len := by
  have ordered := UInt16.le_trans inside.1 inside.2
  have low := UInt16.le_iff_toNat_le.mp inside.1
  unfold advance
  split_ifs with last
  · refine ⟨⟨UInt16.le_refl _, ordered⟩, ?_⟩
    have full : offset s.span s.cursor + 1 = s.span.len := by
      rw [len_eq ordered, last]
      rfl
    rw [full, Nat.mod_self]
    exact Nat.sub_self _
  · obtain ⟨next, less⟩ := succ_toNat inside last
    have within : Inside s.span (s.cursor + 1) :=
      ⟨UInt16.le_iff_toNat_le.mpr (by omega), UInt16.le_iff_toNat_le.mpr (by omega)⟩
    refine ⟨within, ?_⟩
    have moved : offset s.span (s.cursor + 1) = offset s.span s.cursor + 1 := by
      unfold offset
      omega
    rw [moved, Nat.mod_eq_of_lt (moved ▸ offset_lt within)]

end Cursor

section Walk

/-- The numbers the loop of `claim_dynamic` moves the cursor over. -/
def looked (kind : Kind) : Nat → PortAllocator → List UInt16
  | 0, _ => []
  | left + 1, this =>
      this.cursor :: if ⟨this.cursor, kind⟩ ∈ this.inUse then looked kind left this.advance else []

/-- What the loop came to: it saw the numbers from the cursor on, one after the other, and all but
the last of them, if that one was free, in use. -/
structure Walked (kind : Kind) (s : PortAllocator) (left : Nat) (seen : List UInt16) (found : Option Port)
    (next : PortAllocator) : Prop where
  span : next.span = s.span
  short : seen.length ≤ left
  inside : ∀ number ∈ seen, Inside s.span number
  round : ∀ k number, seen[k]? = some number → offset s.span number = (offset s.span s.cursor + k) % s.span.len
  cursor : Inside s.span next.cursor
  after : offset s.span next.cursor = (offset s.span s.cursor + seen.length) % s.span.len
  refused : found = none → seen.length = left ∧ (∀ number ∈ seen, ⟨number, kind⟩ ∈ s.inUse) ∧ next.inUse = s.inUse
  claimed : ∀ port, found = some port → port.kind = kind ∧ port ∉ s.inUse ∧ next.inUse = insert port s.inUse ∧
    ∃ before, seen = before ++ [port.number] ∧ ∀ number ∈ before, ⟨number, kind⟩ ∈ s.inUse

theorem walk_walked (kind : Kind) (left : Nat) {s : PortAllocator} (inside : Inside s.span s.cursor) :
    Walked kind s left (looked kind left s) (walk kind left s).1 (walk kind left s).2 := by
  induction left generalizing s with
  | zero =>
      have here : offset s.span s.cursor % s.span.len = offset s.span s.cursor := Nat.mod_eq_of_lt (offset_lt inside)
      exact ⟨rfl, le_rfl, by simp [looked], by simp [looked], inside, here.symm, fun _ => ⟨rfl, by simp [looked], rfl⟩,
        by rintro _ ⟨⟩⟩
  | succ left ih =>
      obtain ⟨inside', next⟩ := advance_cursor inside
      have here : offset s.span s.cursor % s.span.len = offset s.span s.cursor := Nat.mod_eq_of_lt (offset_lt inside)
      have turn (k : Nat) : (offset s.span s.advance.cursor + k) % s.span.len =
          (offset s.span s.cursor + (k + 1)) % s.span.len := by
        rw [next, Nat.mod_add_mod]
        congr 1
        omega
      unfold looked walk
      dsimp only
      by_cases used : (⟨s.cursor, kind⟩ : Port) ∈ s.inUse
      · simp only [if_pos used]
        have rest := ih (s := s.advance) inside'
        refine ⟨rest.span, Nat.succ_le_succ rest.short, ?_, ?_, rest.cursor, ?_, ?_, ?_⟩
        · exact List.forall_mem_cons.mpr ⟨inside, rest.inside⟩
        · intro k number stored
          cases k with
          | zero =>
              obtain rfl := Option.some.inj stored
              exact here.symm
          | succ k => exact (rest.round k number stored).trans (turn k)
        · exact rest.after.trans (turn _)
        · intro nothing
          obtain ⟨length, all, inUse⟩ := rest.refused nothing
          exact ⟨congrArg (· + 1) length, List.forall_mem_cons.mpr ⟨used, all⟩, inUse⟩
        · intro port found
          obtain ⟨mine, free, inUse, before, seen, all⟩ := rest.claimed port found
          exact ⟨mine, free, inUse, s.cursor :: before, congrArg (s.cursor :: ·) seen,
            List.forall_mem_cons.mpr ⟨used, all⟩⟩
      · simp only [if_neg used]
        refine ⟨rfl, Nat.le_add_left 1 left, ?_, ?_, inside', ?_, by rintro ⟨⟩, ?_⟩
        · intro number member
          obtain rfl := List.mem_singleton.mp member
          exact inside
        · intro k number stored
          cases k with
          | zero =>
              obtain rfl := Option.some.inj stored
              exact here.symm
          | succ k => cases stored
        · exact next
        · rintro _ ⟨⟩
          exact ⟨rfl, used, rfl, [], rfl, by simp⟩

theorem Walked.behind {kind : Kind} {s next : PortAllocator} {left : Nat} {seen : List UInt16} {found : Option Port}
    (walked : Walked kind s left seen found next) {port : Port} (claimed : found = some port) :
    offset s.span next.cursor = (offset s.span port.number + 1) % s.span.len := by
  obtain ⟨-, -, -, before, rfl, -⟩ := walked.claimed port claimed
  have last : (before ++ [port.number])[before.length]? = some port.number := List.getElem?_concat_length
  rw [walked.after, walked.round _ _ last, Nat.mod_add_mod, List.length_append]
  rfl

theorem looked_cursor (kind : Kind) (left : Nat) (s : PortAllocator) :
    (∀ k number, (looked kind left s)[k]? = some number → number = (advance^[k] s).cursor) ∧
      (walk kind left s).2.cursor = (advance^[(looked kind left s).length] s).cursor := by
  induction left generalizing s with
  | zero => exact ⟨by simp [looked], rfl⟩
  | succ left ih =>
      unfold looked walk
      dsimp only
      split_ifs with used
      · obtain ⟨places, last⟩ := ih s.advance
        refine ⟨?_, last⟩
        intro k number stored
        cases k with
        | zero => exact (Option.some.inj stored).symm
        | succ k => exact places k number stored
      · refine ⟨?_, rfl⟩
        intro k number stored
        cases k with
        | zero => exact (Option.some.inj stored).symm
        | succ k => cases stored

theorem exists_round {len : Nat} (base : Nat) {residue : Nat} (less : residue < len) :
    ∃ k < len, (base + k) % len = residue := by
  have below := Nat.mod_lt base (Nat.zero_lt_of_lt less)
  refine ⟨(residue + len - base % len) % len, Nat.mod_lt _ (Nat.zero_lt_of_lt less), ?_⟩
  rw [Nat.add_mod_mod, ← Nat.mod_add_mod, Nat.add_sub_cancel' (by omega), Nat.add_mod_right, Nat.mod_eq_of_lt less]

theorem Walked.all {kind : Kind} {s next : PortAllocator} {left : Nat} {seen : List UInt16} {found : Option Port}
    (walked : Walked kind s left seen found next) (long : s.span.len ≤ seen.length) {number : UInt16}
    (inside : Inside s.span number) : number ∈ seen := by
  obtain ⟨k, less, same⟩ := exists_round (offset s.span s.cursor) (offset_lt inside)
  obtain ⟨other, stored⟩ : ∃ other, seen[k]? = some other := ⟨_, List.getElem?_eq_getElem (by omega)⟩
  have member := List.mem_of_getElem? stored
  obtain rfl := offset_inj (walked.inside other member) inside ((walked.round k other stored).trans same)
  exact member

end Walk

section Claim
variable {s : PortAllocator} (inside : Inside s.span s.cursor)
include inside

theorem claimDynamic_walked (kind : Kind) :
    Walked kind s s.span.len (looked kind s.span.len s) (s.claimDynamic kind).1 (s.claimDynamic kind).2 :=
  walk_walked kind s.span.len inside

theorem claimDynamic_none (kind : Kind) :
    (s.claimDynamic kind).1 = none ↔ ∀ number, Inside s.span number → ⟨number, kind⟩ ∈ s.inUse := by
  have walked := claimDynamic_walked inside kind
  constructor
  · intro nothing number within
    obtain ⟨length, all, -⟩ := walked.refused nothing
    exact all number (walked.all length.ge within)
  · intro full
    cases found : (s.claimDynamic kind).1 with
    | none => rfl
    | some port =>
        obtain ⟨rfl, free, -, before, seen, -⟩ := walked.claimed port found
        have within := walked.inside port.number (by rw [seen]; simp)
        exact absurd (full port.number within) free

end Claim

section History

/-- The numbers the cursor has moved over, and the ports handed out with where among these each was. -/
structure Past where
  moved : List UInt16
  handed : List (Nat × Port)

def note (past : Past) (s : PortAllocator) (op : Op) (_ : PortAllocator) : Past :=
  match op with
  | .claimDynamic kind =>
      let moved := past.moved ++ looked kind s.span.len s
      { moved
        handed := past.handed ++ (s.claimDynamic kind).1.toList.map fun port => (moved.length - 1, port) }
  | _ => past

def noted (span : PortSpan) : System (PortAllocator × Past) Op := (allocator span).history ⟨[], []⟩ note

structure Inv (span : PortSpan) (s : PortAllocator) (past : Past) : Prop where
  same : s.span = span
  inside : Inside span s.cursor
  cursor : offset span s.cursor = past.moved.length % span.len
  moved : ∀ k number, past.moved[k]? = some number → Inside span number ∧ offset span number = k % span.len
  handed : ∀ place port, (place, port) ∈ past.handed → past.moved[place]? = some port.number
  ordered : past.handed.Pairwise fun first second => first.1 < second.1

variable {span : PortSpan} {s : PortAllocator} {past : Past}

theorem inv_new (ordered : span.first ≤ span.last) : Inv span (.new span) ⟨[], []⟩ := by
  refine ⟨rfl, ⟨UInt16.le_refl _, ordered⟩, ?_, by simp, by simp, .nil⟩
  simp [PortAllocator.new, offset]

theorem Inv.kept (inv : Inv span s past) {next : PortAllocator} (same : next.span = s.span)
    (cursor : next.cursor = s.cursor) : Inv span next past :=
  ⟨same.trans inv.same, cursor ▸ inv.inside, cursor ▸ inv.cursor, inv.moved, inv.handed, inv.ordered⟩

theorem Inv.claimDynamic (inv : Inv span s past) (kind : Kind) :
    Inv span (s.claimDynamic kind).2 (note past s (.claimDynamic kind) (s.claimDynamic kind).2) := by
  obtain ⟨rfl, inside, cursor, moved, handed, ordered⟩ := inv
  have walked := claimDynamic_walked inside kind
  have turn (k : Nat) : (offset s.span s.cursor + k) % s.span.len = (past.moved.length + k) % s.span.len := by
    rw [cursor, Nat.mod_add_mod]
  have earlier : ∀ entry ∈ past.handed, entry.1 < past.moved.length := by
    intro entry member
    exact (List.getElem?_eq_some_iff.mp (handed entry.1 entry.2 member)).1
  refine ⟨walked.span, walked.cursor, ?_, ?_, ?_, ?_⟩
  · rw [walked.after, turn]
    simp [note]
  · intro k number stored
    have stored : (past.moved ++ looked kind s.span.len s)[k]? = some number := stored
    rw [List.getElem?_append] at stored
    split_ifs at stored with before
    · exact moved k number stored
    · refine ⟨walked.inside number (List.mem_of_getElem? stored), ?_⟩
      rw [walked.round _ number stored, turn, Nat.add_sub_cancel' (Nat.le_of_not_lt before)]
  · intro place port member
    show (past.moved ++ looked kind s.span.len s)[place]? = some port.number
    rcases List.mem_append.mp member with member | member
    · rw [List.getElem?_append_left (earlier _ member)]
      exact handed place port member
    · obtain ⟨other, found, same⟩ := List.mem_map.mp member
      obtain ⟨rfl, rfl⟩ := Prod.mk.inj same
      obtain ⟨-, -, -, before, seen, -⟩ := walked.claimed other (Option.mem_toList.mp found)
      rw [seen, ← List.append_assoc]
      simp
  · refine List.pairwise_append.mpr ⟨ordered, ?_, ?_⟩
    · cases (s.claimDynamic kind).1 <;> simp
    · intro first member second last
      obtain ⟨other, found, rfl⟩ := List.mem_map.mp last
      obtain ⟨-, -, -, before, seen, -⟩ := walked.claimed other (Option.mem_toList.mp found)
      have less := earlier first member
      simp only [seen, List.length_append, List.length_singleton]
      omega

theorem reachable_inv (ordered : span.first ≤ span.last) (reachable : (noted span).Reachable (s, past)) :
    Inv span s past := by
  apply reachable.invariant fun noted => Inv span noted.1 noted.2
  · rintro ⟨_, _⟩ ⟨rfl, rfl⟩
    exact inv_new ordered
  · rintro ⟨before, past⟩ op ⟨after, past'⟩ - inv ⟨stepped, recorded⟩
    obtain rfl : past' = note past before op after := recorded
    obtain rfl : after = before.call op := stepped
    cases op with
    | claimDynamic kind => exact inv.claimDynamic kind
    | claim port =>
        refine inv.kept ?_ ?_ <;> simp only [call, PortAllocator.claim] <;> split_ifs <;> rfl
    | release | reserve => exact inv.kept rfl rfl

/-- Two places of one number are a round apart, and what is between them is every number. -/
theorem Inv.between (inv : Inv span s past) {m n : Nat} {number : UInt16} (first : past.moved[m]? = some number)
    (second : past.moved[n]? = some number) (less : m < n) {other : UInt16} (inside : Inside span other) :
    other ∈ (past.moved.drop (m + 1)).take (n - m) := by
  have place := (inv.moved m number first).2
  have apart : n % span.len = m % span.len := ((inv.moved n number second).2.symm.trans place)
  have round : span.len ≤ n - m := by
    have multiple := (Nat.modEq_iff_dvd' less.le).mp apart.symm
    exact Nat.le_of_dvd (by omega) multiple
  obtain ⟨k, small, same⟩ := exists_round (m + 1) (offset_lt inside)
  have bound := (List.getElem?_eq_some_iff.mp second).1
  obtain ⟨found, stored⟩ : ∃ found, past.moved[m + 1 + k]? = some found :=
    ⟨_, List.getElem?_eq_getElem (by omega)⟩
  obtain ⟨within, offset⟩ := inv.moved _ found stored
  obtain rfl := offset_inj within inside (offset.trans same)
  apply List.mem_of_getElem? (i := k)
  rw [List.getElem?_take_of_lt (by omega), List.getElem?_drop]
  exact stored

theorem Inv.claimed (inv : Inv span s past) {kind : Kind} {port : Port} (found : (s.claimDynamic kind).1 = some port) :
    port.kind = kind ∧ Inside span port.number ∧ port ∉ s.inUse ∧ (s.claimDynamic kind).2.inUse = insert port s.inUse := by
  obtain ⟨rfl, inside, -⟩ := inv
  have walked := claimDynamic_walked inside kind
  obtain ⟨mine, free, inUse, before, seen, -⟩ := walked.claimed port found
  exact ⟨mine, walked.inside port.number (by rw [seen]; simp), free, inUse⟩

end History

section Again
variable {s next : PortAllocator} {kind : Kind} {port : Port}

theorem claimDynamic_behind (inside : Inside s.span s.cursor) (within : Inside s.span port.number)
    (behind : offset s.span s.cursor = (offset s.span port.number + 1) % s.span.len)
    (found : (s.claimDynamic kind).1 = some port) {number : UInt16} (inside' : Inside s.span number)
    (other : number ≠ port.number) : ⟨number, kind⟩ ∈ s.inUse := by
  have walked := claimDynamic_walked inside kind
  obtain ⟨-, -, -, before, seen, used⟩ := walked.claimed port found
  have length : (looked kind s.span.len s).length = before.length + 1 := by rw [seen, List.length_append]; rfl
  have last : (looked kind s.span.len s)[before.length]? = some port.number := by rw [seen]; simp
  have place := walked.round _ _ last
  rw [behind, Nat.mod_add_mod, Nat.add_assoc] at place
  have round : s.span.len ∣ 1 + before.length := by
    have same : offset s.span port.number ≡ offset s.span port.number + (1 + before.length) [MOD s.span.len] := by
      rw [Nat.ModEq, ← place, Nat.mod_eq_of_lt (offset_lt within)]
    have multiple := (Nat.modEq_iff_dvd' (Nat.le_add_right _ _)).mp same
    rwa [Nat.add_sub_cancel_left] at multiple
  have long : s.span.len ≤ (looked kind s.span.len s).length := by
    have least := Nat.le_of_dvd (by omega) round
    omega
  have member := walked.all long inside'
  rw [seen] at member
  rcases List.mem_append.mp member with member | member
  · exact used number member
  · exact absurd (List.mem_singleton.mp member) other

theorem call_cursor (s : PortAllocator) {op : Op} (fixed : ∀ kind, op ≠ .claimDynamic kind) :
    (s.call op).span = s.span ∧ (s.call op).cursor = s.cursor := by
  cases op with
  | claimDynamic kind => exact absurd rfl (fixed kind)
  | claim port =>
      simp only [call, PortAllocator.claim]
      split_ifs <;> exact ⟨rfl, rfl⟩
  | release | reserve => exact ⟨rfl, rfl⟩

theorem calls_cursor {ops : List Op} (fixed : ∀ op ∈ ops, ∀ kind, op ≠ .claimDynamic kind) (s : PortAllocator) :
    (ops.foldl call s).span = s.span ∧ (ops.foldl call s).cursor = s.cursor := by
  induction ops generalizing s with
  | nil => exact ⟨rfl, rfl⟩
  | cons op ops ih =>
      obtain ⟨span, cursor⟩ := call_cursor s (fixed op (.head _))
      obtain ⟨span', cursor'⟩ := ih (fun op member => fixed op (.tail _ member)) (s.call op)
      exact ⟨span'.trans span, cursor'.trans cursor⟩

end Again

/-- The last two parts are about a port handed out twice: the cursor has been all the way round, and
with no other hand-out in between it went round in the second, over numbers that were all in use. -/
theorem claim_dynamic_complete_cyclic (span : PortSpan) (ordered : span.first ≤ span.last) (s : PortAllocator)
    (past : Past) (reachable : (noted span).Reachable (s, past)) :
    Inside span s.cursor ∧
    (∀ kind, (∀ k number, (looked kind s.span.len s)[k]? = some number → number = (advance^[k] s).cursor ∧
      Inside span number ∧ (number ≠ span.last → number.toNat + 1 < 2 ^ 16)) ∧
      (s.claimDynamic kind).2.cursor = (advance^[(looked kind s.span.len s).length] s).cursor) ∧
    (∀ kind, ((s.claimDynamic kind).1 = none ↔ ∀ number, Inside span number → ⟨number, kind⟩ ∈ s.inUse) ∧
      ((s.claimDynamic kind).1 = none → (s.claimDynamic kind).2.inUse = s.inUse) ∧
      ∀ port, (s.claimDynamic kind).1 = some port → port.kind = kind ∧ Inside span port.number ∧
        port ∉ s.inUse ∧ (s.claimDynamic kind).2.inUse = insert port s.inUse) ∧
    (∀ (i j m n : Nat) (port : Port), i < j → past.handed[i]? = some (m, port) → past.handed[j]? = some (n, port) →
      ∀ number, Inside span number → number ∈ (past.moved.drop (m + 1)).take (n - m)) ∧
    ∀ (kind : Kind) (port : Port) (ops : List Op), (s.claimDynamic kind).1 = some port →
      (∀ op ∈ ops, ∀ kind, op ≠ .claimDynamic kind) →
      ((ops.foldl call (s.claimDynamic kind).2).claimDynamic kind).1 = some port →
      ∀ number, Inside span number → number ≠ port.number →
        ⟨number, kind⟩ ∈ (ops.foldl call (s.claimDynamic kind).2).inUse := by
  have inv := reachable_inv ordered reachable
  obtain ⟨rfl, inside, -⟩ := id inv
  refine ⟨inside, ?_, ?_, ?_, ?_⟩
  · intro kind
    obtain ⟨places, last⟩ := looked_cursor kind s.span.len s
    refine ⟨?_, last⟩
    intro k number stored
    have within := (claimDynamic_walked inside kind).inside number (List.mem_of_getElem? stored)
    refine ⟨places k number stored, within, ?_⟩
    intro more
    have less := (succ_toNat within more).2
    have top := s.span.last.toNat_lt
    omega
  · intro kind
    refine ⟨claimDynamic_none inside kind, ?_, fun port => inv.claimed⟩
    intro nothing
    exact ((claimDynamic_walked inside kind).refused nothing).2.2
  · intro i j m n port less first second number
    have apart := List.pairwise_iff_getElem.mp inv.ordered
    obtain ⟨bound, at_i⟩ := List.getElem?_eq_some_iff.mp first
    obtain ⟨bound', at_j⟩ := List.getElem?_eq_some_iff.mp second
    have later := apart i j bound bound' less
    rw [at_i, at_j] at later
    exact inv.between (inv.handed m port (List.mem_of_getElem? first))
      (inv.handed n port (List.mem_of_getElem? second)) later
  · intro kind port ops found fixed again number within other
    have walked := claimDynamic_walked inside kind
    obtain ⟨span, cursor⟩ := calls_cursor fixed (s.claimDynamic kind).2
    have kept : (ops.foldl call (s.claimDynamic kind).2).span = s.span := span.trans walked.span
    refine claimDynamic_behind ?_ ?_ ?_ again ?_ other
    · rw [kept, cursor]
      exact walked.cursor
    · rw [kept]
      exact (inv.claimed found).2.1
    · rw [kept, cursor]
      exact walked.behind found
    · rw [kept]
      exact within

section Example

/-- The two last ports there are, the first of them released and claimed again. -/
def lastPorts : List Op := [.claimDynamic .tcp, .claimDynamic .tcp, .release ⟨65534, .tcp⟩, .claimDynamic .tcp]

theorem claim_dynamic_complete_cyclic_last : ∃ s past, (noted ⟨65534, 65535⟩).Reachable (s, past) ∧
    past.handed = [(0, ⟨65534, .tcp⟩), (1, ⟨65535, .tcp⟩), (2, ⟨65534, .tcp⟩)] ∧ s.cursor = 65535 ∧
    (∀ number, Inside ⟨65534, 65535⟩ number → number ∈ (past.moved.drop 1).take 2) ∧
    (s.claimDynamic .tcp).1 = none := by
  have first : (noted ⟨65534, 65535⟩).Reachable (.new ⟨65534, 65535⟩, ⟨[], []⟩) := .initial ⟨rfl, rfl⟩
  have follows (s : PortAllocator) (op : Op) (t : PortAllocator) (called : some (s.call op) = some t) :
      (allocator ⟨65534, 65535⟩).step s op t := (Option.some.inj called).symm
  have reachable : (noted ⟨65534, 65535⟩).Reachable (_, _) :=
    System.Reachable.run (System.history_follows follows) first lastPorts rfl
  obtain ⟨-, -, -, twice, -⟩ := claim_dynamic_complete_cyclic _ (by decide) _ _ reachable
  exact ⟨_, _, reachable, rfl, rfl, twice 0 2 0 2 ⟨65534, .tcp⟩ (by decide) rfl rfl, rfl⟩

end Example
end Hawse.Proof.Ports
