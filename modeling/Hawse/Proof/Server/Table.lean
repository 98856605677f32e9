import Hawse.Server.Table

namespace Hawse.Proof.Table
open Hawse.Server SessionTable

variable {this next : SessionTable} {session : UInt32} {visitor : SocketAddr} {now : Nat}

structure Consistent (this : SessionTable) : Prop where
  visitor : ∀ (session : UInt32) (entry : Entry), this.bySession[session]? = some entry →
    this.byVisitor[entry.visitor]? = some session
  session : ∀ (visitor : SocketAddr) (session : UInt32), this.byVisitor[visitor]? = some session →
    ∃ entry, this.bySession[session]? = some entry ∧ entry.visitor = visitor
  age : ∀ age : Age, age ∈ this.byAge ↔
    ∃ entry, this.bySession[age.session]? = some entry ∧ entry.used = age.used

def visitorOf (this : SessionTable) (session : UInt32) : Option SocketAddr :=
  this.bySession[session]?.map (·.visitor)

theorem new_consistent (cap idle : Nat) : Consistent (SessionTable.new cap idle) := by
  refine ⟨?_, ?_, ?_⟩
  · intro session entry found
    simp [SessionTable.new] at found
  · intro visitor session found
    simp [SessionTable.new] at found
  · intro age
    simp [SessionTable.new]

theorem Consistent.visitorOf_eq (consistent : Consistent this) :
    visitorOf this session = some visitor ↔ this.byVisitor[visitor]? = some session := by
  constructor
  · intro owned
    obtain ⟨entry, found, rfl⟩ := Option.map_eq_some_iff.mp owned
    exact consistent.visitor session entry found
  · intro indexed
    obtain ⟨entry, found, rfl⟩ := consistent.session visitor session indexed
    rw [visitorOf, found]
    rfl

section Touch

theorem touch_visitorOf (this : SessionTable) (session other : UInt32) (now : Nat) :
    visitorOf (this.touch session now) other = visitorOf this other := by
  unfold touch visitorOf
  cases found : this.bySession[session]? with
  | none => rfl
  | some entry =>
      simp only [Std.ExtTreeMap.getElem?_insert, Std.compare_eq_iff_eq]
      split_ifs with same
      · subst same
        rw [found]
        rfl
      · rfl

theorem touch_next (this : SessionTable) (session : UInt32) (now : Nat) :
    (this.touch session now).next = this.next := by
  unfold touch
  cases this.bySession[session]? <;> rfl

theorem touch_cap (this : SessionTable) (session : UInt32) (now : Nat) :
    (this.touch session now).cap = this.cap := by
  unfold touch
  cases this.bySession[session]? <;> rfl

theorem touch_idle (this : SessionTable) (session : UInt32) (now : Nat) :
    (this.touch session now).idle = this.idle := by
  unfold touch
  cases this.bySession[session]? <;> rfl

theorem touch_size (this : SessionTable) (session : UInt32) (now : Nat) :
    (this.touch session now).bySession.size = this.bySession.size := by
  unfold touch
  cases found : this.bySession[session]? with
  | none => rfl
  | some entry =>
      have held : this.bySession.contains session = true := by
        rw [Std.ExtTreeMap.contains_eq_isSome_getElem?, found]
        rfl
      simp only [Std.ExtTreeMap.size_insert, held, ↓reduceIte]

theorem Consistent.touch (consistent : Consistent this) (session : UInt32) (now : Nat) :
    Consistent (this.touch session now) := by
  unfold SessionTable.touch
  cases found : this.bySession[session]? with
  | none => exact consistent
  | some entry =>
      refine ⟨?_, ?_, ?_⟩
      · intro other entry' held
        simp only [Std.ExtTreeMap.getElem?_insert, Std.compare_eq_iff_eq] at held
        split_ifs at held with same
        · subst same
          obtain rfl := Option.some.inj held
          exact consistent.visitor session entry found
        · exact consistent.visitor other entry' held
      · intro visitor other indexed
        obtain ⟨entry', held, owner⟩ := consistent.session visitor other indexed
        simp only [Std.ExtTreeMap.getElem?_insert, Std.compare_eq_iff_eq]
        split_ifs with same
        · subst same
          rw [found] at held
          obtain rfl := Option.some.inj held
          exact ⟨_, rfl, owner⟩
        · exact ⟨entry', held, owner⟩
      · intro age
        simp only [Std.ExtTreeSet.mem_insert, Std.ExtTreeSet.mem_erase, Std.compare_eq_iff_eq,
          Std.ExtTreeMap.getElem?_insert, ne_eq, Age.ext_iff, consistent.age]
        by_cases same : session = age.session
        · subst same
          simp only [found, Option.some.injEq, exists_eq_left', and_true, ↓reduceIte]
          tauto
        · simp only [same, and_false, false_or, not_false_eq_true, true_and, ↓reduceIte]

end Touch

section Remove

theorem remove_getElem? (this : SessionTable) (session other : UInt32) :
    (this.remove session).bySession[other]? =
      if session = other then none else this.bySession[other]? := by
  unfold remove
  cases found : this.bySession[session]? with
  | none =>
      split_ifs with same
      · rw [← same, found]
      · rfl
  | some entry => simp only [Std.ExtTreeMap.getElem?_erase, Std.compare_eq_iff_eq]

theorem remove_next (this : SessionTable) (session : UInt32) : (this.remove session).next = this.next := by
  unfold remove
  cases this.bySession[session]? <;> rfl

theorem remove_idle (this : SessionTable) (session : UInt32) : (this.remove session).idle = this.idle := by
  unfold remove
  cases this.bySession[session]? <;> rfl

theorem remove_cap (this : SessionTable) (session : UInt32) : (this.remove session).cap = this.cap := by
  unfold remove
  cases this.bySession[session]? <;> rfl

theorem remove_bySession_size (this : SessionTable) (session : UInt32) :
    (this.remove session).bySession.size =
      if session ∈ this.bySession then this.bySession.size - 1 else this.bySession.size := by
  unfold remove
  cases found : this.bySession[session]? with
  | none =>
      have absent : session ∉ this.bySession := by
        rw [Std.ExtTreeMap.mem_iff_isSome_getElem?, found]
        simp
      rw [if_neg absent]
  | some entry => exact Std.ExtTreeMap.size_erase

theorem Consistent.remove (consistent : Consistent this) (session : UInt32) :
    Consistent (this.remove session) := by
  have kept := remove_getElem? this session
  unfold SessionTable.remove at kept ⊢
  cases found : this.bySession[session]? with
  | none => exact consistent
  | some entry =>
      simp only [found] at kept
      have indexed : ∀ visitor : SocketAddr, (this.byVisitor.erase entry.visitor)[visitor]? =
          if entry.visitor = visitor then none else this.byVisitor[visitor]? := by
        intro visitor
        simp only [Std.ExtTreeMap.getElem?_erase, Std.compare_eq_iff_eq]
      refine ⟨?_, ?_, ?_⟩
      · intro other entry' held
        rw [kept] at held
        split_ifs at held with same
        have owner := consistent.visitor other entry' held
        rw [indexed, if_neg]
        · exact owner
        · intro shared
          have owner' := consistent.visitor session entry found
          rw [shared, owner] at owner'
          exact same (Option.some.inj owner').symm
      · intro visitor other held
        rw [indexed] at held
        split_ifs at held with owner
        obtain ⟨entry', found', rfl⟩ := consistent.session visitor other held
        refine ⟨entry', ?_, rfl⟩
        rw [kept, if_neg]
        · exact found'
        · intro same
          rw [← same, found] at found'
          exact owner (congrArg Entry.visitor (Option.some.inj found'))
      · intro age
        simp only [kept, Std.ExtTreeSet.mem_erase, Std.compare_eq_iff_eq, ne_eq, Age.ext_iff,
          consistent.age]
        by_cases same : session = age.session
        · subst same
          simp only [found, Option.some.injEq, exists_eq_left', and_true, ↓reduceIte]
          simp
        · simp only [same, and_false, not_false_eq_true, true_and, ↓reduceIte]

structure Shrunk (this next : SessionTable) : Prop where
  consistent : Consistent next
  kept : ∀ session visitor, visitorOf next session = some visitor → visitorOf this session = some visitor
  next : next.next = this.next

theorem Shrunk.refl (consistent : Consistent this) : Shrunk this this :=
  ⟨consistent, fun _ _ owned => owned, rfl⟩

theorem Shrunk.remove (shrunk : Shrunk this next) (session : UInt32) : Shrunk this (next.remove session) := by
  refine ⟨shrunk.consistent.remove session, ?_, ?_⟩
  · intro other visitor owned
    rw [visitorOf, remove_getElem?] at owned
    split_ifs at owned
    · cases owned
    · exact shrunk.kept other visitor owned
  · rw [remove_next, shrunk.next]

theorem touch_shrunk (consistent : Consistent this) (session : UInt32) (now : Nat) :
    Shrunk this (this.touch session now) := by
  refine ⟨consistent.touch session now, ?_, touch_next this session now⟩
  intro other visitor owned
  rw [touch_visitorOf] at owned
  exact owned

theorem evictOldest_shrunk (consistent : Consistent this) : Shrunk this this.evictOldest.2 := by
  unfold evictOldest
  cases this.byAge.min? with
  | none => exact .refl consistent
  | some age => exact (Shrunk.refl consistent).remove age.session

theorem sweepLoop_shrunk (turns : Nat) (shrunk : Shrunk this next) :
    Shrunk this (sweepLoop now turns next).2 := by
  induction turns generalizing next with
  | zero => exact shrunk
  | succ turns ih =>
      unfold sweepLoop
      cases next.byAge.min? with
      | none => exact shrunk
      | some age =>
          dsimp only
          split_ifs
          · exact shrunk
          · exact ih (shrunk.remove age.session)

theorem sweep_shrunk (consistent : Consistent this) (now : Nat) : Shrunk this (this.sweep now).2 :=
  sweepLoop_shrunk _ (.refl consistent)

theorem remove_size (consistent : Consistent this) {age : Age} (listed : age ∈ this.byAge) :
    (this.remove age.session).byAge.size + 1 = this.byAge.size := by
  obtain ⟨entry, found, used⟩ := (consistent.age age).mp listed
  have same : (⟨entry.used, age.session⟩ : Age) = age := by rw [used]
  simp only [SessionTable.remove, found, same]
  have size := this.byAge.size_erase (k := age)
  rw [if_pos (Std.ExtTreeSet.contains_iff_mem.mpr listed)] at size
  have nonempty : this.byAge.size ≠ 0 := by
    intro empty
    have nothing := Std.ExtTreeSet.eq_empty_iff_size_eq_zero.mpr empty
    rw [nothing] at listed
    simp at listed
  omega

theorem sweepLoop_done {turns : Nat} (consistent : Consistent this) (enough : this.byAge.size ≤ turns)
    {age : Age} (first : (sweepLoop now turns this).2.byAge.min? = some age) :
    now - age.used < this.idle := by
  induction turns generalizing this with
  | zero =>
      have empty := Std.ExtTreeSet.eq_empty_iff_size_eq_zero.mpr (Nat.le_zero.mp enough)
      rw [sweepLoop, empty] at first
      simp at first
  | succ turns ih =>
      unfold sweepLoop at first
      cases oldest : this.byAge.min? with
      | none => simp [oldest] at first
      | some old =>
          simp only [oldest] at first
          split_ifs at first with fresh
          · rw [oldest] at first
            rw [← Option.some.inj first]
            exact fresh
          · have size := remove_size consistent (Std.ExtTreeSet.min?_mem oldest)
            have rest := ih (consistent.remove old.session) (by omega) first
            rw [remove_idle] at rest
            exact rest

/-- The turns `sweep` is given are enough: it ends because what is left is not idle. -/
theorem sweep_done (consistent : Consistent this) {age : Age}
    (first : (this.sweep now).2.byAge.min? = some age) : now - age.used < this.idle :=
  sweepLoop_done consistent (Nat.le_refl _) first

end Remove

section Claim

theorem claimLoop_some {turns : Nat} {id : UInt32} (claimed : this.claimLoop turns = some (id, next)) :
    this.bySession[id]? = none ∧ next = { this with next := id + 1 } := by
  induction turns generalizing this with
  | zero => cases claimed
  | succ turns ih =>
      simp only [claimLoop] at claimed
      split_ifs at claimed with taken
      · have rest := ih claimed
        exact rest
      · obtain ⟨rfl, rfl⟩ := Prod.mk.inj (Option.some.inj claimed)
        rw [Std.ExtTreeMap.contains_eq_isSome_getElem?] at taken
        exact ⟨Option.not_isSome_iff_eq_none.mp taken, rfl⟩

theorem claimLoop_none {turns : Nat} (stuck : this.claimLoop turns = none) (turn : Nat)
    (earlier : turn < turns) : this.next + UInt32.ofNat turn ∈ this.bySession := by
  induction turns generalizing this turn with
  | zero => omega
  | succ turns ih =>
      simp only [claimLoop] at stuck
      split_ifs at stuck with taken
      cases turn with
      | zero => simpa using taken
      | succ turn =>
          have rest := ih stuck turn (by omega)
          have same : this.next + 1 + UInt32.ofNat turn = this.next + UInt32.ofNat (turn + 1) := by
            rw [UInt32.add_assoc, UInt32.ofNat_add, UInt32.add_comm 1]
            rfl
          rw [same] at rest
          exact rest

/-- The turns `claim_id` is given are enough: with fewer sessions than ids it finds one that no live
session holds, also past a wrap. -/
theorem claimId_claims (this : SessionTable) (room : this.bySession.size < 2 ^ 32) :
    ∃ id, this.claimId = some (id, { this with next := id + 1 }) ∧ this.bySession[id]? = none := by
  cases claimed : this.claimId with
  | some result =>
      obtain ⟨id, next⟩ := result
      obtain ⟨free, same⟩ := claimLoop_some claimed
      exact ⟨id, by rw [same], free⟩
  | none =>
      have taken := claimLoop_none claimed
      have distinct : Set.InjOn (fun turn => this.next + UInt32.ofNat turn)
          (Finset.range (this.bySession.size + 1)) := by
        intro first earlier second earlier' same
        simp only [Finset.coe_range, Set.mem_Iio] at earlier earlier'
        have offsets := (UInt32.add_right_inj this.next).mp same
        have values := congrArg UInt32.toNat offsets
        rw [UInt32.toNat_ofNat_of_lt' (by simp only [UInt32.size]; omega),
          UInt32.toNat_ofNat_of_lt' (by simp only [UInt32.size]; omega)] at values
        exact values
      have fits : (Finset.range (this.bySession.size + 1)).card ≤
          this.bySession.keys.toFinset.card := by
        apply Finset.card_le_card_of_injOn _ _ distinct
        intro turn earlier
        rw [Finset.mem_coe, List.mem_toFinset, Std.ExtTreeMap.mem_keys]
        exact taken turn (Finset.mem_range.mp earlier)
      -- One more id than there are sessions cannot all be held.
      have few := this.bySession.keys.toFinset_card_le
      rw [Std.ExtTreeMap.length_keys] at few
      rw [Finset.card_range] at fits
      omega

theorem claimId_next (free : this.bySession[this.next]? = none) :
    this.claimId = some (this.next, { this with next := this.next + 1 }) := by
  have unused : this.bySession.contains this.next = false := by
    rw [Std.ExtTreeMap.contains_eq_isSome_getElem?, free]
    rfl
  simp [claimId, claimLoop, unused]

end Claim

section Inbound

/-- No id has come round again: every session is older than the next. -/
def Below (this : SessionTable) : Prop :=
  ∀ session visitor, visitorOf this session = some visitor → session < this.next

structure Seen (this : SessionTable) (visitor : SocketAddr) (seen : Inbound) (next : SessionTable) :
    Prop where
  consistent : Consistent next
  owned : visitorOf next seen.session = some visitor
  others : ∀ other owner, other ≠ seen.session → visitorOf next other = some owner →
    visitorOf this other = some owner
  again : seen.fresh = false → visitorOf this seen.session = some visitor ∧ next.next = this.next
  fresh : seen.fresh = true → seen.session = this.next ∧ next.next = this.next + 1

theorem Consistent.insert (consistent : Consistent this) (unknown : this.byVisitor[visitor]? = none)
    (free : this.bySession[session]? = none) (counter : UInt32) (now : Nat) :
    Consistent { this with
      next := counter
      byVisitor := this.byVisitor.insert visitor session
      bySession := this.bySession.insert session ⟨visitor, now⟩
      byAge := this.byAge.insert ⟨now, session⟩ } := by
  have bySession : ∀ other : UInt32, (this.bySession.insert session ⟨visitor, now⟩)[other]? =
      if session = other then some ⟨visitor, now⟩ else this.bySession[other]? := by
    intro other
    simp only [Std.ExtTreeMap.getElem?_insert, Std.compare_eq_iff_eq]
  have byVisitor : ∀ other : SocketAddr, (this.byVisitor.insert visitor session)[other]? =
      if visitor = other then some session else this.byVisitor[other]? := by
    intro other
    simp only [Std.ExtTreeMap.getElem?_insert, Std.compare_eq_iff_eq]
  refine ⟨?_, ?_, ?_⟩
  · intro other entry held
    rw [bySession] at held
    rw [byVisitor]
    split_ifs at held with same
    · obtain rfl := Option.some.inj held
      rw [if_pos rfl, same]
    · have owner := consistent.visitor other entry held
      rw [if_neg, owner]
      intro known
      rw [← known, unknown] at owner
      cases owner
  · intro owner other indexed
    rw [byVisitor] at indexed
    rw [bySession]
    split_ifs at indexed with same
    · obtain rfl := Option.some.inj indexed
      exact ⟨⟨visitor, now⟩, if_pos rfl, same⟩
    · obtain ⟨entry, held, owner⟩ := consistent.session owner other indexed
      refine ⟨entry, ?_, owner⟩
      rw [if_neg, held]
      intro taken
      rw [← taken, free] at held
      cases held
  · intro age
    simp only [bySession, Std.ExtTreeSet.mem_insert, Std.compare_eq_iff_eq, Age.ext_iff,
      consistent.age]
    by_cases same : session = age.session
    · simp [same, same ▸ free]
    · simp [same]

theorem insert_seen (consistent : Consistent this) (unknown : this.byVisitor[visitor]? = none)
    (free : this.bySession[this.next]? = none) (evicted : Bool) (now : Nat) :
    Seen this visitor ⟨this.next, true, evicted⟩ { this with
      next := this.next + 1
      byVisitor := this.byVisitor.insert visitor this.next
      bySession := this.bySession.insert this.next ⟨visitor, now⟩
      byAge := this.byAge.insert ⟨now, this.next⟩ } := by
  have bySession : ∀ other : UInt32, (this.bySession.insert this.next ⟨visitor, now⟩)[other]? =
      if this.next = other then some ⟨visitor, now⟩ else this.bySession[other]? := by
    intro other
    simp only [Std.ExtTreeMap.getElem?_insert, Std.compare_eq_iff_eq]
  refine ⟨consistent.insert unknown free _ now, ?_, ?_, by simp, fun _ => ⟨rfl, rfl⟩⟩
  · simp only [visitorOf, bySession, ↓reduceIte, Option.map_some]
  · intro other owner different held
    simp only [visitorOf, bySession, different.symm, ↓reduceIte] at held
    exact held

def madeRoom (this : SessionTable) : Bool × SessionTable :=
  if this.cap ≤ this.bySession.size then this.evictOldest else (false, this)

def admitted (this : SessionTable) (visitor : SocketAddr) (session : UInt32) (now : Nat) : SessionTable :=
  { this with
    next := session + 1
    byVisitor := this.byVisitor.insert visitor session
    bySession := this.bySession.insert session ⟨visitor, now⟩
    byAge := this.byAge.insert ⟨now, session⟩ }

theorem madeRoom_shrunk (consistent : Consistent this) : Shrunk this (madeRoom this).2 := by
  unfold madeRoom
  split_ifs
  · exact evictOldest_shrunk consistent
  · exact .refl consistent

theorem Shrunk.unknown (consistent : Consistent this) (shrunk : Shrunk this next)
    (unknown : this.byVisitor[visitor]? = none) : next.byVisitor[visitor]? = none := by
  cases found : next.byVisitor[visitor]? with
  | none => rfl
  | some session =>
      have owned := shrunk.kept _ _ (shrunk.consistent.visitorOf_eq.mpr found)
      rw [consistent.visitorOf_eq.mp owned] at unknown
      cases unknown

theorem inbound_known (known : this.byVisitor[visitor]? = some session) (now : Nat) :
    this.inbound visitor now = some (⟨session, false, false⟩, this.touch session now) := by
  simp [inbound, known]

theorem inbound_unknown (unknown : this.byVisitor[visitor]? = none) (now : Nat) :
    this.inbound visitor now = (madeRoom this).2.claimId.map fun (session, room) =>
      (⟨session, true, (madeRoom this).1⟩, { room with
        byVisitor := room.byVisitor.insert visitor session
        bySession := room.bySession.insert session ⟨visitor, now⟩
        byAge := room.byAge.insert ⟨now, session⟩ }) := by
  unfold inbound madeRoom
  simp only [unknown]
  split
  · rename_i claimed
    rw [claimed]
    rfl
  · rename_i claimed
    rw [claimed]
    rfl

theorem inbound_admits (unknown : this.byVisitor[visitor]? = none) (now : Nat)
    (claimed : (madeRoom this).2.claimId = some (session, { (madeRoom this).2 with next := session + 1 })) :
    this.inbound visitor now =
      some (⟨session, true, (madeRoom this).1⟩, admitted (madeRoom this).2 visitor session now) := by
  rw [inbound_unknown unknown, claimed]
  rfl

theorem inbound_seen (consistent : Consistent this) (below : Below this) (visitor : SocketAddr)
    (now : Nat) :
    ∃ seen next, this.inbound visitor now = some (seen, next) ∧ Seen this visitor seen next := by
  cases known : this.byVisitor[visitor]? with
  | some session =>
      have owned := consistent.visitorOf_eq.mpr known
      refine ⟨_, _, inbound_known known now, consistent.touch session now, ?_, ?_, ?_, by simp⟩
      · rw [touch_visitorOf]
        exact owned
      · intro other owner _ held
        rw [touch_visitorOf] at held
        exact held
      · intro _
        exact ⟨owned, touch_next this session now⟩
  | none =>
      have shrunk := madeRoom_shrunk consistent
      have free : (madeRoom this).2.bySession[(madeRoom this).2.next]? = none := by
        cases found : (madeRoom this).2.bySession[(madeRoom this).2.next]? with
        | none => rfl
        | some entry =>
            have owned : visitorOf (madeRoom this).2 (madeRoom this).2.next = some entry.visitor := by
              rw [visitorOf, found]
              rfl
            have older := below _ _ (shrunk.kept _ _ owned)
            rw [shrunk.next] at older
            exact absurd older (UInt32.lt_irrefl _)
      have seen := insert_seen shrunk.consistent (shrunk.unknown consistent known) free
        (madeRoom this).1 now
      refine ⟨_, _, inbound_admits known now (claimId_next free), seen.consistent, seen.owned, ?_,
        by simp, ?_⟩
      · intro other owner different held
        exact shrunk.kept other owner (seen.others other owner different held)
      · intro _
        rw [← shrunk.next]
        exact ⟨rfl, rfl⟩

theorem outbound_eq (this : SessionTable) (session : UInt32) (now : Nat) :
    (this.outbound session now).1 = visitorOf this session ∧
      (this.outbound session now).2 = this.touch session now := by
  unfold outbound touch visitorOf
  cases this.bySession[session]? <;> exact ⟨rfl, rfl⟩

end Inbound

section Runs
variable {cap idle : Nat}

theorem remove_size_le (this : SessionTable) (session : UInt32) :
    (this.remove session).bySession.size ≤ this.bySession.size := by
  rw [remove_bySession_size]
  split_ifs <;> omega

theorem sweepLoop_size_le (now turns : Nat) (this : SessionTable) :
    (sweepLoop now turns this).2.bySession.size ≤ this.bySession.size ∧
      (sweepLoop now turns this).2.cap = this.cap := by
  induction turns generalizing this with
  | zero => exact ⟨Nat.le_refl _, rfl⟩
  | succ turns ih =>
      unfold sweepLoop
      cases this.byAge.min? with
      | none => exact ⟨Nat.le_refl _, rfl⟩
      | some age =>
          dsimp only
          split_ifs
          · exact ⟨Nat.le_refl _, rfl⟩
          · obtain ⟨smaller, same⟩ := ih (this.remove age.session)
            exact ⟨smaller.trans (remove_size_le this age.session), same.trans (remove_cap this age.session)⟩

theorem madeRoom_cap (this : SessionTable) : (madeRoom this).2.cap = this.cap := by
  unfold madeRoom evictOldest
  split_ifs
  · cases this.byAge.min? with
    | none => rfl
    | some age => exact remove_cap this age.session
  · rfl

theorem Consistent.size_pos (consistent : Consistent this) {age : Age} (listed : age ∈ this.byAge) :
    age.session ∈ this.bySession := by
  obtain ⟨entry, found, -⟩ := (consistent.age age).mp listed
  rw [Std.ExtTreeMap.mem_iff_isSome_getElem?, found]
  rfl

theorem madeRoom_size (consistent : Consistent this) (bounded : this.bySession.size ≤ max this.cap 1) :
    (madeRoom this).2.bySession.size + 1 ≤ max this.cap 1 := by
  unfold madeRoom evictOldest
  split_ifs with full
  · cases oldest : this.byAge.min? with
    | none =>
        have empty : this.bySession.size = 0 := by
          rw [← Std.ExtTreeMap.eq_empty_iff_size_eq_zero]
          apply Std.ExtTreeMap.ext_getElem?
          intro session
          cases found : this.bySession[session]? with
          | none => simp
          | some entry =>
              have listed := (consistent.age ⟨entry.used, session⟩).mpr ⟨entry, found, rfl⟩
              rw [Std.ExtTreeSet.min?_eq_none_iff.mp oldest] at listed
              simp at listed
        dsimp only
        omega
    | some age =>
        have held := consistent.size_pos (Std.ExtTreeSet.min?_mem oldest)
        have nonempty : this.bySession.size ≠ 0 := by
          intro empty
          rw [Std.ExtTreeMap.eq_empty_iff_size_eq_zero.mpr empty] at held
          simp at held
        dsimp only
        rw [remove_bySession_size, if_pos held]
        omega
  · dsimp only
    omega

structure Inv (cap : Nat) (this : SessionTable) : Prop where
  consistent : Consistent this
  fixed : this.cap = cap
  size : this.bySession.size ≤ max cap 1

theorem Inv.admits (inv : Inv cap this) (few : cap < 2 ^ 32) (unknown : this.byVisitor[visitor]? = none)
    (now : Nat) : ∃ session,
      this.inbound visitor now =
        some (⟨session, true, (madeRoom this).1⟩, admitted (madeRoom this).2 visitor session now) ∧
      (madeRoom this).2.bySession[session]? = none ∧
      Inv cap (admitted (madeRoom this).2 visitor session now) := by
  have shrunk := madeRoom_shrunk inv.consistent
  have bounded := inv.size
  rw [← inv.fixed] at bounded few
  have size := madeRoom_size inv.consistent bounded
  obtain ⟨session, claimed, free⟩ := claimId_claims (madeRoom this).2 (by omega)
  refine ⟨session, inbound_admits unknown now claimed, free, ?_, ?_, ?_⟩
  · exact shrunk.consistent.insert (shrunk.unknown inv.consistent unknown) free _ now
  · exact (madeRoom_cap this).trans inv.fixed
  · have absent : (madeRoom this).2.bySession.contains session = false := by
      rw [Std.ExtTreeMap.contains_eq_isSome_getElem?, free]
      rfl
    show ((madeRoom this).2.bySession.insert session ⟨visitor, now⟩).size ≤ _
    rw [Std.ExtTreeMap.size_insert, absent, if_neg Bool.false_ne_true, ← inv.fixed]
    exact size

theorem Inv.touch (inv : Inv cap this) (session : UInt32) (now : Nat) : Inv cap (this.touch session now) :=
  ⟨inv.consistent.touch session now, (touch_cap this session now).trans inv.fixed,
    (touch_size this session now).trans_le inv.size⟩

theorem call_inv (few : cap < 2 ^ 32) {op : Op} {answer : Answer} (inv : Inv cap this)
    (called : this.call now op = some (answer, next)) : Inv cap next := by
  cases op with
  | inbound visitor =>
      obtain ⟨⟨seen, after⟩, returned, same⟩ := Option.map_eq_some_iff.mp called
      obtain ⟨-, rfl⟩ := Prod.mk.inj same
      cases known : this.byVisitor[visitor]? with
      | some session =>
          rw [inbound_known known] at returned
          obtain ⟨-, rfl⟩ := Prod.mk.inj (Option.some.inj returned)
          exact inv.touch session now
      | none =>
          obtain ⟨session, admits, -, kept⟩ := inv.admits few known now
          rw [admits] at returned
          obtain ⟨-, rfl⟩ := Prod.mk.inj (Option.some.inj returned)
          exact kept
  | outbound session =>
      obtain ⟨-, rfl⟩ := Prod.mk.inj (Option.some.inj called)
      rw [(outbound_eq this session now).2]
      exact inv.touch session now
  | sweep =>
      obtain ⟨-, rfl⟩ := Prod.mk.inj (Option.some.inj called)
      obtain ⟨smaller, same⟩ := sweepLoop_size_le now this.byAge.size this
      exact ⟨(sweep_shrunk inv.consistent now).consistent, same.trans inv.fixed, smaller.trans inv.size⟩

theorem reachable_inv (few : cap < 2 ^ 32) (reachable : (sessionTable cap idle).Reachable this) :
    Inv cap this := by
  apply reachable.invariant (Inv cap)
  · rintro start rfl
    exact ⟨new_consistent cap idle, rfl, Nat.zero_le _⟩
  · rintro before ⟨now, op⟩ after _ inv ⟨answer, called⟩
    exact call_inv few inv called

theorem indexes_agree (cap idle : Nat) (few : cap < 2 ^ 32) (this : SessionTable)
    (reachable : (sessionTable cap idle).Reachable this) :
    (∀ (session : UInt32) (visitor : SocketAddr),
      this.bySession[session]?.map (·.visitor) = some visitor ↔ this.byVisitor[visitor]? = some session) ∧
    (∀ age : Age, age ∈ this.byAge ↔
      ∃ entry, this.bySession[age.session]? = some entry ∧ entry.used = age.used) ∧
    this.bySession.size ≤ max cap 1 ∧
    (∃ id, this.claimId = some (id, { this with next := id + 1 }) ∧ id ∉ this.bySession) ∧
    ∀ (visitor : SocketAddr) (now : Nat), ∃ seen next, this.inbound visitor now = some (seen, next) ∧
      (∀ later, (next.outbound seen.session later).1 = some visitor) ∧
      (seen.fresh = true → ∃ room, room = (if cap ≤ this.bySession.size then this.evictOldest.2 else this) ∧
        seen.session ∉ room.bySession ∧
        next.bySession = room.bySession.insert seen.session ⟨visitor, now⟩) := by
  have inv := reachable_inv few reachable
  have bounded := inv.size
  obtain ⟨id, claimed, free⟩ := claimId_claims this (by omega)
  refine ⟨?_, inv.consistent.age, bounded, ⟨id, claimed, ?_⟩, ?_⟩
  · intro session visitor
    exact inv.consistent.visitorOf_eq
  · rw [Std.ExtTreeMap.mem_iff_isSome_getElem?, free]
    simp
  · intro visitor now
    cases known : this.byVisitor[visitor]? with
    | some session =>
        refine ⟨_, _, inbound_known known now, ?_, by simp⟩
        intro later
        rw [(outbound_eq _ _ _).1, touch_visitorOf]
        exact inv.consistent.visitorOf_eq.mpr known
    | none =>
        obtain ⟨session, admits, absent, -⟩ := inv.admits few known now
        refine ⟨_, _, admits, ?_, ?_⟩
        · intro later
          rw [(outbound_eq _ _ _).1]
          simp [visitorOf, admitted]
        · intro _
          refine ⟨(madeRoom this).2, ?_, ?_, rfl⟩
          · rw [madeRoom, inv.fixed]
            split_ifs <;> rfl
          · rw [Std.ExtTreeMap.mem_iff_isSome_getElem?, absent]
            simp

/-- A table of one, with its one session taken. -/
def crowded : SessionTable where
  cap := 1
  idle := 60
  next := 1
  byVisitor := Std.ExtTreeMap.empty.insert ⟨.v4 0xc0000201#32, 53⟩ 0
  bySession := Std.ExtTreeMap.empty.insert 0 ⟨⟨.v4 0xc0000201#32, 53⟩, 5⟩
  byAge := Std.ExtTreeSet.empty.insert ⟨5, 0⟩

theorem indexes_agree_crowded :
    (sessionTable 1 60).Reachable crowded ∧ crowded.bySession.size ≤ 1 ∧
    ∃ seen next, crowded.inbound ⟨.v4 0xc0000202#32, 53⟩ 3 = some (seen, next) ∧
      (next.outbound seen.session 4).1 = some ⟨.v4 0xc0000202#32, 53⟩ := by
  have start : (sessionTable 1 60).Reachable (SessionTable.new 1 60) := .initial rfl
  have reachable : (sessionTable 1 60).Reachable crowded :=
    start.next (show (sessionTable 1 60).step _ (5, .inbound ⟨.v4 0xc0000201#32, 53⟩) crowded from
      ⟨.inbound ⟨0, true, false⟩, rfl⟩)
  obtain ⟨-, -, bounded, -, inbound⟩ := indexes_agree 1 60 (by decide) crowded reachable
  obtain ⟨seen, next, returned, replied, -⟩ := inbound ⟨.v4 0xc0000202#32, 53⟩ 3
  exact ⟨reachable, bounded, seen, next, returned, replied 4⟩

end Runs
end Hawse.Proof.Table
