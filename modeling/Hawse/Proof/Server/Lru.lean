import Hawse.Lib.Lru
import Hawse.Lib.Maps
import Hawse.Lib.Timed
import Hawse.Proof.Server.Table

namespace Hawse.Proof.Table
open Lib Hawse.Server SessionTable

/-- What a session table is for: its sessions in one list, in the order they were last used. -/
structure Reference where
  cap : Nat
  idle : Nat
  next : UInt32
  entries : List (Use UInt32 SocketAddr)

namespace Reference

def new (cap idle : Nat) : Reference := ⟨cap, idle, 0, []⟩

open Classical in
/-- The first id from `next` on that no session has. -/
noncomputable def claimId (this : Reference) : Option UInt32 :=
  if free : ∃ turn, ∀ use ∈ this.entries, use.id ≠ this.next + UInt32.ofNat turn then
    some (this.next + UInt32.ofNat (Nat.find free))
  else none

theorem claimId_some {this : Reference} (turn : Nat)
    (free : ∀ use ∈ this.entries, use.id ≠ this.next + UInt32.ofNat turn)
    (held : ∀ earlier < turn, ¬ ∀ use ∈ this.entries, use.id ≠ this.next + UInt32.ofNat earlier) :
    this.claimId = some (this.next + UInt32.ofNat turn) := by
  classical
  have found : ∃ turn, ∀ use ∈ this.entries, use.id ≠ this.next + UInt32.ofNat turn := ⟨turn, free⟩
  have least : Nat.find found = turn := (Nat.find_eq_iff found).mpr ⟨free, held⟩
  rw [← least, claimId, dif_pos found]

theorem claimId_none {this : Reference}
    (held : ∀ turn, ¬ ∀ use ∈ this.entries, use.id ≠ this.next + UInt32.ofNat turn) :
    this.claimId = none := by
  rw [claimId, dif_neg]
  rintro ⟨turn, free⟩
  exact held turn free

noncomputable def inbound (this : Reference) (visitor : SocketAddr) (now : Nat) :
    Option (Inbound × Reference) :=
  match this.entries.find? (·.owner = visitor) with
  | some use => some (⟨use.id, false, false⟩, { this with entries := Lru.touch use now this.entries })
  | none =>
      let full : Bool := this.cap ≤ this.entries.length
      let room := { this with entries := if full then this.entries.tail else this.entries }
      room.claimId.map fun id =>
        (⟨id, true, full⟩, { room with
          next := id + 1
          entries := Lru.place ⟨now, id, visitor⟩ room.entries })

def outbound (this : Reference) (session : UInt32) (now : Nat) : Option SocketAddr × Reference :=
  match this.entries.find? (·.id = session) with
  | some use => (some use.owner, { this with entries := Lru.touch use now this.entries })
  | none => (none, this)

def sweep (this : Reference) (now : Nat) : Nat × Reference :=
  ((Lru.expired this.idle now this.entries).length,
    { this with entries := Lru.unexpired this.idle now this.entries })

noncomputable def call (this : Reference) (now : Nat) : Op → Option (Answer × Reference)
  | .inbound visitor => (this.inbound visitor now).map fun (seen, next) => (.inbound seen, next)
  | .outbound session => some (.outbound (this.outbound session now).1, (this.outbound session now).2)
  | .sweep => some (.sweep (this.sweep now).1, (this.sweep now).2)

end Reference

/-- The list holds the sessions of the table, in order and none used in the future. -/
structure Matches (cap idle now : Nat) (this : SessionTable) (ref : Reference) : Prop where
  consistent : Consistent this
  positive : 1 ≤ cap
  refCap : ref.cap = cap
  refIdle : ref.idle = idle
  capped : this.cap = cap
  idled : this.idle = idle
  next : ref.next = this.next
  ordered : Lru.Ordered ref.entries
  holds : ∀ use : Use UInt32 SocketAddr,
    use ∈ ref.entries ↔ this.bySession[use.id]? = some ⟨use.owner, use.used⟩
  past : ∀ use ∈ ref.entries, use.used ≤ now

section Lookup
variable {this : SessionTable} {ref : Reference} {cap idle now : Nat} {session : UInt32} {visitor : SocketAddr}

theorem Matches.wait (same : Matches cap idle now this ref) {later : Nat} (le : now ≤ later) :
    Matches cap idle later this ref :=
  { same with past := fun use listed => (same.past use listed).trans le }

theorem Matches.find_id (same : Matches cap idle now this ref) (session : UInt32) :
    ref.entries.find? (·.id = session) =
      this.bySession[session]?.map fun entry => ⟨entry.used, session, entry.visitor⟩ := by
  cases found : this.bySession[session]? with
  | none =>
      rw [Option.map_none, List.find?_eq_none]
      intro use listed mine
      have held := (same.holds use).mp listed
      rw [of_decide_eq_true mine, found] at held
      cases held
  | some entry =>
      have listed := (same.holds ⟨entry.used, session, entry.visitor⟩).mpr found
      cases first : ref.entries.find? (·.id = session) with
      | none => exact absurd (decide_eq_true rfl) (List.find?_eq_none.mp first _ listed)
      | some use =>
          have mine : use.id = session := by simpa using List.find?_some first
          exact congrArg some (same.ordered.eq_of_id (List.mem_of_find?_eq_some first) listed mine)

theorem Matches.find_owner (same : Matches cap idle now this ref) (visitor : SocketAddr) :
    (∃ use, ref.entries.find? (·.owner = visitor) = some use ∧ use ∈ ref.entries ∧
      this.byVisitor[visitor]? = some use.id) ∨
    ref.entries.find? (·.owner = visitor) = none ∧ this.byVisitor[visitor]? = none := by
  cases first : ref.entries.find? (·.owner = visitor) with
  | some use =>
      have listed := List.mem_of_find?_eq_some first
      have owner : use.owner = visitor := by simpa using List.find?_some first
      have indexed := same.consistent.visitor _ _ ((same.holds use).mp listed)
      rw [owner] at indexed
      exact .inl ⟨use, rfl, listed, indexed⟩
  | none =>
      refine .inr ⟨rfl, ?_⟩
      cases indexed : this.byVisitor[visitor]? with
      | none => rfl
      | some session =>
          obtain ⟨entry, found, owner⟩ := same.consistent.session visitor session indexed
          have listed := (same.holds ⟨entry.used, session, entry.visitor⟩).mpr found
          exact absurd (decide_eq_true owner) (List.find?_eq_none.mp first _ listed)

theorem Matches.length (same : Matches cap idle now this ref) :
    ref.entries.length = this.bySession.size := by
  rw [size_eq_length same.ordered.nodup, List.length_map]
  intro session
  rw [Std.ExtTreeMap.mem_iff_isSome_getElem?, List.mem_map]
  constructor
  · rintro ⟨use, listed, rfl⟩
    rw [(same.holds use).mp listed]
    rfl
  · intro present
    obtain ⟨entry, found⟩ := Option.isSome_iff_exists.mp present
    exact ⟨⟨entry.used, session, entry.visitor⟩, (same.holds _).mpr found, rfl⟩

theorem Matches.listed_age (same : Matches cap idle now this ref) (use : Use UInt32 SocketAddr)
    (listed : use ∈ ref.entries) : (⟨use.used, use.id⟩ : Age) ∈ this.byAge :=
  (same.consistent.age _).mpr ⟨_, (same.holds use).mp listed, rfl⟩

theorem Matches.age_listed (same : Matches cap idle now this ref) {age : Age} (aged : age ∈ this.byAge) :
    ∃ use ∈ ref.entries, (⟨use.used, use.id⟩ : Age) = age := by
  obtain ⟨entry, found, used⟩ := (same.consistent.age age).mp aged
  refine ⟨⟨age.used, age.session, entry.visitor⟩, (same.holds _).mpr ?_, rfl⟩
  rw [found, ← used]

theorem Matches.oldest (same : Matches cap idle now this ref) :
    this.byAge.min? = ref.entries.head?.map fun use => ⟨use.used, use.id⟩ := by
  cases entries : ref.entries with
  | nil =>
      rw [List.head?_nil, Option.map_none, Std.ExtTreeSet.min?_eq_none_iff]
      apply Std.ExtTreeSet.ext_mem
      intro age
      constructor
      · intro aged
        obtain ⟨use, listed, -⟩ := same.age_listed aged
        rw [entries] at listed
        cases listed
      · intro none
        simp at none
  | cons use rest =>
      rw [List.head?_cons, Option.map_some, Std.ExtTreeSet.min?_eq_some_iff_mem_and_forall]
      constructor
      · apply same.listed_age
        rw [entries]
        exact List.mem_cons_self
      · intro age aged
        obtain ⟨other, listed, rfl⟩ := same.age_listed aged
        have before := same.ordered.before
        rw [entries] at listed before
        rcases List.mem_cons.mp listed with rfl | behind
        · exact Std.ReflCmp.isLE_rfl
        · exact (List.pairwise_cons.mp before).1 other behind

end Lookup

section Calls
variable {this : SessionTable} {ref : Reference} {cap idle now : Nat}

theorem Matches.touch (same : Matches cap idle now this ref) {use : Use UInt32 SocketAddr}
    (listed : use ∈ ref.entries) :
    Matches cap idle now (this.touch use.id now) { ref with entries := Lru.touch use now ref.entries } := by
  have found := (same.holds use).mp listed
  have bySession : ∀ other : UInt32, (this.touch use.id now).bySession[other]? =
      if use.id = other then some ⟨use.owner, now⟩ else this.bySession[other]? := by
    intro other
    simp only [SessionTable.touch, found, Std.ExtTreeMap.getElem?_insert, Std.compare_eq_iff_eq]
  refine ⟨same.consistent.touch _ _, same.positive, same.refCap, same.refIdle, ?_, ?_, ?_, same.ordered.touch _ _, ?_, ?_⟩
  · exact (touch_cap _ _ _).trans same.capped
  · exact (touch_idle _ _ _).trans same.idled
  · exact same.next.trans (touch_next _ _ _).symm
  · intro other
    rw [Lru.mem_touch, bySession, same.holds]
    split_ifs with mine
    · simp only [Use.ext_iff, mine, ne_eq, not_true_eq_false, and_false, or_false, true_and,
        Option.some.injEq, Entry.mk.injEq]
      exact and_comm.trans (and_congr eq_comm eq_comm)
    · have differ : other.id ≠ use.id := fun equal => mine equal.symm
      simp only [Use.ext_iff, differ, false_and, and_false, false_or, ne_eq, not_false_eq_true, and_true]
  · intro other moved
    rcases Lru.mem_touch.mp moved with rfl | ⟨kept, -⟩
    · exact le_rfl
    · exact same.past other kept

theorem Matches.remove (same : Matches cap idle now this ref) {use : Use UInt32 SocketAddr}
    {rest : List (Use UInt32 SocketAddr)} (first : ref.entries = use :: rest) :
    Matches cap idle now (this.remove use.id) { ref with entries := rest } := by
  have sub : rest.Sublist ref.entries := first ▸ List.sublist_cons_self use rest
  refine ⟨same.consistent.remove _, same.positive, same.refCap, same.refIdle, ?_, ?_, ?_, same.ordered.sublist sub, ?_, ?_⟩
  · exact (remove_cap _ _).trans same.capped
  · exact (remove_idle _ _).trans same.idled
  · exact same.next.trans (remove_next _ _).symm
  · intro other
    have nodup := same.ordered.nodup
    rw [first, List.map_cons, List.nodup_cons] at nodup
    have holds := same.holds other
    rw [first, List.mem_cons] at holds
    rw [remove_getElem?]
    split_ifs with mine
    · constructor
      · intro listed
        exact absurd (List.mem_map.mpr ⟨other, listed, mine.symm⟩) nodup.1
      · intro none
        cases none
    · rw [← holds]
      constructor
      · exact Or.inr
      · rintro (equal | listed)
        · exact absurd (congrArg Use.id equal).symm mine
        · exact listed
  · intro other listed
    exact same.past other (sub.subset listed)

theorem Matches.evictOldest (same : Matches cap idle now this ref) :
    this.evictOldest.1 = !ref.entries.isEmpty ∧
      Matches cap idle now this.evictOldest.2 { ref with entries := ref.entries.tail } := by
  unfold SessionTable.evictOldest
  rw [same.oldest]
  cases first : ref.entries with
  | nil =>
      refine ⟨rfl, ?_⟩
      have unchanged : ({ ref with entries := [] } : Reference) = ref := by rw [← first]
      exact unchanged ▸ same
  | cons use rest => exact ⟨rfl, same.remove first⟩

theorem Matches.madeRoom (same : Matches cap idle now this ref) :
    (madeRoom this).1 = decide (ref.cap ≤ ref.entries.length) ∧
    Matches cap idle now (madeRoom this).2 { ref with
      entries := if decide (ref.cap ≤ ref.entries.length) then ref.entries.tail else ref.entries } := by
  have length := same.length
  have capped : this.cap = ref.cap := same.capped.trans same.refCap.symm
  obtain ⟨evicts, smaller⟩ := same.evictOldest
  unfold Table.madeRoom
  rw [capped, ← length]
  split_ifs with full full' full'
  · refine ⟨?_, smaller⟩
    rw [evicts, decide_eq_true full]
    cases entries : ref.entries with
    | nil =>
        rw [entries, same.refCap] at full
        exact absurd (same.positive.trans full) (by decide)
    | cons use rest => rfl
  · exact absurd (decide_eq_true full) full'
  · exact absurd (of_decide_eq_true full') full
  · exact ⟨(decide_eq_false full).symm, same⟩

theorem claimLoop_first {turns : Nat} {id : UInt32} {next : SessionTable}
    (claimed : this.claimLoop turns = some (id, next)) :
    ∃ turn, id = this.next + UInt32.ofNat turn ∧
      ∀ earlier < turn, this.next + UInt32.ofNat earlier ∈ this.bySession := by
  induction turns generalizing this with
  | zero => cases claimed
  | succ turns ih =>
      simp only [claimLoop] at claimed
      split_ifs at claimed with taken
      · obtain ⟨turn, same, held⟩ := ih claimed
        have shift : ∀ offset, this.next + 1 + UInt32.ofNat offset = this.next + UInt32.ofNat (offset + 1) := by
          intro offset
          rw [UInt32.add_assoc, UInt32.ofNat_add, UInt32.add_comm 1]
          rfl
        refine ⟨turn + 1, same.trans (shift turn), ?_⟩
        intro earlier less
        cases earlier with
        | zero => simpa using taken
        | succ earlier =>
            rw [← shift]
            exact held earlier (by omega)
      · obtain ⟨rfl, -⟩ := Prod.mk.inj (Option.some.inj claimed)
        exact ⟨0, by simp, by simp⟩

theorem Matches.free_iff (same : Matches cap idle now this ref) (id : UInt32) :
    (∀ use ∈ ref.entries, use.id ≠ id) ↔ id ∉ this.bySession := by
  rw [Std.ExtTreeMap.mem_iff_isSome_getElem?, Bool.not_eq_true, Option.isSome_eq_false_iff, Option.isNone_iff_eq_none]
  constructor
  · intro free
    cases found : this.bySession[id]? with
    | none => rfl
    | some entry => exact absurd rfl (free ⟨entry.used, id, entry.visitor⟩ ((same.holds _).mpr found))
  · rintro absent use listed rfl
    rw [(same.holds use).mp listed] at absent
    cases absent

theorem Matches.claimId (same : Matches cap idle now this ref) :
    this.claimId = ref.claimId.map fun id => (id, { this with next := id + 1 }) := by
  have free_iff (turn : Nat) := same.free_iff (this.next + UInt32.ofNat turn)
  rw [← same.next] at free_iff
  cases claimed : this.claimId with
  | some result =>
      obtain ⟨id, next⟩ := result
      obtain ⟨absent, rfl⟩ := claimLoop_some claimed
      obtain ⟨turn, rfl, held⟩ := claimLoop_first claimed
      rw [← same.next] at held absent ⊢
      rw [Reference.claimId_some turn, Option.map_some]
      · rw [free_iff, Std.ExtTreeMap.mem_iff_isSome_getElem?, absent]
        simp
      · intro earlier less
        rw [free_iff, not_not]
        exact held earlier less
  | none =>
      have taken := claimLoop_none claimed
      have crowded : 2 ^ 32 ≤ this.bySession.size := by
        by_contra room
        obtain ⟨id, claims, -⟩ := claimId_claims _ (not_le.mp room)
        rw [claims] at claimed
        cases claimed
      rw [Reference.claimId_none, Option.map_none]
      -- With as many sessions as ids, every id is within the turns the loop was given.
      intro turn
      have reduced : UInt32.ofNat (turn % 2 ^ 32) = UInt32.ofNat turn := UInt32.ofNat_mod_size
      rw [free_iff, not_not, same.next, ← reduced]
      exact taken _ (by omega)

theorem Matches.admitted (same : Matches cap idle now this ref) {visitor : SocketAddr} {id : UInt32}
    (unknown : this.byVisitor[visitor]? = none) (absent : this.bySession[id]? = none) :
    Matches cap idle now (admitted this visitor id now) { ref with
      next := id + 1
      entries := Lru.place ⟨now, id, visitor⟩ ref.entries } := by
  have free : ∀ use ∈ ref.entries, use.id ≠ id := by
    rw [same.free_iff, Std.ExtTreeMap.mem_iff_isSome_getElem?, absent]
    simp
  refine ⟨same.consistent.insert unknown absent _ now, same.positive, same.refCap, same.refIdle,
    same.capped, same.idled, rfl,
    same.ordered.place free, ?_, ?_⟩
  · intro use
    simp only [Table.admitted, Lru.mem_place, Std.ExtTreeMap.getElem?_insert, Std.compare_eq_iff_eq,
      same.holds]
    split_ifs with mine
    · simp only [Use.ext_iff, ← mine, absent, reduceCtorEq, or_false, true_and, Option.some.injEq,
        Entry.mk.injEq]
      exact and_comm.trans (and_congr eq_comm eq_comm)
    · have differ : use.id ≠ id := fun equal => mine equal.symm
      simp only [Use.ext_iff, differ, false_and, and_false, false_or]
  · intro use listed
    rcases Lru.mem_place.mp listed with rfl | kept
    · exact le_rfl
    · exact same.past use kept

theorem Matches.inbound (same : Matches cap idle now this ref) (visitor : SocketAddr) :
    Timed.Alike (Matches cap idle now) (this.inbound visitor now) (ref.inbound visitor now) := by
  unfold Reference.inbound
  rcases same.find_owner visitor with ⟨use, found, listed, known⟩ | ⟨found, unknown⟩
  · rw [found, inbound_known known]
    exact .answered _ (same.touch listed)
  · obtain ⟨evicted, room⟩ := same.madeRoom
    rw [found, inbound_unknown unknown, room.claimId, evicted]
    dsimp only
    cases claimed : Reference.claimId _ with
    | none => exact .stuck
    | some id =>
        have claims := room.claimId
        rw [claimed] at claims
        have absent := (claimLoop_some claims).1
        have shrunk := madeRoom_shrunk same.consistent
        exact .answered _ (room.admitted (shrunk.unknown same.consistent unknown) absent)

theorem Matches.outbound (same : Matches cap idle now this ref) (session : UInt32) :
    (this.outbound session now).1 = (ref.outbound session now).1 ∧
      Matches cap idle now (this.outbound session now).2 (ref.outbound session now).2 := by
  unfold Reference.outbound SessionTable.outbound
  rw [same.find_id]
  cases found : this.bySession[session]? with
  | none => exact ⟨rfl, same⟩
  | some entry => exact ⟨rfl, same.touch ((same.holds ⟨entry.used, session, entry.visitor⟩).mpr found)⟩

theorem Matches.sweepLoop {turns : Nat} (same : Matches cap idle now this ref)
    (enough : ref.entries.length ≤ turns) :
    (sweepLoop now turns this).1 = (ref.sweep now).1 ∧
      Matches cap idle now (sweepLoop now turns this).2 (ref.sweep now).2 := by
  induction turns generalizing this ref with
  | zero =>
      have empty := List.eq_nil_of_length_eq_zero (Nat.le_zero.mp enough)
      have unchanged : ({ ref with entries := [] } : Reference) = ref := by rw [← empty]
      unfold Reference.sweep
      rw [empty]
      exact ⟨rfl, by simpa [SessionTable.sweepLoop, Lru.unexpired, unchanged] using same⟩
  | succ turns ih =>
      unfold SessionTable.sweepLoop Reference.sweep
      rw [same.oldest]
      cases first : ref.entries with
      | nil =>
          have unchanged : ({ ref with entries := [] } : Reference) = ref := by rw [← first]
          exact ⟨rfl, by simpa [Lru.unexpired, unchanged] using same⟩
      | cons use rest =>
          have ordered := same.ordered
          rw [first] at ordered
          have used := same.past use (first ▸ List.mem_cons_self)
          have idle := same.idled
          have idle' := same.refIdle
          simp only [List.head?_cons, Option.map_some]
          split_ifs with fresh
          · have young : ¬ use.used + ref.idle ≤ now := by omega
            rw [ordered.expired_cons_young young, ordered.unexpired_cons_young young, ← first]
            exact ⟨rfl, same⟩
          · have old : use.used + ref.idle ≤ now := by omega
            rw [Lru.expired_cons_expired old, Lru.unexpired_cons_expired old]
            have shorter : rest.length ≤ turns := by
              rw [first, List.length_cons] at enough
              omega
            obtain ⟨removed, left⟩ := ih (same.remove first) shorter
            exact ⟨congrArg (· + 1) removed, left⟩

theorem Matches.sweep (same : Matches cap idle now this ref) :
    (this.sweep now).1 = (ref.sweep now).1 ∧ Matches cap idle now (this.sweep now).2 (ref.sweep now).2 := by
  apply same.sweepLoop
  have ages : ref.entries.length ≤ this.byAge.size := by
    have perm : (ref.entries.map fun use => (⟨use.used, use.id⟩ : Age)).Subperm this.byAge.toList := by
      apply List.subperm_of_subset
      · apply List.Nodup.of_map Age.session
        rw [List.map_map]
        exact same.ordered.nodup
      · intro age listed
        obtain ⟨use, member, rfl⟩ := List.mem_map.mp listed
        exact Std.ExtTreeSet.mem_toList.mpr (same.listed_age use member)
    have length := perm.length_le
    rwa [List.length_map, Std.ExtTreeSet.length_toList] at length
  exact ages

theorem Matches.call (same : Matches cap idle now this ref) (op : Op) :
    Timed.Alike (Matches cap idle now) (this.call now op) (ref.call now op) := by
  cases op with
  | inbound visitor =>
      have alike := same.inbound visitor
      simp only [SessionTable.call, Reference.call]
      generalize this.inbound visitor now = result at alike ⊢
      generalize ref.inbound visitor now = result' at alike ⊢
      cases alike with
      | stuck => exact .stuck
      | answered seen related => exact .answered (Answer.inbound seen) related
  | outbound session =>
      obtain ⟨replied, after⟩ := same.outbound session
      simp only [SessionTable.call, Reference.call, replied]
      exact .answered _ after
  | sweep =>
      obtain ⟨removed, after⟩ := same.sweep
      simp only [SessionTable.call, Reference.call, removed]
      exact .answered _ after

theorem Matches.inbound_evicts (same : Matches cap idle now this ref) {visitor : SocketAddr} {seen : Inbound}
    {next : SessionTable} (returned : this.inbound visitor now = some (seen, next)) :
    (seen.evicted = true ↔ this.byVisitor[visitor]? = none ∧ this.cap ≤ this.bySession.size) ∧
    (seen.evicted = true → ∃ oldest rest, ref.entries = oldest :: rest ∧
      ∀ use : Use UInt32 SocketAddr, next.bySession[use.id]? = some ⟨use.owner, use.used⟩ ↔
        use = ⟨now, seen.session, visitor⟩ ∨ use ∈ rest) := by
  rcases same.find_owner visitor with ⟨use, -, -, known⟩ | ⟨-, unknown⟩
  · rw [inbound_known known] at returned
    obtain ⟨rfl, rfl⟩ := Prod.mk.inj (Option.some.inj returned)
    simp [known]
  · obtain ⟨evicted, room⟩ := same.madeRoom
    rw [inbound_unknown unknown] at returned
    obtain ⟨⟨id, claimed⟩, claims, returned⟩ := Option.map_eq_some_iff.mp returned
    obtain ⟨absent, rfl⟩ := claimLoop_some claims
    obtain ⟨rfl, rfl⟩ := Prod.mk.inj returned
    have shrunk := madeRoom_shrunk same.consistent
    have after := room.admitted (shrunk.unknown same.consistent unknown) absent
    rw [same.capped, ← same.length, evicted, same.refCap]
    refine ⟨by simp [unknown], ?_⟩
    intro full
    simp only [decide_eq_true_eq] at full
    cases entries : ref.entries with
    | nil =>
        rw [entries] at full
        exact absurd (same.positive.trans full) (by decide)
    | cons oldest rest =>
        refine ⟨oldest, rest, rfl, ?_⟩
        intro use
        have holds := after.holds use
        rw [entries] at full
        simp only [same.refCap, full, decide_true, ↓reduceIte, entries, List.tail_cons, Lru.mem_place] at holds
        exact holds.symm

end Calls

section Runs

theorem new_matches {cap : Nat} (positive : 1 ≤ cap) (idle : Nat) :
    Matches cap idle 0 (SessionTable.new cap idle) (Reference.new cap idle) := by
  refine ⟨new_consistent cap idle, positive, rfl, rfl, rfl, rfl, rfl, .nil, ?_, ?_⟩
  · intro use
    simp [SessionTable.new, Reference.new]
  · intro use listed
    cases listed

theorem run_matches {cap : Nat} (positive : 1 ≤ cap) (idle : Nat) {calls : List (Nat × Op)}
    (ascending : Timed.Ascending calls) :
    Timed.Alike (fun this ref => ∀ now, 0 ≤ now → (∀ timed ∈ calls, timed.1 ≤ now) →
        Matches cap idle now this ref)
      (Timed.run SessionTable.call (.new cap idle) calls)
      (Timed.run Reference.call (.new cap idle) calls) := by
  apply Timed.run_alike
  · intro now later this ref le same
    exact same.wait le
  · intro now op this ref same
    exact same.call op
  · exact new_matches positive idle
  · exact fun _ _ => Nat.zero_le _
  · exact ascending

theorem table_is_lru (cap idle : Nat) (positive : 1 ≤ cap) (calls : List (Nat × Op))
    (ascending : Timed.Ascending calls) :
    Timed.answers SessionTable.call (.new cap idle) calls =
      Timed.answers Reference.call (.new cap idle) calls ∧
    ∀ answers this, Timed.run SessionTable.call (.new cap idle) calls = some (answers, this) →
      ∃ ref, Timed.run Reference.call (.new cap idle) calls = some (answers, ref) ∧
        ref.entries.Pairwise Use.Before ∧
        (∀ use : Use UInt32 SocketAddr,
          use ∈ ref.entries ↔ this.bySession[use.id]? = some ⟨use.owner, use.used⟩) ∧
        ∀ now, (∀ timed ∈ calls, timed.1 ≤ now) →
          (∀ visitor seen next, this.inbound visitor now = some (seen, next) →
            (seen.evicted = true ↔ this.byVisitor[visitor]? = none ∧ cap ≤ this.bySession.size) ∧
            (seen.evicted = true → ∃ oldest rest, ref.entries = oldest :: rest ∧
              ∀ use : Use UInt32 SocketAddr, next.bySession[use.id]? = some ⟨use.owner, use.used⟩ ↔
                use = ⟨now, seen.session, visitor⟩ ∨ use ∈ rest)) ∧
          (this.sweep now).1 = (ref.entries.filter fun use => use.used + idle ≤ now).length ∧
          (∀ use : Use UInt32 SocketAddr,
            (this.sweep now).2.bySession[use.id]? = some ⟨use.owner, use.used⟩ ↔
              use ∈ ref.entries ∧ ¬ use.used + idle ≤ now) ∧
          ∀ visitor session, this.byVisitor[visitor]? = some session →
            (this.outbound session now).1 = some visitor ∧
              this.inbound visitor now = some (⟨session, false, false⟩, (this.outbound session now).2) := by
  have alike := run_matches positive idle ascending
  refine ⟨alike.answers_eq, ?_⟩
  intro answers this ran
  rw [ran] at alike
  generalize finished : Timed.run Reference.call (.new cap idle) calls = result at alike
  cases alike with
  | answered _ related =>
      rename_i ref
      have now_matches (now : Nat) (past : ∀ timed ∈ calls, timed.1 ≤ now) : Matches cap idle now this ref :=
        related now (Nat.zero_le _) past
      obtain ⟨last, past⟩ : ∃ last, ∀ timed ∈ calls, timed.1 ≤ last :=
        ⟨(calls.map (·.1)).sum, fun timed member =>
          List.single_le_sum (fun _ _ => Nat.zero_le _) _ (List.mem_map_of_mem member)⟩
      have same := now_matches last past
      refine ⟨ref, rfl, same.ordered.before, same.holds, ?_⟩
      intro now past
      have same := now_matches now past
      refine ⟨?_, ?_, ?_, ?_⟩
      · intro visitor seen next returned
        have evicts := same.inbound_evicts returned
        rwa [same.capped] at evicts
      · rw [same.sweep.1, Reference.sweep, same.refIdle]
        rfl
      · intro use
        rw [← same.sweep.2.holds, Reference.sweep, same.refIdle]
        simp [Lru.unexpired]
      · intro visitor session known
        have owned := same.consistent.visitorOf_eq.mpr known
        obtain ⟨replied, touched⟩ := outbound_eq this session now
        exact ⟨replied.trans owned, by rw [inbound_known known, touched]⟩

theorem table_is_lru_reply :
    let calls : List (Nat × Op) := [(5, .inbound ⟨.v4 0xc0000201#32, 53⟩), (7, .outbound 0)]
    Timed.Ascending calls ∧
    Timed.answers SessionTable.call (.new 1 60) calls =
      some [.inbound ⟨0, true, false⟩, .outbound (some ⟨.v4 0xc0000201#32, 53⟩)] ∧
    Timed.answers Reference.call (.new 1 60) calls =
      some [.inbound ⟨0, true, false⟩, .outbound (some ⟨.v4 0xc0000201#32, 53⟩)] := by
  intro calls
  have ascending : Timed.Ascending calls := by simp [calls, Timed.Ascending]
  have answered : Timed.answers SessionTable.call (.new 1 60) calls =
      some [.inbound ⟨0, true, false⟩, .outbound (some ⟨.v4 0xc0000201#32, 53⟩)] := rfl
  have same := (table_is_lru 1 60 (by decide) calls ascending).1
  exact ⟨ascending, answered, same.symm.trans answered⟩

end Runs
end Hawse.Proof.Table
