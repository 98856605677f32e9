import Hawse.Allow

namespace Hawse.Proof
open AllowList

theorem mem_destutter_ne {α : Type} [DecidableEq α] (l : List α) (x : α) :
    x ∈ l.destutter (· ≠ ·) ↔ x ∈ l := by
  have keep (l : List α) (a : α) : x ∈ l.destutter' (· ≠ ·) a ↔ x ∈ a :: l := by
    induction l generalizing a with
    | nil => simp
    | cons b l ih =>
        rw [List.destutter'_cons]
        split_ifs with differ
        · simp [ih]
        · simp only [ne_eq, not_not] at differ
          subst differ
          simp [ih]
  cases l with
  | nil => simp
  | cons a l => rw [List.destutter_cons', keep]

section Intersection
variable [Ipnet]

theorem permits_iff [Ipnet.Documented] (allow : AllowList) (ip : IpAddr) :
    allow.permits ip = true ↔ allow.nets = [] ∨ ∃ n ∈ allow.nets, n.Covers ip.toCanonical := by
  simp [permits, Ipnet.Documented.containsAddr_iff]

theorem mem_overlaps {client ceiling : List IpNet} {n : IpNet} :
    n ∈ overlaps client ceiling ↔ ∃ a ∈ client, ∃ b ∈ ceiling,
      (Ipnet.contains a b = true ∧ n = b) ∨
      (Ipnet.contains a b = false ∧ Ipnet.contains b a = true ∧ n = a) := by
  simp only [overlaps, List.mem_flatMap, List.mem_filterMap]
  refine exists_congr fun a => and_congr_right fun _ =>
    exists_congr fun b => and_congr_right fun _ => ?_
  cases Ipnet.contains a b <;> cases Ipnet.contains b a <;> simp [eq_comm]

theorem overlaps_covers [Ipnet.Documented] (client ceiling : List IpNet) (ip : IpAddr) :
    (∃ n ∈ overlaps client ceiling, n.Covers ip) ↔
      (∃ a ∈ client, a.Covers ip) ∧ ∃ b ∈ ceiling, b.Covers ip := by
  constructor
  · rintro ⟨n, member, covered⟩
    obtain ⟨a, inClient, b, inCeiling, ⟨wide, rfl⟩ | ⟨-, wide, rfl⟩⟩ := mem_overlaps.mp member
    · exact ⟨⟨a, inClient, (Ipnet.Documented.contains_iff _ _).mp wide ip covered⟩, _, inCeiling, covered⟩
    · exact ⟨⟨_, inClient, covered⟩, b, inCeiling, (Ipnet.Documented.contains_iff _ _).mp wide ip covered⟩
  · rintro ⟨⟨a, inClient, coveredA⟩, b, inCeiling, coveredB⟩
    cases outer : Ipnet.contains a b with
    | true => exact ⟨b, mem_overlaps.mpr ⟨a, inClient, b, inCeiling, Or.inl ⟨outer, rfl⟩⟩, coveredB⟩
    | false =>
        have inner : Ipnet.contains b a = true := by
          rcases IpNet.nested_of_shared coveredA coveredB with sub | sub
          · rw [(Ipnet.Documented.contains_iff a b).mpr sub] at outer
            cases outer
          · exact (Ipnet.Documented.contains_iff b a).mpr sub
        exact ⟨a, mem_overlaps.mpr ⟨a, inClient, b, inCeiling, Or.inr ⟨outer, inner, rfl⟩⟩, coveredA⟩

theorem covers_map_trunc [Ipnet.Documented] (nets : List IpNet) (ip : IpAddr) :
    (∃ n ∈ nets.map Ipnet.trunc, n.Covers ip) ↔ ∃ n ∈ nets, n.Covers ip := by
  simp [Ipnet.Documented.trunc_eq]

theorem overlaps_eq_nil_iff [Ipnet.Documented] (client ceiling : List IpNet) :
    overlaps client ceiling = [] ↔
      ¬ ∃ ip, (∃ a ∈ client, a.Covers ip) ∧ ∃ b ∈ ceiling, b.Covers ip := by
  constructor
  · rintro empty ⟨ip, shared⟩
    obtain ⟨n, member, -⟩ := (overlaps_covers client ceiling ip).mpr shared
    simp [empty] at member
  · intro disjoint
    by_contra nonempty
    obtain ⟨n, member⟩ := List.exists_mem_of_ne_nil _ nonempty
    obtain ⟨ip, covered⟩ := n.exists_covers
    exact disjoint ⟨ip, (overlaps_covers client ceiling ip).mp ⟨n, member, covered⟩⟩

theorem effective_both {client ceiling : List IpNet} (some₁ : client ≠ []) (some₂ : ceiling ≠ []) :
    effective client ceiling =
      let both := ((overlaps (client.map Ipnet.trunc) (ceiling.map Ipnet.trunc)).insertionSort
        (Ipnet.le · ·)).destutter (· ≠ ·)
      if both.isEmpty then none else some ⟨both⟩ := by
  simp [effective, some₁, some₂]

theorem mem_sorted_overlaps (client ceiling : List IpNet) (n : IpNet) :
    n ∈ ((overlaps client ceiling).insertionSort (Ipnet.le · ·)).destutter (· ≠ ·) ↔
      n ∈ overlaps client ceiling := by
  rw [mem_destutter_ne, List.mem_insertionSort]

theorem effective_permits [Ipnet.Documented] {client ceiling : List IpNet} {allow : AllowList}
    (given : effective client ceiling = some allow) (ip : IpAddr) :
    allow.permits ip = true ↔
      (client = [] ∨ ∃ n ∈ client, n.Covers ip.toCanonical) ∧
      (ceiling = [] ∨ ∃ n ∈ ceiling, n.Covers ip.toCanonical) := by
  rw [permits_iff]
  by_cases noClient : client = []
  · subst noClient
    simp only [effective, List.map_nil, List.isEmpty_nil, ↓reduceIte, Option.some.injEq] at given
    subst given
    simp only [List.map_eq_nil_iff, covers_map_trunc, true_or, true_and]
  by_cases noCeiling : ceiling = []
  · subst noCeiling
    simp only [effective, List.isEmpty_map, List.isEmpty_iff, noClient, List.map_nil, ↓reduceIte,
      Option.some.injEq] at given
    subst given
    simp only [List.map_eq_nil_iff, covers_map_trunc, true_or, and_true]
  rw [effective_both noClient noCeiling] at given
  simp only [List.isEmpty_iff] at given
  split_ifs at given with empty
  obtain rfl := Option.some.inj given
  simp only [empty, noClient, noCeiling, false_or, mem_sorted_overlaps]
  rw [overlaps_covers, covers_map_trunc, covers_map_trunc]

theorem effective_eq_none_iff [Ipnet.Documented] (client ceiling : List IpNet) :
    effective client ceiling = none ↔ client ≠ [] ∧ ceiling ≠ [] ∧
      ¬ ∃ ip, (∃ n ∈ client, n.Covers ip) ∧ ∃ n ∈ ceiling, n.Covers ip := by
  by_cases noClient : client = []
  · simp [effective, noClient]
  by_cases noCeiling : ceiling = []
  · simp [effective, noClient, noCeiling]
  rw [effective_both noClient noCeiling]
  simp only [List.isEmpty_iff, ne_eq, noClient, noCeiling, not_false_eq_true, true_and]
  have sorted : ((overlaps (client.map Ipnet.trunc) (ceiling.map Ipnet.trunc)).insertionSort
      (Ipnet.le · ·)).destutter (· ≠ ·) = [] ↔
      overlaps (client.map Ipnet.trunc) (ceiling.map Ipnet.trunc) = [] := by
    simp only [List.eq_nil_iff_forall_not_mem, mem_sorted_overlaps]
  rw [ite_eq_left_iff]
  simp only [reduceCtorEq, imp_false, not_not, sorted, overlaps_eq_nil_iff, covers_map_trunc]

theorem effective_nets_eq_nil {client ceiling : List IpNet} {allow : AllowList}
    (given : effective client ceiling = some allow) (empty : allow.nets = []) :
    client = [] ∧ ceiling = [] := by
  by_cases noClient : client = []
  · subst noClient
    simp only [effective, List.map_nil, List.isEmpty_nil, ↓reduceIte, Option.some.injEq] at given
    subst given
    exact ⟨rfl, List.map_eq_nil_iff.mp empty⟩
  by_cases noCeiling : ceiling = []
  · subst noCeiling
    simp only [effective, List.isEmpty_map, List.isEmpty_iff, noClient, List.map_nil, ↓reduceIte,
      Option.some.injEq] at given
    subst given
    exact absurd (List.map_eq_nil_iff.mp empty) noClient
  rw [effective_both noClient noCeiling] at given
  simp only [List.isEmpty_iff] at given
  split_ifs at given with none
  obtain rfl := Option.some.inj given
  exact absurd empty none

theorem effective_is_intersection [Ipnet.Documented] (client ceiling : List IpNet) :
    (∀ allow, effective client ceiling = some allow →
      (∀ ip, allow.permits ip = true ↔
        (client = [] ∨ ∃ n ∈ client, n.Covers ip.toCanonical) ∧
        (ceiling = [] ∨ ∃ n ∈ ceiling, n.Covers ip.toCanonical)) ∧
      (allow.nets = [] → client = [] ∧ ceiling = [])) ∧
    (effective client ceiling = none ↔ client ≠ [] ∧ ceiling ≠ [] ∧
      ¬ ∃ ip, (∃ n ∈ client, n.Covers ip) ∧ ∃ n ∈ ceiling, n.Covers ip) :=
  ⟨fun _ given => ⟨effective_permits given, effective_nets_eq_nil given⟩,
    effective_eq_none_iff client ceiling⟩

end Intersection

section Standard
open Lib

local instance ipnet : Ipnet where
  trunc := IpNet.truncated
  contains
    | .v4 a, .v4 b => decide (a.prefixLen ≤ b.prefixLen) && decide (a.Covers b.addr)
    | .v6 a, .v6 b => decide (a.prefixLen ≤ b.prefixLen) && decide (a.Covers b.addr)
    | _, _ => false
  containsAddr n ip := decide (n.Covers ip)
  le
    | .v4 a, .v4 b => decide (a.addr < b.addr ∨ a.addr = b.addr ∧ a.prefixLen ≤ b.prefixLen)
    | .v6 a, .v6 b => decide (a.addr < b.addr ∨ a.addr = b.addr ∧ a.prefixLen ≤ b.prefixLen)
    | .v4 _, .v6 _ => true
    | .v6 _, .v4 _ => false

theorem ipnet_documented : Ipnet.Documented := by
  refine ⟨fun _ => rfl, ?_, fun n ip => decide_eq_true_iff⟩
  rintro (a | a) (b | b)
  · simp only [Ipnet.contains, Bool.and_eq_true, decide_eq_true_eq, ← Network.subset_iff]
    exact ⟨fun sub ip covered => by
      cases ip <;> first | exact covered.elim | exact sub _ covered, fun sub x => sub (.v4 x)⟩
  · simp only [Ipnet.contains, Bool.false_eq_true, false_iff, not_forall]
    exact ⟨.v6 b.addr, b.covers_self, id⟩
  · simp only [Ipnet.contains, Bool.false_eq_true, false_iff, not_forall]
    exact ⟨.v4 b.addr, b.covers_self, id⟩
  · simp only [Ipnet.contains, Bool.and_eq_true, decide_eq_true_eq, ← Network.subset_iff]
    exact ⟨fun sub ip covered => by
      cases ip <;> first | exact covered.elim | exact sub _ covered, fun sub x => sub (.v6 x)⟩

theorem effective_is_intersection_nested :
    let client : List IpNet := [.v4 ⟨0x0a010203#32, 8, by decide⟩]
    let ceiling : List IpNet := [.v4 ⟨0x0a010000#32, 16, by decide⟩,
      .v6 ⟨0x20010db8000000000000000000000000#128, 32, by decide⟩]
    effective client ceiling = some ⟨[.v4 ⟨0x0a010000#32, 16, by decide⟩]⟩ ∧
    ∃ ip, (∃ n ∈ client, n.Covers ip) ∧ ∃ n ∈ ceiling, n.Covers ip := by
  have := ipnet_documented
  refine ⟨by decide, ?_⟩
  have iff := (effective_is_intersection [.v4 ⟨0x0a010203#32, 8, by decide⟩]
    [.v4 ⟨0x0a010000#32, 16, by decide⟩,
      .v6 ⟨0x20010db8000000000000000000000000#128, 32, by decide⟩]).2
  by_contra disjoint
  exact absurd (iff.mpr ⟨by simp, by simp, disjoint⟩) (by decide)

end Standard

end Hawse.Proof
