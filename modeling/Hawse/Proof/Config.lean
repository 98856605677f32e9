import Hawse.Proof.Allow
import Hawse.Proof.Client.Frame
import Hawse.Proof.Net

namespace Hawse.Proof.Config
open Lib Network Proof.Net
open Std (ExtTreeMap)

section Mapped

theorem leading_mapped {len : Nat} (long : 96 ≤ len) (fits : len ≤ 128) (bits : BitVec 32) :
    leading len (mapped bits) = 0xffff * 2 ^ (len - 96) + leading (len - 96) bits := by
  have host : 128 - len = 32 - (len - 96) := by omega
  have split : (2 : Nat) ^ 32 = 2 ^ (32 - (len - 96)) * 2 ^ (len - 96) := by
    rw [← pow_add]
    congr 1
    omega
  rw [leading, leading, mapped_toNat, host, split, ← mul_assoc, mul_comm 0xffff, mul_assoc,
    Nat.mul_add_div (Nat.two_pow_pos _)]

theorem leading_mapped_eq {len : Nat} (long : 96 ≤ len) (fits : len ≤ 128) {a b : BitVec 32} :
    leading len (mapped a) = leading len (mapped b) ↔ leading (len - 96) a = leading (len - 96) b := by
  rw [leading_mapped long fits, leading_mapped long fits]
  omega

variable {net : Network 128}

theorem covers_isMapped (long : 96 ≤ net.prefixLen) {bits : BitVec 128} (covered : net.Covers bits) :
    bits >>> 32 = 0xffff#128 ↔ net.trunc.addr >>> 32 = 0xffff#128 := by
  have same : leading 96 bits = leading 96 net.trunc.addr := by
    rw [leading_of_le long net.prefixLen_le, leading_of_le long net.prefixLen_le, covered, leading_trunc]
  have whole (bits : BitVec 128) : leading 96 bits = bits.toNat / 2 ^ 32 := rfl
  rw [isMapped_iff, isMapped_iff, ← whole, ← whole, same]

theorem exists_unmapped (short : net.prefixLen < 96) : ∃ bits, net.Covers bits ∧ bits >>> 32 ≠ 0xffff#128 := by
  obtain ⟨a, b, inA, inB, differ⟩ := exists_leading_ne short (by decide) net.addr
  by_cases top : a >>> 32 = 0xffff#128
  · refine ⟨b, inB, ?_⟩
    intro top'
    exact differ ((isMapped_iff.mp top).trans (isMapped_iff.mp top').symm)
  · exact ⟨a, inA, top⟩

theorem covers_trunc_self (net : Network 128) : net.Covers net.trunc.addr :=
  (net.covers_trunc net.trunc.addr).mp net.trunc.covers_self

theorem all_mapped_iff : (∀ bits, net.Covers bits → bits >>> 32 = 0xffff#128) ↔
    net.trunc.addr >>> 32 = 0xffff#128 ∧ 96 ≤ net.prefixLen := by
  constructor
  · intro all
    refine ⟨all _ (covers_trunc_self net), ?_⟩
    by_contra short
    obtain ⟨bits, covered, unmapped⟩ := exists_unmapped (Nat.lt_of_not_le short)
    exact unmapped (all bits covered)
  · rintro ⟨top, long⟩ bits covered
    exact (covers_isMapped long covered).mpr top

/-- An address that is not mapped is its own canonical form, and a mapped one's is not of its family. -/
theorem admits_iff (n : IpNet) :
    (∃ visitor : IpAddr, n.Covers visitor.toCanonical) ↔ ¬ ∀ ip, n.Covers ip → ∃ bits, ip = .v6 (mapped bits) := by
  rw [not_forall]
  constructor
  · rintro ⟨visitor, covered⟩
    refine ⟨visitor.toCanonical, ?_⟩
    intro all
    obtain ⟨bits, same⟩ := all covered
    have settled := toCanonical_idem visitor
    rw [same, toCanonical_mapped] at settled
    cases settled
  · rintro ⟨ip, unmapped⟩
    obtain ⟨covered, plain⟩ := Classical.not_imp.mp unmapped
    refine ⟨ip, ?_⟩
    cases ip with
    | v4 bits => exact covered
    | v6 bits =>
        rw [IpAddr.toCanonical, if_neg]
        · exact covered
        · exact fun top => plain ⟨_, congrArg IpAddr.v6 (exists_mapped top)⟩

end Mapped

section Form
variable [Ipv6Net]

theorem checkClients_each {seen : ExtTreeMap PublicKey String} {clients : List (String × ClientPolicy)}
    (accepted : ServerConfig.checkClients seen clients = .ok ()) {client : String} {policy : ClientPolicy}
    (member : (client, policy) ∈ clients) : mappedEntry policy.allow = none := by
  induction clients generalizing seen with
  | nil => cases member
  | cons first clients ih =>
      obtain ⟨name, settings⟩ := first
      unfold ServerConfig.checkClients at accepted
      split at accepted
      · cases accepted
      · split at accepted
        · cases accepted
        · split at accepted
          · cases accepted
          · rename_i unmapped
            rcases List.mem_cons.mp member with same | member
            · obtain ⟨rfl, rfl⟩ := Prod.mk.inj same
              exact unmapped
            · exact ih accepted member

theorem validate_clients {cfg : ServerConfig} (accepted : cfg.validate = .ok ()) :
    ServerConfig.checkClients ∅ cfg.clients.toList = .ok () := by
  obtain ⟨-, others⟩ := Reload.validate_ok.mp accepted
  unfold Reload.checkOthers at others
  obtain ⟨_, -, limits⟩ := Fallible.bind_eq_ok.mp others
  split_ifs at limits
  · cases limits
  · cases limits
  · cases limits
  · exact limits

variable [Ipv6Net.Documented]

theorem ipv4Form_v6 (net : Network 128) (m : IpNet) :
    ipv4Form (.v6 net) = some m ↔ (net.trunc.addr >>> 32 = 0xffff#128 ∧ 96 ≤ net.prefixLen) ∧
      m = .v4 ⟨net.trunc.addr.setWidth 32, net.prefixLen - 96, Nat.sub_le_of_le_add net.prefixLen_le⟩ := by
  simp only [ipv4Form, Ipv6Net.Documented.network_eq]
  split_ifs with top long
  · rw [Option.some.injEq, eq_comm]
    exact ⟨fun same => ⟨⟨top, long⟩, same⟩, fun found => found.2⟩
  · exact iff_of_false (by simp) fun found => long found.1.2
  · exact iff_of_false (by simp) fun found => top found.1.1

theorem ipv4Form_iff (n : IpNet) :
    (∃ m, ipv4Form n = some m) ↔ ∀ ip, n.Covers ip → ∃ bits, ip = .v6 (mapped bits) := by
  cases n with
  | v4 net =>
      refine iff_of_false (by simp [ipv4Form]) ?_
      intro all
      obtain ⟨bits, same⟩ := all (.v4 net.addr) net.covers_self
      cases same
  | v6 net =>
      have within : (∀ ip, (IpNet.v6 net).Covers ip → ∃ bits, ip = .v6 (mapped bits)) ↔
          ∀ bits, net.Covers bits → bits >>> 32 = 0xffff#128 := by
        constructor
        · intro all bits covered
          obtain ⟨found, same⟩ := all (.v6 bits) covered
          obtain rfl := IpAddr.v6.inj same
          exact mapped_isMapped found
        · intro all ip covered
          cases ip with
          | v4 => exact covered.elim
          | v6 bits => exact ⟨_, congrArg IpAddr.v6 (exists_mapped (all bits covered))⟩
      rw [within, all_mapped_iff]
      simp only [ipv4Form_v6]
      rw [exists_and_left, and_iff_left ⟨_, rfl⟩]

theorem ipv4Form_covers {n m : IpNet} (form : ipv4Form n = some m) (ip : IpAddr) :
    m.Covers ip ↔ ∃ bits, ip = .v4 bits ∧ n.Covers (.v6 (mapped bits)) := by
  cases n with
  | v4 net => cases form
  | v6 net =>
      obtain ⟨⟨top, long⟩, rfl⟩ := (ipv4Form_v6 net m).mp form
      have base := exists_mapped top
      cases ip with
      | v6 bits =>
          refine iff_of_false id ?_
          rintro ⟨_, same, -⟩
          cases same
      | v4 bits =>
          have narrow : net.Covers (mapped bits) ↔
              leading (net.prefixLen - 96) bits = leading (net.prefixLen - 96) (net.trunc.addr.setWidth 32) := by
            rw [← leading_mapped_eq long net.prefixLen_le, ← base]
            exact (net.covers_trunc _).symm
          constructor
          · intro covered
            exact ⟨bits, rfl, narrow.mpr covered⟩
          · rintro ⟨_, same, covered⟩
            obtain rfl := IpAddr.v4.inj same
            exact narrow.mp covered

theorem mappedEntry_none {allow : List IpNet} (unmapped : mappedEntry allow = none) {net : IpNet} (member : net ∈ allow) :
    ∃ visitor : IpAddr, net.Covers visitor.toCanonical := by
  have plain := List.findSome?_eq_none_iff.mp unmapped net member
  rw [admits_iff, ← ipv4Form_iff]
  rintro ⟨m, form⟩
  simp [form] at plain

end Form

/-- The entries that no visitor's address can match are the ones that have an IPv4 form. -/
theorem unmatched_entries_refused [Ipnet] [Ipnet.Documented] [Ipv6Net] [Ipv6Net.Documented] :
    (∀ n : IpNet,
      ((∃ m, ipv4Form n = some m) ↔ ¬ ∃ visitor : IpAddr, Ipnet.containsAddr n visitor.toCanonical = true) ∧
      ((∃ m, ipv4Form n = some m) ↔
        ∀ ip, Ipnet.containsAddr n ip = true → ∃ bits, ip = .v6 (mapped bits)) ∧
      ∀ m, ipv4Form n = some m → ∀ ip, Ipnet.containsAddr m ip = true ↔
        ∃ bits, ip = .v4 bits ∧ Ipnet.containsAddr n (.v6 (mapped bits)) = true) ∧
    (∀ cfg : ServerConfig, cfg.validate = .ok () → ∀ (client : String) (policy : ClientPolicy),
      cfg.clients[client]? = some policy → ∀ net ∈ policy.allow,
        ∃ visitor : IpAddr, Ipnet.containsAddr net visitor.toCanonical = true) ∧
    ∀ cfg : ClientConfig, cfg.validate = .ok () → ∀ (service : String) (expose : Client.Expose),
      cfg.expose[service]? = some expose → ∀ net ∈ expose.allow,
        ∃ visitor : IpAddr, Ipnet.containsAddr net visitor.toCanonical = true := by
  simp only [Ipnet.Documented.containsAddr_iff]
  refine ⟨?_, ?_, ?_⟩
  · intro n
    refine ⟨?_, ipv4Form_iff n, fun m form => ipv4Form_covers form⟩
    rw [ipv4Form_iff, admits_iff, not_not]
  · intro cfg accepted client policy found net member
    have listed := ExtTreeMap.mem_toList_iff_getElem?_eq_some.mpr found
    exact mappedEntry_none (checkClients_each (validate_clients accepted) listed) member
  · intro cfg accepted service expose found net member
    have listed := ExtTreeMap.mem_toList_iff_getElem?_eq_some.mpr found
    exact mappedEntry_none (Client.Frame.checkExposed_each (Client.Frame.validate_exposed accepted) listed).2 member

section Example
attribute [local instance] Proof.ipnet Proof.ipnet_documented Proof.Reload.ipv6Net

local instance ipv6Net_documented : Ipv6Net.Documented := ⟨fun _ => rfl⟩

/-- `::ffff:192.0.2.1/120` stands for `192.0.2.0/24`, and `::ffff:0:0/95` is let through. -/
theorem unmatched_entries_refused_mapped :
    ipv4Form (.v6 ⟨0xffffc0000201, 120, by decide⟩) = some (.v4 ⟨0xc0000200, 24, by decide⟩) ∧
    (¬ ∃ visitor : IpAddr, Ipnet.containsAddr (.v6 ⟨0xffffc0000201, 120, by decide⟩) visitor.toCanonical = true) ∧
    ∃ visitor : IpAddr, Ipnet.containsAddr (.v6 ⟨0xffff00000000, 95, by decide⟩) visitor.toCanonical = true := by
  obtain ⟨each, -⟩ := unmatched_entries_refused
  have form : ipv4Form (.v6 ⟨0xffffc0000201, 120, by decide⟩) = some (.v4 ⟨0xc0000200, 24, by decide⟩) := by decide
  refine ⟨form, (each _).1.mp ⟨_, form⟩, ?_⟩
  by_contra unmatched
  obtain ⟨m, form⟩ := (each _).1.mpr unmatched
  exact absurd form (by simp [ipv4Form])

end Example
end Hawse.Proof.Config
