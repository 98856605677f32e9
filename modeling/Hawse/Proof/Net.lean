import Hawse.Net

namespace Hawse.Proof.Net
open Lib

/-- The IPv6 form of an IPv4 address. -/
def mapped (bits : BitVec 32) : BitVec 128 := 0xffff#96 ++ bits

theorem mapped_toNat (bits : BitVec 32) : (mapped bits).toNat = 0xffff * 2 ^ 32 + bits.toNat := by
  rw [mapped, BitVec.toNat_append, ← Nat.shiftLeft_add_eq_or_of_lt bits.isLt, Nat.shiftLeft_eq]
  rfl

theorem isMapped_iff {bits : BitVec 128} : bits >>> 32 = 0xffff#128 ↔ bits.toNat / 2 ^ 32 = 0xffff := by
  rw [← BitVec.toNat_inj, BitVec.toNat_ushiftRight, Nat.shiftRight_eq_div_pow]
  rfl

theorem mapped_isMapped (bits : BitVec 32) : mapped bits >>> 32 = 0xffff#128 := by
  have less := bits.isLt
  rw [isMapped_iff, mapped_toNat]
  omega

theorem exists_mapped {bits : BitVec 128} (top : bits >>> 32 = 0xffff#128) : bits = mapped (bits.setWidth 32) := by
  have less := bits.isLt
  have share := isMapped_iff.mp top
  apply BitVec.eq_of_toNat_eq
  rw [mapped_toNat, BitVec.toNat_setWidth]
  omega

theorem mapped_injective {a b : BitVec 32} (same : mapped a = mapped b) : a = b := by
  have values := congrArg BitVec.toNat same
  rw [mapped_toNat, mapped_toNat] at values
  exact BitVec.eq_of_toNat_eq (by omega)

theorem toCanonical_mapped (bits : BitVec 32) : IpAddr.toCanonical (.v6 (mapped bits)) = .v4 bits := by
  rw [IpAddr.toCanonical, if_pos (mapped_isMapped bits)]
  exact congrArg IpAddr.v4 (mapped_injective (exists_mapped (mapped_isMapped bits)).symm)

theorem toCanonical_v6 {ip : IpAddr} {bits : BitVec 128} (already : ip.toCanonical = .v6 bits) :
    IpAddr.toCanonical (.v6 bits) = .v6 bits := by
  cases ip with
  | v4 => cases already
  | v6 other =>
      simp only [IpAddr.toCanonical] at already ⊢
      split_ifs at already with top
      cases already
      rw [if_neg top]

theorem toCanonical_idem (ip : IpAddr) : ip.toCanonical.toCanonical = ip.toCanonical := by
  cases form : ip.toCanonical with
  | v4 bits => rfl
  | v6 bits => exact toCanonical_v6 form

end Hawse.Proof.Net
