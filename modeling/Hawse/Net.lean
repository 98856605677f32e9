import Hawse.Lib.Network

namespace Hawse
open Lib

inductive IpAddr
  | v4 (bits : BitVec 32)
  | v6 (bits : BitVec 128)
deriving DecidableEq

def IpAddr.rank : IpAddr → Nat
  | .v4 a => a.toNat
  | .v6 a => 2 ^ 32 + a.toNat

theorem IpAddr.rank_injective : Function.Injective IpAddr.rank := by
  rintro (a | a) (b | b) same <;> simp only [IpAddr.rank] at same
  · exact congrArg IpAddr.v4 (BitVec.eq_of_toNat_eq same)
  · have := a.isLt
    omega
  · have := b.isLt
    omega
  · exact congrArg IpAddr.v6 (BitVec.eq_of_toNat_eq (by omega))

instance : Ord IpAddr := ⟨compareOn IpAddr.rank⟩

instance : Std.TransOrd IpAddr := inferInstanceAs (Std.TransCmp (compareOn IpAddr.rank))

instance : Std.LawfulEqOrd IpAddr where
  eq_of_compare same := IpAddr.rank_injective (Std.LawfulEqOrd.eq_of_compare same)

@[ext]
structure SocketAddr where
  ip : IpAddr
  port : UInt16
deriving DecidableEq

instance : Ord SocketAddr := ⟨compareLex (compareOn SocketAddr.ip) (compareOn SocketAddr.port)⟩

instance : Std.TransOrd SocketAddr :=
  inferInstanceAs (Std.TransCmp (compareLex (compareOn SocketAddr.ip) (compareOn SocketAddr.port)))

instance : Std.LawfulEqOrd SocketAddr where
  eq_of_compare same := by
    obtain ⟨ip, port⟩ := compareLex_eq_eq.mp same
    exact SocketAddr.ext (Std.LawfulEqOrd.eq_of_compare ip) (Std.LawfulEqOrd.eq_of_compare port)

def IpAddr.toCanonical : IpAddr → IpAddr
  | .v4 a => .v4 a
  | .v6 a => if a >>> 32 = 0xffff#128 then .v4 (a.setWidth 32) else .v6 a

def IpAddr.isUnspecified : IpAddr → Bool
  | .v4 a => a = 0
  | .v6 a => a = 0

inductive IpNet
  | v4 (net : Network 32)
  | v6 (net : Network 128)
deriving DecidableEq

namespace IpNet

def Covers : IpNet → IpAddr → Prop
  | .v4 n, .v4 a => n.Covers a
  | .v6 n, .v6 a => n.Covers a
  | _, _ => False

instance : (n : IpNet) → (ip : IpAddr) → Decidable (n.Covers ip)
  | .v4 n, .v4 a => inferInstanceAs (Decidable (n.Covers a))
  | .v6 n, .v6 a => inferInstanceAs (Decidable (n.Covers a))
  | .v4 _, .v6 _ => isFalse id
  | .v6 _, .v4 _ => isFalse id

def truncated : IpNet → IpNet
  | .v4 n => .v4 n.trunc
  | .v6 n => .v6 n.trunc

@[simp] theorem covers_truncated (n : IpNet) (ip : IpAddr) : n.truncated.Covers ip ↔ n.Covers ip := by
  cases n <;> cases ip <;> simp [truncated, Covers]

theorem exists_covers (n : IpNet) : ∃ ip, n.Covers ip := by
  cases n with
  | v4 n => exact ⟨.v4 n.addr, n.covers_self⟩
  | v6 n => exact ⟨.v6 n.addr, n.covers_self⟩

theorem nested_of_shared {a b : IpNet} {ip : IpAddr} (inA : a.Covers ip) (inB : b.Covers ip) :
    (∀ x, b.Covers x → a.Covers x) ∨ ∀ x, a.Covers x → b.Covers x := by
  cases a <;> cases b <;> cases ip
  all_goals first | exact inA.elim | exact inB.elim | skip
  all_goals
    rcases Network.nested_of_shared inA inB with sub | sub
    · refine Or.inl fun x covered => ?_
      cases x <;> first | exact covered.elim | exact sub _ covered
    · refine Or.inr fun x covered => ?_
      cases x <;> first | exact covered.elim | exact sub _ covered

end IpNet

/-- The operations of the `ipnet` crate that the program calls. -/
class Ipnet where
  trunc : IpNet → IpNet
  contains : IpNet → IpNet → Bool
  containsAddr : IpNet → IpAddr → Bool
  le : IpNet → IpNet → Bool

/-- What the crate documents of them: truncation to the prefix, and containment within one
family. -/
class Ipnet.Documented [Ipnet] : Prop where
  trunc_eq : ∀ n : IpNet, Ipnet.trunc n = n.truncated
  contains_iff : ∀ a b : IpNet, Ipnet.contains a b = true ↔ ∀ ip, b.Covers ip → a.Covers ip
  containsAddr_iff : ∀ (n : IpNet) (ip : IpAddr), Ipnet.containsAddr n ip = true ↔ n.Covers ip

end Hawse
