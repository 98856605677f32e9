import Mathlib.Tactic

namespace Hawse.Lib

/-- A block of `w`-bit addresses that share their first `prefixLen` bits with `addr`. -/
structure Network (w : Nat) where
  addr : BitVec w
  prefixLen : Nat
  prefixLen_le : prefixLen ≤ w
deriving DecidableEq

namespace Network
variable {w : Nat}

def leading (len : Nat) (a : BitVec w) : Nat := a.toNat / 2 ^ (w - len)

def Covers (n : Network w) (a : BitVec w) : Prop :=
  leading n.prefixLen a = leading n.prefixLen n.addr

instance (n : Network w) (a : BitVec w) : Decidable (n.Covers a) :=
  inferInstanceAs (Decidable (_ = _))

def trunc (n : Network w) : Network w :=
  { n with addr := BitVec.ofNat w (leading n.prefixLen n.addr * 2 ^ (w - n.prefixLen)) }

theorem covers_self (n : Network w) : n.Covers n.addr := rfl

theorem leading_trunc (n : Network w) :
    leading n.prefixLen n.trunc.addr = leading n.prefixLen n.addr := by
  have bound : leading n.prefixLen n.addr * 2 ^ (w - n.prefixLen) < 2 ^ w :=
    lt_of_le_of_lt (Nat.div_mul_le_self _ _) n.addr.isLt
  simp only [trunc, leading, BitVec.toNat_ofNat] at bound ⊢
  rw [Nat.mod_eq_of_lt bound, Nat.mul_div_cancel _ (Nat.two_pow_pos _)]

@[simp] theorem covers_trunc (n : Network w) (a : BitVec w) : n.trunc.Covers a ↔ n.Covers a := by
  change leading n.prefixLen a = leading n.prefixLen n.trunc.addr ↔ _
  rw [leading_trunc]
  rfl

theorem leading_of_le {short long : Nat} (le : short ≤ long) (fits : long ≤ w) (a : BitVec w) :
    leading short a = leading long a / 2 ^ (long - short) := by
  simp only [leading, Nat.div_div_eq_div_mul, ← pow_add]
  congr 2
  omega

theorem covers_of_shared {a b : Network w} (le : a.prefixLen ≤ b.prefixLen) {x : BitVec w}
    (inA : a.Covers x) (inB : b.Covers x) {y : BitVec w} (covered : b.Covers y) : a.Covers y := by
  unfold Covers at *
  calc leading a.prefixLen y
      = leading b.prefixLen y / 2 ^ (b.prefixLen - a.prefixLen) := leading_of_le le b.prefixLen_le y
    _ = leading b.prefixLen x / 2 ^ (b.prefixLen - a.prefixLen) := by rw [covered, inB]
    _ = leading a.prefixLen x := (leading_of_le le b.prefixLen_le x).symm
    _ = leading a.prefixLen a.addr := inA

theorem nested_of_shared {a b : Network w} {x : BitVec w} (inA : a.Covers x) (inB : b.Covers x) :
    (∀ y, b.Covers y → a.Covers y) ∨ ∀ y, a.Covers y → b.Covers y := by
  rcases le_total a.prefixLen b.prefixLen with le | le
  · exact Or.inl fun _ covered => covers_of_shared le inA inB covered
  · exact Or.inr fun _ covered => covers_of_shared le inB inA covered

theorem exists_leading_ne {short long : Nat} (lt : short < long) (fits : long ≤ w) (a : BitVec w) :
    ∃ x y : BitVec w, leading short x = leading short a ∧ leading short y = leading short a ∧
      leading long x ≠ leading long y := by
  obtain ⟨gap, rfl⟩ : ∃ gap, long = short + (gap + 1) := ⟨long - short - 1, by omega⟩
  obtain ⟨tail, rfl⟩ : ∃ tail, w = short + (gap + 1) + tail := ⟨w - (short + (gap + 1)), by omega⟩
  have size : short + (gap + 1) + tail - short = gap + 1 + tail := by omega
  have rest : short + (gap + 1) + tail - (short + (gap + 1)) = tail := by omega
  have pos := Nat.two_pow_pos tail
  have one : 2 ^ tail < 2 ^ (gap + 1 + tail) := Nat.pow_lt_pow_right (by omega) (by omega)
  have fit : (a.toNat / 2 ^ (gap + 1 + tail) + 1) * 2 ^ (gap + 1 + tail) ≤
      2 ^ (short + (gap + 1) + tail) := by
    have split : 2 ^ (short + (gap + 1) + tail) = 2 ^ short * 2 ^ (gap + 1 + tail) := by
      rw [← pow_add]
      congr 1
      omega
    rw [split]
    have top : a.toNat / 2 ^ (gap + 1 + tail) < 2 ^ short :=
      Nat.div_lt_of_lt_mul (by rw [mul_comm, ← split]; exact a.isLt)
    exact Nat.mul_le_mul_right _ top
  let base := a.toNat / 2 ^ (gap + 1 + tail) * 2 ^ (gap + 1 + tail)
  have step : (a.toNat / 2 ^ (gap + 1 + tail) + 1) * 2 ^ (gap + 1 + tail) =
      base + 2 ^ (gap + 1 + tail) := by rw [Nat.add_mul, one_mul]
  refine ⟨BitVec.ofNat _ base, BitVec.ofNat _ (base + 2 ^ tail), ?_, ?_, ?_⟩
  all_goals simp only [leading, size, rest, BitVec.toNat_ofNat]
  · rw [Nat.mod_eq_of_lt (by omega), Nat.mul_div_cancel _ (Nat.two_pow_pos _)]
  · rw [Nat.mod_eq_of_lt (by omega), Nat.add_comm, Nat.add_mul_div_right _ _ (Nat.two_pow_pos _),
      Nat.div_eq_of_lt one, Nat.zero_add]
  · rw [Nat.mod_eq_of_lt (by omega), Nat.mod_eq_of_lt (by omega), Nat.add_div_right _ pos]
    omega

theorem subset_iff (a b : Network w) :
    (∀ x, b.Covers x → a.Covers x) ↔ a.prefixLen ≤ b.prefixLen ∧ a.Covers b.addr := by
  constructor
  · intro sub
    refine ⟨?_, sub _ b.covers_self⟩
    by_contra longer
    obtain ⟨x, y, inX, inY, differ⟩ :=
      exists_leading_ne (not_le.mp longer) a.prefixLen_le b.addr
    exact differ ((sub x inX).trans (sub y inY).symm)
  · rintro ⟨le, inA⟩ x covered
    exact covers_of_shared le inA b.covers_self covered

end Network
end Hawse.Lib
