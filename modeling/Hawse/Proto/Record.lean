import Mathlib.Tactic

namespace Hawse.Record

def dataTag : UInt8 := 0x00
def finishTag : UInt8 := 0x01
def resetTag : UInt8 := 0x02

def maxData : Nat := 65535

inductive Head
  | data (len : UInt16)
  | finish
  | reset (code : UInt32)
deriving DecidableEq

def headLen (tag : UInt8) : Option Nat :=
  if tag = dataTag then some 3
  else if tag = finishTag then some 1
  else if tag = resetTag then some 5
  else none

def u16FromLe (lo hi : UInt8) : UInt16 := UInt16.ofNat (lo.toNat + 256 * hi.toNat)

def u32FromLe (a b c d : UInt8) : UInt32 :=
  UInt32.ofNat (a.toNat + 256 * b.toNat + 65536 * c.toNat + 16777216 * d.toNat)

def decode : List UInt8 → Option Head
  | [tag, lo, hi] =>
      if tag = dataTag then
        let len := u16FromLe lo hi
        if len = 0 then none else some (.data len)
      else none
  | [tag] => if tag = finishTag then some .finish else none
  | [tag, a, b, c, d] => if tag = resetTag then some (.reset (u32FromLe a b c d)) else none
  | _ => none

def data (len : UInt16) : List UInt8 :=
  [dataTag, UInt8.ofNat len.toNat, UInt8.ofNat (len.toNat / 256)]

def reset (code : UInt32) : List UInt8 :=
  [resetTag, UInt8.ofNat code.toNat, UInt8.ofNat (code.toNat / 256),
    UInt8.ofNat (code.toNat / 65536), UInt8.ofNat (code.toNat / 16777216)]

theorem u16FromLe_toNat (lo hi : UInt8) : (u16FromLe lo hi).toNat = lo.toNat + 256 * hi.toNat := by
  have := lo.toNat_lt
  have := hi.toNat_lt
  simp only [u16FromLe, UInt16.toNat_ofNat']
  omega

theorem u16FromLe_data (len : UInt16) :
    u16FromLe (UInt8.ofNat len.toNat) (UInt8.ofNat (len.toNat / 256)) = len := by
  have := len.toNat_lt
  apply UInt16.toNat_inj.mp
  rw [u16FromLe_toNat]
  simp only [UInt8.toNat_ofNat']
  omega

theorem u32FromLe_reset (code : UInt32) :
    u32FromLe (UInt8.ofNat code.toNat) (UInt8.ofNat (code.toNat / 256))
      (UInt8.ofNat (code.toNat / 65536)) (UInt8.ofNat (code.toNat / 16777216)) = code := by
  have := code.toNat_lt
  apply UInt32.toNat_inj.mp
  simp only [u32FromLe, UInt32.toNat_ofNat', UInt8.toNat_ofNat']
  omega

theorem data_u16FromLe (lo hi : UInt8) : data (u16FromLe lo hi) = [dataTag, lo, hi] := by
  have := lo.toNat_lt
  have := hi.toNat_lt
  simp only [data, u16FromLe_toNat, List.cons.injEq, and_true, true_and]
  constructor <;> apply UInt8.toNat_inj.mp <;> simp only [UInt8.toNat_ofNat'] <;> omega

theorem reset_u32FromLe (a b c d : UInt8) : reset (u32FromLe a b c d) = [resetTag, a, b, c, d] := by
  have := a.toNat_lt
  have := b.toNat_lt
  have := c.toNat_lt
  have := d.toNat_lt
  have whole : (u32FromLe a b c d).toNat =
      a.toNat + 256 * b.toNat + 65536 * c.toNat + 16777216 * d.toNat := by
    simp only [u32FromLe, UInt32.toNat_ofNat']
    omega
  simp only [reset, whole, List.cons.injEq, and_true, true_and]
  refine ⟨?_, ?_, ?_, ?_⟩ <;> apply UInt8.toNat_inj.mp <;> simp only [UInt8.toNat_ofNat'] <;> omega

end Hawse.Record
