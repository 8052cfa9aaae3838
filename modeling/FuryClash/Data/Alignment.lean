import Mathlib.Algebra.Order.Ring.Nat
import Mathlib.Data.Nat.Bitwise

namespace FuryClash.Data

/-! Rounding up to a multiple, and clearing the low bits of a word. -/

def roundUp (value align : Nat) : Nat := (value + align - 1) / align * align

variable {value align : Nat}

theorem dvd_roundUp (value align : Nat) : align ∣ roundUp value align :=
  Nat.dvd_mul_left ..

theorem le_roundUp (positive : 0 < align) : value ≤ roundUp value align := by
  have rest := Nat.mod_add_div (value + align - 1) align
  have small := Nat.mod_lt (value + align - 1) positive
  rw [roundUp, Nat.mul_comm]
  omega

theorem roundUp_le (value align : Nat) :
    roundUp value align ≤ value + align - 1 :=
  Nat.div_mul_le_self ..

theorem roundUp_zero (positive : 0 < align) : roundUp 0 align = 0 := by
  rw [roundUp, Nat.div_eq_of_lt (by omega), Nat.zero_mul]

theorem le_roundUp_of_dvd {bound : Nat} (divides : align ∣ bound)
    (reached : bound ≤ value + align - 1) : bound ≤ roundUp value align := by
  obtain ⟨times, rfl⟩ := divides
  rw [roundUp, Nat.mul_comm align]
  rcases Nat.eq_zero_or_pos align with rfl | positive
  · exact Nat.zero_le _
  · refine Nat.mul_le_mul_right align ?_
    rwa [Nat.le_div_iff_mul_le positive, Nat.mul_comm]

theorem toNat_and_not_mask {width k : Nat} {mask : BitVec width}
    (low : mask.toNat = 2 ^ k - 1) (word : BitVec width) :
    (word &&& ~~~mask).toNat = word.toNat / 2 ^ k * 2 ^ k := by
  apply Nat.eq_of_testBit_eq
  intro i
  rw [← Nat.shiftRight_eq_div_pow, ← Nat.shiftLeft_eq, Nat.testBit_shiftLeft,
    Nat.testBit_shiftRight, ← BitVec.getLsbD, BitVec.getLsbD_and,
    BitVec.getLsbD_not]
  have cleared : mask.getLsbD i = decide (i < k) := by
    rw [BitVec.getLsbD, low, Nat.testBit_two_pow_sub_one]
  rw [cleared]
  by_cases high : k ≤ i
  · rw [Nat.add_sub_cancel' high, ← BitVec.getLsbD]
    by_cases inside : i < width
    · simp [inside, high]
    · simp [BitVec.getLsbD_of_ge word i (Nat.not_lt.mp inside)]
  · simp [high, Nat.not_le.mp high]

end FuryClash.Data
