import Mathlib.Algebra.Ring.Nat
import Mathlib.Data.List.Basic

namespace FuryClash.Data

/-! Unsigned integers as bytes, least significant first. -/

def leNat : List UInt8 → Nat
  | [] => 0
  | byte :: rest => byte.toNat + 256 * leNat rest

def leBytes : (width value : Nat) → List UInt8
  | 0, _ => []
  | width + 1, value => UInt8.ofNat value :: leBytes width (value / 256)

@[simp] theorem leBytes_length (width value : Nat) :
    (leBytes width value).length = width := by
  induction width generalizing value with
  | zero => rfl
  | succ width ih => simp [leBytes, ih]

theorem leNat_leBytes {width value : Nat} (fits : value < 256 ^ width) :
    leNat (leBytes width value) = value := by
  induction width generalizing value with
  | zero =>
      rw [Nat.pow_zero, Nat.lt_one_iff] at fits
      rw [fits]
      rfl
  | succ width ih =>
      have rest : value / 256 < 256 ^ width := by
        rw [Nat.div_lt_iff_lt_mul (by decide), ← Nat.pow_succ]
        exact fits
      have low : (UInt8.ofNat value).toNat = value % 256 := by
        simp [UInt8.toNat_ofNat']
      rw [leBytes, leNat, ih rest, low]
      exact Nat.mod_add_div value 256

theorem leNat_lt (bytes : List UInt8) : leNat bytes < 256 ^ bytes.length := by
  induction bytes with
  | nil => exact Nat.one_pos
  | cons byte rest ih =>
      have small := byte.toNat_lt
      rw [leNat, List.length_cons, Nat.pow_succ]
      omega

/-- The other bytes of a word lie above the bits of the first. -/
theorem or_shiftLeft {low width : Nat} (small : low < 2 ^ width)
    (high : Nat) : low ||| high <<< width = low + high * 2 ^ width := by
  rw [Nat.or_comm, ← Nat.shiftLeft_add_eq_or_of_lt small, Nat.shiftLeft_eq,
    Nat.add_comm]

theorem or_halves {width value : Nat}
    (fits : value < 2 ^ width * 2 ^ width) :
    value % 2 ^ width |||
      (value >>> width % 2 ^ width) <<< width % (2 ^ width * 2 ^ width) =
        value := by
  have high : value / 2 ^ width < 2 ^ width := Nat.div_lt_of_lt_mul fits
  have whole : value / 2 ^ width * 2 ^ width ≤ value := Nat.div_mul_le_self ..
  rw [Nat.shiftRight_eq_div_pow, Nat.mod_eq_of_lt high, Nat.shiftLeft_eq,
    Nat.mod_eq_of_lt (Nat.lt_of_le_of_lt whole fits), ← Nat.shiftLeft_eq,
    or_shiftLeft (Nat.mod_lt _ (Nat.two_pow_pos _)), Nat.mul_comm]
  exact Nat.mod_add_div ..

/-- The number that `width` bytes from `offset` on hold. -/
def leWindow (data : List UInt8) (offset width : Nat) : Nat :=
  leNat ((data.drop offset).take width)

theorem leWindow_append {offset width : Nat} (front window rest : List UInt8)
    (at_front : front.length = offset) (wide : window.length = width) :
    leWindow (front ++ (window ++ rest)) offset width = leNat window := by
  rw [leWindow, ← at_front, List.drop_left, ← wide, List.take_left]

theorem leWindow_lt (data : List UInt8) (offset width : Nat) :
    leWindow data offset width < 256 ^ width := by
  have bound := leNat_lt ((data.drop offset).take width)
  have short : ((data.drop offset).take width).length ≤ width :=
    List.length_take_le ..
  exact Nat.lt_of_lt_of_le bound (Nat.pow_le_pow_right (by decide) short)

end FuryClash.Data
