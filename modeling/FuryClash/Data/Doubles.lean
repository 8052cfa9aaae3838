import Mathlib.Algebra.Order.Field.Power
import Mathlib.Data.Rat.Floor

namespace FuryClash.Data

/-! Rounding to the 53 bits of a binary64, halfway cases to the even one. -/

/-- The nearest integer, and of two the even one. -/
def roundEven (value : Rat) : Int :=
  let below := value.floor
  if value - below < 1 / 2 then below
  else if 1 / 2 < value - below then below + 1
  else if below % 2 = 0 then below
  else below + 1

/-- The exponent of the first bit of a positive number. -/
def firstBit (magnitude : Rat) : Int :=
  let guess : Int := magnitude.num.natAbs.log2 - magnitude.den.log2
  if (2 : Rat) ^ guess ≤ magnitude then guess else guess - 1

/-- The exponent of the last bit that is kept. -/
def lastBit (magnitude : Rat) : Int := max (firstBit magnitude) (-1022) - 52

def roundMagnitude (magnitude : Rat) : Rat :=
  roundEven (magnitude / 2 ^ lastBit magnitude) * 2 ^ lastBit magnitude

/-- The nearest value of a binary64 that has no largest exponent. -/
def roundDouble (value : Rat) : Rat :=
  if value = 0 then 0
  else if value < 0 then -roundMagnitude (-value)
  else roundMagnitude value

variable {value other : Rat}

theorem floor_le_roundEven (value : Rat) : ⌊value⌋ ≤ roundEven value := by
  rw [roundEven]
  split_ifs
  · exact le_rfl
  · exact (lt_add_one _).le
  · exact le_rfl
  · exact (lt_add_one _).le

theorem roundEven_le_succ (value : Rat) :
    roundEven value ≤ ⌊value⌋ + 1 := by
  rw [roundEven]
  split_ifs
  · exact (lt_add_one _).le
  · exact le_rfl
  · exact (lt_add_one _).le
  · exact le_rfl

theorem roundEven_intCast (whole : Int) : roundEven whole = whole := by
  rw [roundEven, Rat.floor_intCast, if_pos]
  rw [sub_self]
  exact half_pos one_pos

theorem roundEven_mono (order : value ≤ other) :
    roundEven value ≤ roundEven other := by
  rcases (Int.floor_mono order).lt_or_eq with apart | same
  · calc roundEven value ≤ ⌊value⌋ + 1 := roundEven_le_succ value
      _ ≤ ⌊other⌋ := apart
      _ ≤ roundEven other := floor_le_roundEven other
  · have same' : value.floor = other.floor := same
    have fractions : value - other.floor ≤ other - other.floor :=
      sub_le_sub_right order _
    rw [roundEven, roundEven, same']
    split_ifs <;> first | omega | linarith

theorem roundEven_le {whole : Int} (below : value ≤ whole) :
    roundEven value ≤ whole :=
  (roundEven_mono below).trans_eq (roundEven_intCast whole)

theorem le_roundEven {whole : Int} (above : whole ≤ value) :
    whole ≤ roundEven value :=
  (roundEven_intCast whole).symm.trans_le (roundEven_mono above)

/-- A fraction lies between the quotients of the powers of two around its
parts. -/
theorem log2_bounds (positive : 0 < value) :
    (2 : Rat) ^ ((value.num.natAbs.log2 : Int) - value.den.log2 - 1) < value ∧
      value < 2 ^ ((value.num.natAbs.log2 : Int) - value.den.log2 + 1) := by
  have num_pos : 0 < value.num := Rat.num_pos.mpr positive
  have num_ne : value.num.natAbs ≠ 0 := by omega
  have den_ne := value.den_nz
  have den_pos : (0 : Rat) < value.den := by exact_mod_cast value.den_pos
  have parts : value = (value.num.natAbs : Rat) / value.den := by
    rw [Nat.cast_natAbs, abs_of_pos num_pos]
    exact (Rat.num_div_den value).symm
  have num_ge : (2 : Rat) ^ value.num.natAbs.log2 ≤ value.num.natAbs := by
    exact_mod_cast Nat.log2_self_le num_ne
  have num_lt :
      (value.num.natAbs : Rat) < 2 ^ (value.num.natAbs.log2 + 1) := by
    exact_mod_cast Nat.lt_log2_self
  have den_ge : (2 : Rat) ^ value.den.log2 ≤ value.den := by
    exact_mod_cast Nat.log2_self_le den_ne
  have den_lt : (value.den : Rat) < 2 ^ (value.den.log2 + 1) := by
    exact_mod_cast Nat.lt_log2_self
  generalize value.num.natAbs.log2 = n at *
  generalize value.den.log2 = d at *
  constructor
  · have split : (2 : Rat) ^ ((n : Int) - d - 1) = 2 ^ n / 2 ^ (d + 1) := by
      rw [sub_sub, zpow_sub₀ two_ne_zero]
      norm_cast
    rw [split, parts, div_lt_div_iff₀ (by positivity) den_pos]
    calc (2 : Rat) ^ n * value.den < 2 ^ n * 2 ^ (d + 1) := by gcongr
      _ ≤ value.num.natAbs * 2 ^ (d + 1) := by gcongr
  · have split : (2 : Rat) ^ ((n : Int) - d + 1) = 2 ^ (n + 1) / 2 ^ d := by
      rw [sub_add_eq_add_sub, zpow_sub₀ two_ne_zero]
      norm_cast
    rw [split, parts, div_lt_div_iff₀ den_pos (by positivity)]
    calc (value.num.natAbs : Rat) * 2 ^ d < 2 ^ (n + 1) * 2 ^ d := by gcongr
      _ ≤ 2 ^ (n + 1) * value.den := by gcongr

theorem firstBit_le (positive : 0 < value) :
    (2 : Rat) ^ firstBit value ≤ value := by
  rw [firstBit]
  split
  next enough => exact enough
  next => exact (log2_bounds positive).1.le

theorem lt_firstBit (positive : 0 < value) :
    value < (2 : Rat) ^ (firstBit value + 1) := by
  rw [firstBit]
  split
  next => exact (log2_bounds positive).2
  next short =>
    rw [sub_add_cancel]
    exact not_le.mp short

theorem firstBit_mono (positive : 0 < value) (order : value ≤ other) :
    firstBit value ≤ firstBit other := by
  have below : (2 : Rat) ^ firstBit value < 2 ^ (firstBit other + 1) :=
    calc (2 : Rat) ^ firstBit value ≤ value := firstBit_le positive
      _ ≤ other := order
      _ < 2 ^ (firstBit other + 1) := lt_firstBit (positive.trans_le order)
  exact Int.lt_add_one_iff.mp ((zpow_lt_zpow_iff_right₀ one_lt_two).mp below)

/-- A power of two that has no bit behind the last one is a whole number of
them. -/
theorem exists_steps {last exponent : Int} (kept : last ≤ exponent) :
    ∃ steps : Int, (2 : Rat) ^ exponent / 2 ^ last = steps := by
  obtain ⟨shift, steps⟩ := Int.le.dest kept
  refine ⟨2 ^ shift, ?_⟩
  rw [← zpow_sub₀ two_ne_zero, ← steps, add_sub_cancel_left]
  norm_cast

theorem roundMagnitude_le {exponent : Int} (kept : lastBit value ≤ exponent)
    (below : value ≤ 2 ^ exponent) : roundMagnitude value ≤ 2 ^ exponent := by
  have unit_pos : (0 : Rat) < 2 ^ lastBit value := by positivity
  obtain ⟨steps, whole⟩ := exists_steps kept
  rw [roundMagnitude, ← le_div_iff₀ unit_pos, whole]
  refine Int.cast_le.mpr (roundEven_le ?_)
  rw [← whole]
  gcongr

theorem le_roundMagnitude {exponent : Int} (kept : lastBit value ≤ exponent)
    (above : 2 ^ exponent ≤ value) : 2 ^ exponent ≤ roundMagnitude value := by
  have unit_pos : (0 : Rat) < 2 ^ lastBit value := by positivity
  obtain ⟨steps, whole⟩ := exists_steps kept
  rw [roundMagnitude, ← div_le_iff₀ unit_pos, whole]
  refine Int.cast_le.mpr (le_roundEven ?_)
  rw [← whole]
  gcongr

theorem roundMagnitude_nonneg (nonneg : 0 ≤ value) :
    0 ≤ roundMagnitude value := by
  refine mul_nonneg (Int.cast_nonneg (le_roundEven ?_)) (by positivity)
  rw [Int.cast_zero]
  positivity

theorem roundMagnitude_mono (positive : 0 < value) (order : value ≤ other) :
    roundMagnitude value ≤ roundMagnitude other := by
  have bits := firstBit_mono positive order
  by_cases same : lastBit value = lastBit other
  · rw [roundMagnitude, roundMagnitude, same]
    gcongr
    exact roundEven_mono (by gcongr)
  · -- the first bit of `other` lies between the two
    have later : firstBit value + 1 ≤ firstBit other ∧
        -1022 ≤ firstBit other := by
      rw [lastBit, lastBit] at same
      omega
    have below : value ≤ 2 ^ firstBit other :=
      (lt_firstBit positive).le.trans
        (zpow_le_zpow_right₀ one_le_two later.1)
    calc roundMagnitude value ≤ 2 ^ firstBit other :=
          roundMagnitude_le (by rw [lastBit]; omega) below
      _ ≤ roundMagnitude other :=
          le_roundMagnitude (by rw [lastBit]; omega)
            (firstBit_le (positive.trans_le order))

theorem roundDouble_mono (order : value ≤ other) :
    roundDouble value ≤ roundDouble other := by
  rcases lt_trichotomy value 0 with below | rfl | above
  · rw [roundDouble, if_neg below.ne, if_pos below]
    have lower := roundMagnitude_nonneg (neg_nonneg.mpr below.le)
    rw [roundDouble]
    split_ifs with zero negative
    · exact neg_nonpos.mpr lower
    · exact neg_le_neg
        (roundMagnitude_mono (neg_pos.mpr negative) (neg_le_neg order))
    · exact (neg_nonpos.mpr lower).trans
        (roundMagnitude_nonneg (not_lt.mp negative))
  · rw [roundDouble, if_pos rfl, roundDouble, if_neg order.not_gt]
    split_ifs
    · exact le_rfl
    · exact roundMagnitude_nonneg order
  · have positive := above.trans_le order
    rw [roundDouble, if_neg above.ne', if_neg above.not_gt, roundDouble,
      if_neg positive.ne', if_neg positive.not_gt]
    exact roundMagnitude_mono above order

end FuryClash.Data
