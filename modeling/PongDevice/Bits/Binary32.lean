import Mathlib.Algebra.Group.Nat.Defs

/-! The bits of a binary32 float that is converted from an integer, and the integer that such bits
are truncated to. A conversion rounds to the nearest number of 24 bits, ties to even.
-/

namespace PongDevice.Bits.Binary32

/-- The significand of a positive integer, from `2 ^ 23` up to `2 ^ 24`. -/
def significand (value : Nat) : Nat :=
  if value.log2 ≤ 23 then
    value * 2 ^ (23 - value.log2)
  else
    let unit := 2 ^ (value.log2 - 23)
    let quotient := value / unit
    let rest := value % unit
    if 2 * rest < unit ∨ 2 * rest = unit ∧ quotient % 2 = 0 then quotient else quotient + 1

/-- The exponent and the fraction. The leading bit of the significand counts the exponent up, and
so does a significand that has been rounded up to `2 ^ 24`.
-/
def magnitude (value : Nat) : Nat :=
  if value = 0 then 0 else (value.log2 + 126) * 2 ^ 23 + significand value

/-- `static_cast<float>` of an integer. -/
def ofInt (value : Int) : BitVec 32 :=
  BitVec.ofNat 32 ((if value < 0 then 2 ^ 31 else 0) + magnitude value.natAbs)

/-- The magnitude of a finite float without what stands behind the point. -/
def truncate (exponent fraction : Nat) : Nat :=
  if exponent < 127 then 0
  else if exponent ≤ 150 then (2 ^ 23 + fraction) / 2 ^ (150 - exponent)
  else (2 ^ 23 + fraction) * 2 ^ (exponent - 150)

/-- `static_cast<int>` of a finite float. -/
def toInt (bits : BitVec 32) : Int :=
  let whole : Int := truncate (bits.toNat / 2 ^ 23 % 2 ^ 8) (bits.toNat % 2 ^ 23)
  if bits.toNat < 2 ^ 31 then whole else -whole

/-- An integer of at most 24 bits has its own bits as significand. -/
theorem significand_bounds {value : Nat} (positive : value ≠ 0) (small : value < 2 ^ 24)
    : value.log2 ≤ 23
      ∧ significand value = value * 2 ^ (23 - value.log2)
      ∧ 2 ^ 23 ≤ significand value
      ∧ significand value < 2 ^ 24 := by
  have short : value.log2 < 24 := (Nat.log2_lt positive).mpr small
  have le : value.log2 ≤ 23 := by omega
  have low : 2 ^ value.log2 ≤ value := Nat.log2_self_le positive
  have high : value < 2 ^ (value.log2 + 1) := Nat.lt_log2_self
  have whole : 2 ^ value.log2 * 2 ^ (23 - value.log2) = 2 ^ 23 := by
    rw [← Nat.pow_add, Nat.add_sub_cancel' le]
  refine ⟨le, if_pos le, ?_, ?_⟩
  · rw [significand, if_pos le, ← whole]
    exact Nat.mul_le_mul_right _ low
  · rw [significand, if_pos le]
    calc
      value * 2 ^ (23 - value.log2) < 2 ^ (value.log2 + 1) * 2 ^ (23 - value.log2) :=
        Nat.mul_lt_mul_of_pos_right high (Nat.two_pow_pos _)
      _ = 2 * (2 ^ value.log2 * 2 ^ (23 - value.log2)) := by
        rw [Nat.pow_succ, Nat.mul_comm (2 ^ value.log2) 2, Nat.mul_assoc]
      _ = 2 ^ 24 := by rw [whole]; rfl

/-- The fields of the magnitude of an integer of at most 24 bits. -/
theorem magnitude_fields {value : Nat} (positive : value ≠ 0) (small : value < 2 ^ 24)
    : magnitude value / 2 ^ 23 = value.log2 + 127
      ∧ 2 ^ 23 + magnitude value % 2 ^ 23 = significand value
      ∧ magnitude value < 2 ^ 31 := by
  obtain ⟨short, -, low, high⟩ := significand_bounds positive small
  rw [magnitude, if_neg positive]
  omega

/-- The magnitude is truncated to the integer itself. -/
theorem truncate_magnitude {value : Nat} (small : value < 2 ^ 24)
    : truncate (magnitude value / 2 ^ 23 % 2 ^ 8) (magnitude value % 2 ^ 23) = value := by
  by_cases zero : value = 0
  · subst zero
    decide
  · obtain ⟨short, shifted, -, -⟩ := significand_bounds zero small
    obtain ⟨exponent, fraction, -⟩ := magnitude_fields zero small
    have field : magnitude value / 2 ^ 23 % 2 ^ 8 = value.log2 + 127 := by omega
    have shift : 150 - (value.log2 + 127) = 23 - value.log2 := by omega
    rw [field, truncate, if_neg (by omega), if_pos (by omega), fraction, shifted, shift]
    exact Nat.mul_div_cancel _ (Nat.two_pow_pos _)

/-- An integer of at most 24 bits survives the conversion to a float and back. -/
theorem toInt_ofInt {value : Int} (small : value.natAbs < 2 ^ 24) : toInt (ofInt value) = value := by
  have below : magnitude value.natAbs < 2 ^ 31 := by
    by_cases zero : value.natAbs = 0
    · rw [zero]
      decide
    · exact (magnitude_fields zero small).2.2
  have back := truncate_magnitude small
  unfold toInt ofInt
  by_cases negative : value < 0
  · have word
        : (2 ^ 31 + magnitude value.natAbs) % 2 ^ 32 = 2 ^ 31 + magnitude value.natAbs := by
      omega
    have exponent
        : (2 ^ 31 + magnitude value.natAbs) / 2 ^ 23 % 2 ^ 8
          = magnitude value.natAbs / 2 ^ 23 % 2 ^ 8 := by
      omega
    have fraction
        : (2 ^ 31 + magnitude value.natAbs) % 2 ^ 23 = magnitude value.natAbs % 2 ^ 23 := by
      omega
    rw [if_pos negative, BitVec.toNat_ofNat, word, exponent, fraction, back, if_neg (by omega)]
    omega
  · have word : magnitude value.natAbs % 2 ^ 32 = magnitude value.natAbs := by omega
    rw [if_neg negative, Nat.zero_add, BitVec.toNat_ofNat, word, back, if_pos below]
    omega

end PongDevice.Bits.Binary32
