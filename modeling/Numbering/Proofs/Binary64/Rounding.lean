import Mathlib.Tactic.Linarith
import Mathlib.Tactic.NormNum
import Numbering.Proofs.Binary64.Powers

/-!
# Rounding to magnitudes

A magnitude is the nearest one to its own value (`roundMagnitude?_toRat`), because canonical parts
are those that rounding picks. From `2 ^ 1024` on there is no magnitude, and below half of the least
magnitude the nearest one is zero.
-/

namespace Numbering

/-- An integer is its own nearest integer. -/
theorem nearestEven_intCast (number : Int) : nearestEven (number : Rat) = number := by
  unfold nearestEven
  dsimp only
  rw [Rat.floor_intCast, sub_self, mul_zero]
  exact if_pos zero_lt_one

/-- A number below one half is rounded to zero. -/
theorem nearestEven_eq_zero {number : Rat} (hnonneg : 0 ≤ number) (hsmall : 2 * number < 1) :
    nearestEven number = 0 := by
  have hlow : 0 ≤ number.floor := Rat.le_floor_iff.2 hnonneg
  have hhigh : number.floor < 1 := Rat.floor_lt_iff.2 (by rw [Int.cast_one]; linarith)
  have hfloor : number.floor = 0 := by omega
  unfold nearestEven
  dsimp only
  rw [hfloor, Int.cast_zero, sub_zero]
  exact if_pos hsmall

namespace Magnitude

variable {magnitude : Magnitude}

/-- A magnitude is positive unless its significand is zero. -/
theorem toRat_pos (hsignificand : magnitude.significand ≠ 0) : 0 < magnitude.toRat :=
  mul_pos (Nat.cast_pos.2 (Nat.pos_of_ne_zero hsignificand)) (powerOfTwo_pos _)

/-- Only one magnitude has the significand zero. -/
theorem eq_zero (hsignificand : magnitude.significand = 0) : magnitude = .zero := by
  obtain ⟨significand, exponent, canonical⟩ := magnitude
  cases hsignificand
  obtain ⟨-, -, -, hleading | hexponent⟩ := canonical
  · cases hleading
  · cases hexponent
    rfl

/-- A magnitude is made of its own significand and exponent. -/
theorem ofParts?_self (magnitude : Magnitude) :
    ofParts? magnitude.significand magnitude.exponent = some magnitude :=
  dif_pos magnitude.canonical

end Magnitude

namespace BinaryFormat

/-- The last bit of a magnitude is the one that rounding its value to double precision keeps
last. -/
theorem unitExponent_toRat {magnitude : Magnitude} (hsignificand : magnitude.significand ≠ 0) :
    double.unitExponent magnitude.toRat = magnitude.exponent := by
  have hpos := Magnitude.toRat_pos hsignificand
  have hunit : (0 : Rat) < 2 ^ magnitude.exponent := zpow_pos (by decide) _
  obtain ⟨hbits, hleast, -, hleading⟩ := magnitude.canonical
  -- The significand has at most 53 bits, so the value lies below the power after the last one.
  have hhigh : Int.log 2 magnitude.toRat < 53 + magnitude.exponent := by
    refine (Int.lt_zpow_iff_log_lt (by decide) hpos).1 ?_
    have hbits : (magnitude.significand : Rat) < 2 ^ (53 : Int) := by
      exact_mod_cast (by exact hbits : magnitude.significand < 2 ^ 53)
    rw [Magnitude.toRat, powerOfTwo_eq, Nat.cast_ofNat, zpow_add₀ (by decide)]
    exact mul_lt_mul_of_pos_right hbits hunit
  unfold unitExponent
  rw [floorLog2_eq hpos]
  show max (-1074) (Int.log 2 magnitude.toRat - 52) = magnitude.exponent
  change -1074 ≤ magnitude.exponent at hleast
  rcases hleading with hleading | hexponent
  · have hlow : 52 + magnitude.exponent ≤ Int.log 2 magnitude.toRat := by
      refine (Int.zpow_le_iff_le_log (by decide) hpos).1 ?_
      have hleading : (2 : Rat) ^ (52 : Int) ≤ magnitude.significand := by
        exact_mod_cast (by exact hleading : 2 ^ 52 ≤ magnitude.significand)
      rw [Magnitude.toRat, powerOfTwo_eq, Nat.cast_ofNat, zpow_add₀ (by decide)]
      exact mul_le_mul_of_nonneg_right hleading hunit.le
    omega
  · change magnitude.exponent = -1074 at hexponent
    omega

/-- Rounding the value of a magnitude gives its parts. -/
theorem round_toRat {magnitude : Magnitude} (hsignificand : magnitude.significand ≠ 0) :
    double.round magnitude.toRat = (magnitude.significand, magnitude.exponent) := by
  have hquotient : magnitude.toRat / powerOfTwo magnitude.exponent =
      ((magnitude.significand : Int) : Rat) := by
    rw [Magnitude.toRat, mul_div_cancel_right₀ _ (powerOfTwo_pos _).ne', Int.cast_natCast]
  have hbits : magnitude.significand ≠ Nat.pow 2 double.precision :=
    ne_of_lt (by exact magnitude.canonical.1)
  unfold round
  dsimp only
  rw [unitExponent_toRat hsignificand, hquotient, nearestEven_intCast, Int.toNat_natCast]
  exact if_neg hbits

end BinaryFormat

namespace Binary64

/-- The magnitude that is nearest to the value of a magnitude is this magnitude. -/
theorem roundMagnitude?_toRat (magnitude : Magnitude) :
    roundMagnitude? magnitude.toRat = some magnitude := by
  unfold roundMagnitude?
  by_cases hsignificand : magnitude.significand = 0
  · rw [Magnitude.eq_zero hsignificand]
    exact if_pos (zero_mul _)
  · rw [if_neg (Magnitude.toRat_pos hsignificand).ne', BinaryFormat.round_toRat hsignificand]
    exact magnitude.ofParts?_self

/-- There is no magnitude for a number from `2 ^ 1024` on. -/
theorem roundMagnitude?_of_large {number : Rat} (hlarge : (2 : Rat) ^ (1024 : Int) ≤ number) :
    roundMagnitude? number = none := by
  have hpos : 0 < number := (zpow_pos (by decide) _).trans_le hlarge
  have hlog : 1024 ≤ floorLog2 number := by
    rw [floorLog2_eq hpos]
    exact (Int.zpow_le_iff_le_log (by decide) hpos).1 hlarge
  have hunit : greatestExponent < BinaryFormat.double.unitExponent number := by
    have hmax := Int.le_max_right leastExponent (floorLog2 number - 52)
    show 971 < max leastExponent (floorLog2 number - 52)
    omega
  -- A carry into a new bit can only raise the exponent.
  have hexponent : greatestExponent < (BinaryFormat.double.round number).2 := by
    unfold BinaryFormat.round
    dsimp only
    split
    · exact hunit.trans (Int.lt_succ _)
    · exact hunit
  unfold roundMagnitude?
  rw [if_neg hpos.ne']
  refine dif_neg ?_
  rintro ⟨-, -, hgreatest, -⟩
  exact absurd hgreatest hexponent.not_ge

/-- A number below half of the least magnitude is rounded to zero. -/
theorem roundMagnitude?_of_small {number : Rat} (hnonneg : 0 ≤ number)
    (hsmall : number < (2 : Rat) ^ (-1075 : Int)) : roundMagnitude? number = some .zero := by
  unfold roundMagnitude?
  by_cases hzero : number = 0
  · exact if_pos hzero
  · have hpos : 0 < number := lt_of_le_of_ne hnonneg (Ne.symm hzero)
    have hlog : floorLog2 number < -1075 := by
      rw [floorLog2_eq hpos]
      exact (Int.lt_zpow_iff_log_lt (by decide) hpos).1 hsmall
    have hunit : BinaryFormat.double.unitExponent number = -1074 := by
      show max (-1074) (floorLog2 number - 52) = -1074
      omega
    have hquotient : nearestEven (number / powerOfTwo (-1074)) = 0 := by
      refine nearestEven_eq_zero (div_nonneg hnonneg (powerOfTwo_pos _).le) ?_
      have hhalf : (2 : Rat) ^ (-1075 : Int) = 2 ^ (-1074 : Int) / 2 := by
        rw [div_eq_mul_inv, ← zpow_sub_one₀ (by decide)]
        rfl
      rw [← mul_div_assoc, div_lt_one (powerOfTwo_pos _), powerOfTwo_eq]
      rw [hhalf] at hsmall
      linarith
    have hround : BinaryFormat.double.round number = (0, -1074) := by
      unfold BinaryFormat.round
      dsimp only
      rw [hunit, hquotient]
      exact if_neg (by decide)
    rw [if_neg hzero, hround]
    rfl

/-- What is rounded to a magnitude other than zero is not zero. -/
theorem pos_of_roundMagnitude? {number : Rat} {magnitude : Magnitude} (hnonneg : 0 ≤ number)
    (hsignificand : magnitude.significand ≠ 0)
    (hround : roundMagnitude? number = some magnitude) : 0 < number := by
  refine lt_of_le_of_ne hnonneg ?_
  rintro rfl
  cases hround
  exact hsignificand rfl

end Binary64

end Numbering
