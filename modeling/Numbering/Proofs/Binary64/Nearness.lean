import Mathlib.Tactic.Positivity
import Numbering.Proofs.Binary64.Scaling

/-!
# Numbers near a magnitude

Rounding moves a number by at most half a unit of its last place
(`Binary64.abs_toRat_sub_le`). The other way round, a number that is off a magnitude by at most one
part in `2 * 10 ^ 16` is rounded back to it (`Binary64.roundMagnitude?_of_near`): that is less than
half the distance to the next magnitude above, and also below a power of two, where the distance is
only half as large. A quotient of integers below `2 ^ 53` is not near enough to the next integer to
be rounded to it, so that its integer part is exact (`Binary64.truncate_ofNat_div_ofNat_of_lt`).
-/

namespace Numbering

/-! ## Rounding to an integer -/

/-- Rounding moves a number by at most one half. -/
theorem abs_nearestEven_sub_le (number : Rat) :
    |(nearestEven number : Rat) - number| ≤ 1 / 2 := by
  have hlow := Rat.floor_le number
  have hhigh := Rat.lt_floor_add_one number
  unfold nearestEven
  dsimp only
  push_cast at hhigh
  split
  · rw [abs_le]
    constructor <;> linarith
  · split
    · push_cast
      rw [abs_le]
      constructor <;> linarith
    · split
      · rw [abs_le]
        constructor <;> linarith
      · push_cast
        rw [abs_le]
        constructor <;> linarith

/-- A number is rounded to an integer that is less than one half away. -/
theorem nearestEven_of_near {number : Rat} {integer : Int}
    (hnear : |number - integer| < 1 / 2) : nearestEven number = integer := by
  have hrounded := abs_nearestEven_sub_le number
  have hclose : |(nearestEven number : Rat) - integer| < 1 := by
    calc |(nearestEven number : Rat) - integer|
        ≤ |(nearestEven number : Rat) - number| + |number - integer| := abs_sub_le _ _ _
      _ < 1 := by linarith
  have hsame : |nearestEven number - integer| < 1 := by exact_mod_cast hclose
  exact sub_eq_zero.1 (Int.abs_lt_one_iff.1 hsame)

namespace BinaryFormat

/-- A number that is less than half a unit of its last place away from a multiple of it is rounded
to this multiple. -/
theorem round_of_near {number : Rat} {exponent : Int} {significand : Nat}
    (hunit : double.unitExponent number = exponent)
    (hnear : |number / powerOfTwo exponent - significand| < 1 / 2) :
    double.round number =
      if significand = 2 ^ 53 then (2 ^ 52, exponent + 1) else (significand, exponent) := by
  have hrounded : nearestEven (number / powerOfTwo exponent) = (significand : Int) :=
    nearestEven_of_near (by exact_mod_cast hnear)
  unfold round
  dsimp only
  rw [hunit, hrounded, Int.toNat_natCast]
  rfl

section Parts

variable {number : Rat} {significand : Nat} {exponent : Int}
  (hnear : 2 * 10 ^ 16 * |number / powerOfTwo exponent - significand| ≤ significand)

include hnear

/-- A number that is nearly a multiple of a power of two is nearly that multiple when it is measured
in that power. -/
theorem bounds_of_near :
    (significand : Rat) - significand / 20000000000000000 ≤ number / powerOfTwo exponent ∧
      number / powerOfTwo exponent ≤ significand + significand / 20000000000000000 := by
  obtain ⟨hbelow, habove⟩ := abs_le.1 ((le_div_iff₀' (by norm_num)).2 hnear)
  norm_num at hbelow habove
  constructor <;> linarith

/-- The number does not reach the next power of two. -/
theorem lt_zpow_of_near (hbits : significand < 2 ^ 53) : number < 2 ^ (exponent + 53) := by
  obtain ⟨-, habove⟩ := bounds_of_near hnear
  have hhigh : (significand : Rat) + 1 ≤ 2 ^ 53 := by exact_mod_cast hbits
  rw [add_comm, zpow_add₀ (by decide), ← powerOfTwo_eq exponent,
    ← div_lt_iff₀ (powerOfTwo_pos exponent)]
  norm_num at hhigh ⊢
  linarith only [habove, hhigh]

/-- A number below the least significand of the binade is near to this one only. -/
theorem eq_two_pow_of_near (hleading : 2 ^ 52 ≤ significand)
    (hlow : number / powerOfTwo exponent < 2 ^ 52) : significand = 2 ^ 52 := by
  obtain ⟨hbelow, -⟩ := bounds_of_near hnear
  have hsmall : (significand : Rat) < (2 ^ 52 + 1 : Nat) := by
    push_cast
    linarith only [hbelow, hlow]
  have hlt : significand < 2 ^ 52 + 1 := by exact_mod_cast hsmall
  omega

/-- A number that is off canonical parts by at most one part in `2 * 10 ^ 16` has these parts when
it is rounded. -/
theorem round_of_near_parts (hcanonical : Binary64.Canonical significand exponent)
    (hpos : 0 < significand) : double.round number = (significand, exponent) := by
  obtain ⟨hbits, hleast, -, hleading⟩ := hcanonical
  change significand < 2 ^ 53 at hbits
  change -1074 ≤ exponent at hleast
  change 2 ^ 52 ≤ significand ∨ exponent = -1074 at hleading
  have hhigh : (significand : Rat) + 1 ≤ 2 ^ 53 := by exact_mod_cast hbits
  have hone : (1 : Rat) ≤ significand := by exact_mod_cast hpos
  obtain ⟨hbelow, habove⟩ := bounds_of_near hnear
  have hnumber := lt_zpow_of_near hnear hbits
  have hunit := powerOfTwo_pos exponent
  by_cases hlow : (2 : Rat) ^ (exponent + 52) ≤ number ∨ exponent = -1074
  · have hlast : double.unitExponent number = exponent := by
      rcases hlow with hlow | rfl
      · exact unitExponent_of_bounds hleast hlow hnumber
      · have hnumberPos : 0 < number := by
          have hscaled : 0 < number / powerOfTwo (-1074) := by linarith
          exact (div_pos_iff_of_pos_right hunit).1 hscaled
        have hlog := (Int.lt_zpow_iff_log_lt (by decide) hnumberPos).1 hnumber
        rw [← floorLog2_eq hnumberPos] at hlog
        show max (-1074) (floorLog2 number - 52) = -1074
        omega
    rw [round_of_near hlast, if_neg hbits.ne]
    rw [abs_lt]
    norm_num at hhigh
    constructor <;> linarith only [hbelow, habove, hhigh]
  · -- Below the power of two the last place is half as large, and rounding carries.
    obtain ⟨hbelowPower, hexponent⟩ := not_or.1 hlow
    have hscaledHigh : number / powerOfTwo exponent < 2 ^ 52 := by
      rw [div_lt_iff₀ hunit, powerOfTwo_eq, ← zpow_natCast, ← zpow_add₀ (by decide), add_comm]
      exact not_le.1 hbelowPower
    obtain rfl := eq_two_pow_of_near hnear (hleading.resolve_right hexponent) hscaledHigh
    have hdouble : number / powerOfTwo (exponent - 1) = 2 * (number / powerOfTwo exponent) := by
      rw [powerOfTwo_eq, powerOfTwo_eq, zpow_sub_one₀ (by decide)]
      field_simp
    push_cast at hbelow
    have hlast : double.unitExponent number = exponent - 1 := by
      apply unitExponent_of_bounds (by omega)
      · rw [add_comm, zpow_add₀ (by decide), ← powerOfTwo_eq (exponent - 1),
          ← le_div_iff₀ (powerOfTwo_pos _), hdouble]
        norm_num
        linarith only [hbelow]
      · rw [sub_add_eq_add_sub, add_sub_assoc]
        exact not_le.1 hbelowPower
    rw [@round_of_near _ _ (2 ^ 53) hlast, if_pos rfl, Int.sub_add_cancel]
    rw [hdouble, abs_lt]
    push_cast
    constructor <;> linarith only [hbelow, hscaledHigh]

end Parts

end BinaryFormat

namespace Binary64

open BinaryFormat

/-! ## Rounding to a magnitude -/

/-- The magnitude that a number is rounded to is a multiple of the last place of the number. -/
theorem toRat_of_roundMagnitude? {number : Rat} {magnitude : Magnitude} (hpos : 0 < number)
    (hround : roundMagnitude? number = some magnitude) :
    magnitude.toRat = (nearestEven (number / powerOfTwo (double.unitExponent number)) : Rat) *
      powerOfTwo (double.unitExponent number) := by
  unfold roundMagnitude? at hround
  rw [if_neg hpos.ne'] at hround
  rw [Magnitude.toRat_of_ofParts? hround, toRat_round hpos]

/-- Rounding moves a number by at most half a unit of its last place. -/
theorem abs_toRat_sub_le {number : Rat} {magnitude : Magnitude} (hpos : 0 < number)
    (hround : roundMagnitude? number = some magnitude) :
    |magnitude.toRat - number| ≤ powerOfTwo (double.unitExponent number) / 2 := by
  have hunit := powerOfTwo_pos (double.unitExponent number)
  have hvalue := toRat_of_roundMagnitude? hpos hround
  have hscaled := abs_nearestEven_sub_le (number / powerOfTwo (double.unitExponent number))
  calc |magnitude.toRat - number|
      = |(nearestEven (number / powerOfTwo (double.unitExponent number)) : Rat) -
          number / powerOfTwo (double.unitExponent number)| *
            powerOfTwo (double.unitExponent number) := by
        rw [← abs_of_pos hunit, ← abs_mul, abs_of_pos hunit, sub_mul, ← hvalue,
          div_mul_cancel₀ _ hunit.ne']
    _ ≤ 1 / 2 * powerOfTwo (double.unitExponent number) :=
        mul_le_mul_of_nonneg_right hscaled hunit.le
    _ = powerOfTwo (double.unitExponent number) / 2 := by ring

section Near

variable {magnitude : Magnitude} {number : Rat}
  (hnear : 2 * 10 ^ 16 * |number - magnitude.toRat| ≤ magnitude.toRat)

include hnear

/-- In units of the last place of the magnitude. -/
theorem near_scaled : 2 * 10 ^ 16 *
    |number / powerOfTwo magnitude.exponent - magnitude.significand| ≤ magnitude.significand := by
  have hunit := powerOfTwo_pos magnitude.exponent
  have hsame : number / powerOfTwo magnitude.exponent - magnitude.significand =
      (number - magnitude.toRat) / powerOfTwo magnitude.exponent := by
    rw [sub_div, Magnitude.toRat, mul_div_cancel_right₀ _ hunit.ne']
  rw [hsame, abs_div, abs_of_pos hunit, ← mul_div_assoc, div_le_iff₀ hunit]
  exact hnear

/-- A number that is off a magnitude by at most one part in `2 * 10 ^ 16` is rounded to it. -/
theorem roundMagnitude?_of_near : roundMagnitude? number = some magnitude := by
  have hscaled := near_scaled hnear
  unfold roundMagnitude?
  by_cases hsignificand : magnitude.significand = 0
  · rw [Magnitude.significand_eq_zero_iff.1 hsignificand] at hnear
    have hzero : number = 0 := by
      have hle : |number| ≤ 0 := by
        rw [sub_zero] at hnear
        linarith
      exact abs_eq_zero.1 (le_antisymm hle (abs_nonneg _))
    rw [if_pos hzero, Magnitude.eq_zero hsignificand]
  · have hpos := Magnitude.toRat_pos hsignificand
    have hnumber : number ≠ 0 := by
      rintro rfl
      rw [abs_sub_comm, sub_zero, abs_of_pos hpos] at hnear
      linarith
    rw [if_neg hnumber,
      round_of_near_parts hscaled magnitude.canonical (Nat.pos_of_ne_zero hsignificand)]
    exact magnitude.ofParts?_self

end Near

/-! ## Between a number and the magnitude it is rounded to -/

/-- Only the value that a number is rounded to counts. -/
theorem roundMagnitude?_of_rounded {number : Rat} {magnitude : Magnitude} (hpos : 0 < number)
    (hrounded : magnitude.toRat =
      (nearestEven (number / powerOfTwo (double.unitExponent number)) : Rat) *
        powerOfTwo (double.unitExponent number)) :
    roundMagnitude? number = some magnitude := by
  have hvalue := (toRat_round hpos).trans hrounded.symm
  have hunit : (0 : Rat) < 2 ^ (double.round number).2 := zpow_pos (by decide) _
  have hgreatest : (double.round number).2 ≤ 971 := by
    obtain ⟨-, -, hleading | hleast⟩ := round_bounds hpos
    · have hpower : (2 : Rat) ^ (52 + (double.round number).2) < 2 ^ (1024 : Int) := by
        calc (2 : Rat) ^ (52 + (double.round number).2)
            = 2 ^ (52 : Int) * 2 ^ (double.round number).2 := zpow_add₀ (by decide) _ _
          _ ≤ ((double.round number).1 : Rat) * 2 ^ (double.round number).2 :=
              mul_le_mul_of_nonneg_right (by exact_mod_cast hleading) hunit.le
          _ = magnitude.toRat := by rw [← powerOfTwo_eq, hvalue]
          _ < 2 ^ (1024 : Int) := magnitude.toRat_lt
      have := (zpow_lt_zpow_iff_right₀ (by decide)).1 hpower
      omega
    · omega
  have hparts : roundMagnitude? number = some ⟨_, _, canonical_round_of_le hpos hgreatest⟩ := by
    unfold roundMagnitude?
    rw [if_neg hpos.ne']
    exact dif_pos _
  rw [hparts]
  exact congrArg some (Magnitude.toRat_injective hvalue)

/-- What lies between a number and the magnitude that it is rounded to is rounded to the same
magnitude. -/
theorem roundMagnitude?_of_between {number other : Rat} {magnitude : Magnitude}
    (hpos : 0 < number) (hsignificand : magnitude.significand ≠ 0)
    (hround : roundMagnitude? number = some magnitude)
    (hbetween : number ≤ other ∧ other ≤ magnitude.toRat ∨
      magnitude.toRat ≤ other ∧ other ≤ number) : roundMagnitude? other = some magnitude := by
  have hmagnitude := Magnitude.toRat_pos hsignificand
  have hnumber := toRat_of_roundMagnitude? hpos hround
  have hself := toRat_of_roundMagnitude? hmagnitude (roundMagnitude?_toRat magnitude)
  rcases hbetween with ⟨hlow, hhigh⟩ | ⟨hlow, hhigh⟩
  · have hother := hpos.trans_le hlow
    exact roundMagnitude?_of_rounded hother (le_antisymm
      (hnumber.trans_le (rounded_mono hpos hlow)) ((rounded_mono hother hhigh).trans_eq hself.symm))
  · have hother := hmagnitude.trans_le hlow
    exact roundMagnitude?_of_rounded hother (le_antisymm
      (hself.trans_le (rounded_mono hmagnitude hlow))
      ((rounded_mono hother hhigh).trans_eq hnumber.symm))

/-! ## Quotients of integers -/

/-- Rounding moves a normal number by at most one part in `2 ^ 53`. -/
theorem abs_toRat_sub_le_of_normal {number : Rat} {magnitude : Magnitude}
    (hnormal : (2 : Rat) ^ (-1022 : Int) ≤ number)
    (hround : roundMagnitude? number = some magnitude) :
    2 ^ 53 * |magnitude.toRat - number| ≤ number := by
  have hpos : 0 < number := (zpow_pos (by norm_num) _).trans_le hnormal
  have hunit : 2 ^ (52 : Int) * powerOfTwo (double.unitExponent number) ≤ number := by
    by_cases hleast : double.unitExponent number = leastExponent
    · rw [hleast, powerOfTwo_eq, ← zpow_add₀ (by norm_num)]
      exact hnormal
    · exact (le_div_iff₀ (powerOfTwo_pos _)).1 (le_div_unit hpos hleast)
  calc 2 ^ 53 * |magnitude.toRat - number|
      ≤ 2 ^ 53 * (powerOfTwo (double.unitExponent number) / 2) := by
        gcongr
        exact abs_toRat_sub_le hpos hround
    _ = 2 ^ (52 : Int) * powerOfTwo (double.unitExponent number) := by
        norm_num
        ring
    _ ≤ number := hunit

section Quotient

variable {first second : Nat} (hfirst : first < 2 ^ 53) (hpos : 0 < second)
  (hsecond : second ≤ 2 ^ 53)

include hfirst hpos hsecond

/-- A quotient of integers below `2 ^ 53` is too far away from the next integer to be rounded to
it. -/
theorem floor_of_roundMagnitude?_div {magnitude : Magnitude}
    (hround : roundMagnitude? ((first : Rat) / second) = some magnitude) :
    magnitude.toRat.floor = (first / second : Nat) := by
  have hdivisor : (0 : Rat) < second := by exact_mod_cast hpos
  have hquotient : first / second ≤ first := Nat.div_le_self _ _
  have hfloor : ((first / second : Nat) : Rat) ≤ (first : Rat) / second := by
    rw [le_div_iff₀ hdivisor]
    exact_mod_cast Nat.div_mul_le_self first second
  have hlow : ((first / second : Nat) : Rat) ≤ magnitude.toRat :=
    le_toRat_of_roundMagnitude? (isRepresentable_of_le (by omega)) (Nat.cast_nonneg _) hfloor hround
  -- What is missing to the next integer is at least one part of the divisor.
  have hgap : 1 ≤ ((first / second + 1 : Nat) - (first : Rat) / second) * second := by
    have hnext : first + 1 ≤ second * (first / second + 1) := Nat.lt_mul_div_succ first hpos
    rw [Nat.mul_comm] at hnext
    rw [sub_mul, div_mul_cancel₀ _ hdivisor.ne', le_sub_iff_add_le']
    exact_mod_cast hnext
  have hhigh : magnitude.toRat < (first / second + 1 : Nat) := by
    by_contra hnext
    rcases Nat.eq_zero_or_pos first with rfl | hsome
    · rw [Nat.cast_zero, zero_div] at hround
      cases hround
      exact hnext ((zero_mul _).trans_lt (by positivity))
    · have hnormal : (2 : Rat) ^ (-1022 : Int) ≤ (first : Rat) / second := by
        calc (2 : Rat) ^ (-1022 : Int) ≤ 2 ^ (-53 : Int) :=
              zpow_le_zpow_right₀ (by norm_num) (by norm_num)
          _ = 1 / (2 ^ 53 : Nat) := by norm_num
          _ ≤ 1 / second := one_div_le_one_div_of_le hdivisor (by exact_mod_cast hsecond)
          _ ≤ (first : Rat) / second :=
            div_le_div_of_nonneg_right (by exact_mod_cast hsome) hdivisor.le
      have hnear := abs_toRat_sub_le_of_normal hnormal hround
      have hmoved := (sub_le_sub_right (not_lt.1 hnext) ((first : Rat) / second)).trans
        (le_abs_self _)
      have hlarge : (2 : Rat) ^ 53 ≤ first := by
        calc (2 : Rat) ^ 53
            ≤ 2 ^ 53 * (((first / second + 1 : Nat) - (first : Rat) / second) * second) :=
              le_mul_of_one_le_right (by positivity) hgap
          _ ≤ 2 ^ 53 * (|magnitude.toRat - (first : Rat) / second| * second) := by gcongr
          _ = 2 ^ 53 * |magnitude.toRat - (first : Rat) / second| * second := by ring
          _ ≤ (first : Rat) / second * second := mul_le_mul_of_nonneg_right hnear hdivisor.le
          _ = first := div_mul_cancel₀ _ hdivisor.ne'
      exact hfirst.not_ge (by exact_mod_cast hlarge)
  exact Int.floor_eq_iff.2 ⟨by exact_mod_cast hlow, by exact_mod_cast hhigh⟩

/-- The integer part of the rounded quotient of integers below `2 ^ 53` is their quotient. -/
theorem truncate_ofNat_div_ofNat_of_lt :
    ((ofNat first).div (ofNat second)).truncate = ofNat (first / second) := by
  have hone : (1 : Rat) ≤ second := by exact_mod_cast hpos
  have hsmall : (first : Rat) / second < 2 ^ (1023 : Int) := by
    calc (first : Rat) / second ≤ first := div_le_self (Nat.cast_nonneg _) hone
      _ < 2 ^ (53 : Int) := by exact_mod_cast hfirst
      _ ≤ 2 ^ (1023 : Int) := zpow_le_zpow_right₀ (by norm_num) (by norm_num)
  have hnonneg : 0 ≤ (first : Rat) / second := div_nonneg (Nat.cast_nonneg _) (Nat.cast_nonneg _)
  obtain ⟨magnitude, hround⟩ := exists_roundMagnitude? hnonneg hsmall
  have hfloor := floor_of_roundMagnitude?_div hfirst hpos hsecond hround
  rw [ofNat_div_ofNat (isRepresentable_of_le hfirst.le) (isRepresentable_of_le hsecond) hpos,
    ofNat_eq_ofMagnitude (first / second), ofMagnitude, hround, ← Int.cast_natCast, ← hfloor]
  rfl

end Quotient

end Binary64

end Numbering
