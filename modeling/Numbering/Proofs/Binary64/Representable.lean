import Numbering.Proofs.Binary64.Integers

/-!
# Representable numbers

A rational number is representable when it is the value of a magnitude; an operation whose exact
result is representable does not round. A number with at most 53 significant bits is representable
as long as it is in range (`isRepresentable_mul_zpow`), so a representable integer stays
representable when bits are cut off its end (`IsRepresentable.shiftRight`) or set to zero there
(`IsRepresentable.clearLow`). Rounding is monotone (`Binary64.toRat_le_of_roundMagnitude?`), so it
does not step over a representable number.
-/

namespace Numbering

/-- The number is the value of a magnitude. -/
def IsRepresentable (number : Rat) : Prop := ∃ magnitude : Magnitude, magnitude.toRat = number

/-- Magnitudes are not negative. -/
theorem Magnitude.toRat_nonneg (magnitude : Magnitude) : 0 ≤ magnitude.toRat :=
  mul_nonneg (Nat.cast_nonneg _) (powerOfTwo_pos _).le

/-- The absolute value of a finite number is its magnitude. -/
theorem Binary64.abs_toRat_finite (negative : Bool) (magnitude : Magnitude) :
    |(finite negative magnitude).toRat| = magnitude.toRat := by
  have habs : |magnitude.toRat| = magnitude.toRat := abs_of_nonneg magnitude.toRat_nonneg
  cases negative with
  | true => simpa [toRat] using habs
  | false => exact habs

/-- Every magnitude is below `2 ^ 1024`. -/
theorem Magnitude.toRat_lt (magnitude : Magnitude) : magnitude.toRat < 2 ^ (1024 : Int) := by
  by_contra hlarge
  have hround := Binary64.roundMagnitude?_of_large (not_lt.1 hlarge)
  rw [Binary64.roundMagnitude?_toRat] at hround
  cases hround

/-- A magnitude is determined by its value. -/
theorem Magnitude.toRat_injective : Function.Injective Magnitude.toRat := by
  intro first second hvalue
  have hround := Binary64.roundMagnitude?_toRat first
  rw [hvalue, Binary64.roundMagnitude?_toRat] at hround
  exact (Option.some.inj hround).symm

/-- A magnitude with a positive value has a significand other than zero. -/
theorem Magnitude.significand_ne_zero_of_toRat {magnitude : Magnitude} {number : Nat}
    (hvalue : magnitude.toRat = number) (hpos : 0 < number) : magnitude.significand ≠ 0 := by
  rw [Ne, Magnitude.significand_eq_zero_iff, hvalue, Nat.cast_eq_zero]
  exact hpos.ne'

/-! ## Significant bits -/

/-- A number with at most 53 significant bits is representable, unless its last bit is too small or
it is too large. -/
theorem isRepresentable_mul_zpow {significand : Nat} {exponent : Int}
    (hsignificand : significand < 2 ^ 53) (hexponent : -1074 ≤ exponent)
    (hsmall : (significand : Rat) * 2 ^ exponent < 2 ^ (1024 : Int)) :
    IsRepresentable ((significand : Rat) * 2 ^ exponent) := by
  rcases Nat.eq_zero_or_pos significand with rfl | hpos
  · exact ⟨.zero, by rw [Magnitude.toRat, Nat.cast_zero, zero_mul]; exact zero_mul _⟩
  · have hlog : significand.log2 ≤ 52 := by
      have := (Nat.log2_lt hpos.ne').2 hsignificand
      omega
    have hlow := Nat.log2_self_le hpos.ne'
    have hhigh := @Nat.lt_log2_self significand
    -- The significand is shifted up until its first bit is the leading one, or the exponent is the
    -- least one.
    obtain ⟨shift, hshift⟩ : ∃ shift : Nat, shift ≤ 52 - significand.log2 ∧
        -1074 ≤ exponent - shift ∧ (shift = 52 - significand.log2 ∨ exponent - shift = -1074) :=
      ⟨min (52 - significand.log2) (exponent + 1074).toNat, by omega⟩
    obtain ⟨hfits, hleast, hshift⟩ := hshift
    have hvalue : ((significand * 2 ^ shift : Nat) : Rat) * 2 ^ (exponent - shift) =
        (significand : Rat) * 2 ^ exponent := by
      rw [zpow_sub₀ (by decide), zpow_natCast]
      push_cast
      field_simp
    have hbits : significand * 2 ^ shift < 2 ^ 53 := by
      calc significand * 2 ^ shift < 2 ^ (significand.log2 + 1) * 2 ^ shift :=
            Nat.mul_lt_mul_of_pos_right hhigh (Nat.pow_pos (by decide))
        _ = 2 ^ (significand.log2 + 1 + shift) := (Nat.pow_add _ _ _).symm
        _ ≤ 2 ^ 53 := Nat.pow_le_pow_right (by decide) (by omega)
    have hleading : 2 ^ 52 ≤ significand * 2 ^ shift ∨ exponent - shift = -1074 := by
      refine hshift.imp_left fun hfull ↦ ?_
      calc 2 ^ 52 = 2 ^ significand.log2 * 2 ^ shift := by
            rw [← Nat.pow_add]
            congr 1
            omega
        _ ≤ significand * 2 ^ shift := Nat.mul_le_mul_right _ hlow
    have hgreatest : exponent - shift ≤ 971 := by
      rcases hleading with hleading | hleast
      · have hpower : (2 : Rat) ^ ((52 : Int) + (exponent - shift)) < 2 ^ (1024 : Int) := by
          refine lt_of_le_of_lt ?_ hsmall
          rw [← hvalue, zpow_add₀ (by decide)]
          exact mul_le_mul_of_nonneg_right (by exact_mod_cast hleading) (zpow_pos (by decide) _).le
        have := (zpow_lt_zpow_iff_right₀ (by decide)).1 hpower
        omega
      · omega
    exact ⟨⟨significand * 2 ^ shift, exponent - shift, hbits, hleast, hgreatest, hleading⟩,
      by rw [Magnitude.toRat, powerOfTwo_eq, hvalue]⟩

/-- A natural number is representable when it has at most 53 significant bits and is in range. -/
theorem isRepresentable_natCast_iff {number : Nat} :
    IsRepresentable number ↔ number < 2 ^ 1024 ∧
      ∃ significand exponent : Nat, significand < 2 ^ 53 ∧ number = significand * 2 ^ exponent := by
  constructor
  · rintro ⟨⟨significand, exponent, hbits, hleast, hgreatest, hleading⟩, hvalue⟩
    change (significand : Rat) * powerOfTwo exponent = number at hvalue
    have hbits : significand < 2 ^ 53 := hbits
    have hgreatest : exponent ≤ 971 := hgreatest
    rw [powerOfTwo_eq] at hvalue
    rcases Int.le_total 0 exponent with hwhole | hfraction
    · obtain ⟨places, rfl⟩ := Int.eq_ofNat_of_zero_le hwhole
      rw [zpow_natCast] at hvalue
      have hproduct : number = significand * 2 ^ places := by exact_mod_cast hvalue.symm
      have hbound : number < 2 ^ (53 + places) := by
        rw [hproduct, Nat.pow_add]
        exact Nat.mul_lt_mul_of_pos_right hbits (Nat.pow_pos (by decide))
      have hpower : 2 ^ (53 + places) ≤ 2 ^ 1024 := by
        apply Nat.pow_le_pow_right (by decide)
        omega
      exact ⟨hbound.trans_le hpower, significand, places, hbits, hproduct⟩
    · obtain ⟨places, hplaces⟩ := Int.eq_ofNat_of_zero_le (Int.neg_nonneg_of_nonpos hfraction)
      have hexponent : exponent = -(places : Int) := by omega
      rw [hexponent, zpow_neg, zpow_natCast] at hvalue
      have hproduct : significand = number * 2 ^ places := by
        have hpower : (2 : Rat) ^ places ≠ 0 := pow_ne_zero _ (by decide)
        have : (significand : Rat) = number * 2 ^ places := by
          rw [← hvalue, inv_mul_cancel_right₀ hpower]
        exact_mod_cast this
      have hnumber : number < 2 ^ 53 :=
        lt_of_le_of_lt (hproduct ▸ Nat.le_mul_of_pos_right _ (Nat.pow_pos (by decide))) hbits
      have hpower : 2 ^ 53 < 2 ^ 1024 := by
        apply Nat.pow_lt_pow_right (by decide)
        decide
      exact ⟨hnumber.trans hpower, number, 0, hnumber, by rw [Nat.pow_zero, Nat.mul_one]⟩
  · rintro ⟨hsmall, significand, exponent, hbits, rfl⟩
    have hvalue : ((significand * 2 ^ exponent : Nat) : Rat) =
        (significand : Rat) * 2 ^ (exponent : Int) := by
      rw [zpow_natCast]
      push_cast
      rfl
    have hbound : (significand : Rat) * 2 ^ (exponent : Int) < 2 ^ (1024 : Int) := by
      rw [← hvalue]
      exact_mod_cast hsmall
    rw [hvalue]
    exact isRepresentable_mul_zpow hbits (by omega) hbound

/-- Zero is a number of the format. -/
theorem isRepresentable_zero : IsRepresentable 0 :=
  ⟨.zero, by rw [Magnitude.toRat, Magnitude.zero, Nat.cast_zero, zero_mul]⟩

/-- A number may be multiplied by a power of two as long as the product is in range. -/
theorem IsRepresentable.mul_two_pow {number : Rat} (hnumber : IsRepresentable number)
    {count : Nat} (hsmall : number * (2 ^ count : Nat) < 2 ^ (1024 : Int)) :
    IsRepresentable (number * (2 ^ count : Nat)) := by
  obtain ⟨⟨significand, exponent, hbits, hleast, hgreatest, hleading⟩, rfl⟩ := hnumber
  have hleast : -1074 ≤ exponent := hleast
  have hproduct : (significand : Rat) * powerOfTwo exponent * (2 ^ count : Nat) =
      (significand : Rat) * 2 ^ (exponent + count) := by
    rw [powerOfTwo_eq, zpow_add₀ (by decide), zpow_natCast, mul_assoc, Nat.cast_pow]
    rfl
  rw [Magnitude.toRat, hproduct] at hsmall ⊢
  exact isRepresentable_mul_zpow hbits (by omega) hsmall

/-- A remainder is what the integer part of a quotient leaves. -/
theorem natCast_sub_div_mul (first second : Nat) :
    (first : Rat) - ((first / second : Nat) : Rat) * second = (first % second : Nat) := by
  have hsplit : ((second * (first / second) + first % second : Nat) : Rat) = first := by
    rw [Nat.div_add_mod]
  push_cast at hsplit
  linarith

/-- The integer part and the fraction of a magnitude are representable. -/
theorem Magnitude.exists_floor_eq (magnitude : Magnitude) : ∃ whole : Nat,
    magnitude.toRat.floor = whole ∧ IsRepresentable whole ∧
      IsRepresentable (magnitude.toRat - whole) := by
  obtain ⟨significand, exponent, hcanonical⟩ := magnitude
  have hbits : significand < 2 ^ 53 := hcanonical.1
  cases exponent with
  | ofNat exponent =>
      have hwhole : toRat ⟨significand, .ofNat exponent, hcanonical⟩ =
          (significand * 2 ^ exponent : Nat) := (Nat.cast_mul _ _).symm
      refine ⟨significand * 2 ^ exponent, ?_, ⟨_, hwhole⟩, ?_⟩
      · rw [hwhole]
        exact Rat.floor_intCast _
      · rw [hwhole, sub_self]
        exact isRepresentable_zero
  | negSucc exponent =>
      have hleast : -1074 ≤ Int.negSucc exponent := hcanonical.2.1
      have hvalue : toRat ⟨significand, .negSucc exponent, hcanonical⟩ =
          (significand : Rat) / (2 ^ (exponent + 1) : Nat) := by
        rw [toRat, powerOfTwo_eq, zpow_negSucc, div_eq_mul_inv, Nat.cast_pow]
        rfl
      have hfraction : (significand : Rat) / (2 ^ (exponent + 1) : Nat) -
          (significand / 2 ^ (exponent + 1) : Nat) =
            ((significand % 2 ^ (exponent + 1) : Nat) : Rat) * 2 ^ Int.negSucc exponent := by
        have hpower : ((2 ^ (exponent + 1) : Nat) : Rat) ≠ 0 := by positivity
        have hcast : ((2 ^ (exponent + 1) : Nat) : Rat) = 2 ^ (exponent + 1) := Nat.cast_pow 2 _
        rw [zpow_negSucc, ← hcast, ← div_eq_mul_inv, ← natCast_sub_div_mul, sub_div,
          mul_div_cancel_right₀ _ hpower]
      have hsmall : significand % 2 ^ (exponent + 1) ≤ significand := Nat.mod_le _ _
      refine ⟨significand / 2 ^ (exponent + 1), ?_, ?_, ?_⟩
      · rw [hvalue]
        exact Rat.floor_natCast_div_natCast _ _
      · exact Magnitude.exists_toRat_eq ((Nat.div_le_self _ _).trans hbits.le)
      · rw [hvalue, hfraction]
        refine isRepresentable_mul_zpow (hsmall.trans_lt hbits) hleast ?_
        refine lt_of_le_of_lt ?_ (Magnitude.toRat_lt ⟨significand, .negSucc exponent, hcanonical⟩)
        rw [toRat, powerOfTwo_eq]
        exact mul_le_mul_of_nonneg_right (by exact_mod_cast hsmall) (zpow_pos (by decide) _).le

/-- The powers of ten up to `10 ^ 22` are representable. -/
theorem isRepresentable_pow_ten {count : Nat} (hcount : count ≤ 22) :
    IsRepresentable (10 ^ count : Nat) := by
  have hbound : 10 ^ count < 2 ^ 74 :=
    (Nat.pow_le_pow_right (by decide) hcount).trans_lt (by decide)
  have hsmall : 2 ^ 74 < 2 ^ 1024 := by
    apply Nat.pow_lt_pow_right (by decide)
    decide
  have hbits : 5 ^ count < 2 ^ 53 := (Nat.pow_le_pow_right (by decide) hcount).trans_lt (by decide)
  exact isRepresentable_natCast_iff.2
    ⟨hbound.trans hsmall, 5 ^ count, count, hbits, by rw [← Nat.mul_pow]⟩

section Natural

variable {number : Nat}

/-- The natural numbers up to `2 ^ 53` are numbers of the format. -/
theorem isRepresentable_of_le (hnumber : number ≤ 2 ^ 53) : IsRepresentable number :=
  Magnitude.exists_toRat_eq hnumber

/-- Bits may be cut off the end of a representable number. -/
theorem IsRepresentable.shiftRight (hnumber : IsRepresentable number) (count : Nat) :
    IsRepresentable (number / 2 ^ count : Nat) := by
  obtain ⟨hsmall, significand, exponent, hbits, rfl⟩ := isRepresentable_natCast_iff.1 hnumber
  refine isRepresentable_natCast_iff.2 ⟨lt_of_le_of_lt (Nat.div_le_self _ _) hsmall, ?_⟩
  rcases Nat.le_total count exponent with hle | hle
  · refine ⟨significand, exponent - count, hbits, ?_⟩
    rw [← Nat.sub_add_cancel hle, Nat.pow_add, ← Nat.mul_assoc, Nat.sub_add_cancel hle,
      Nat.mul_div_cancel _ (Nat.pow_pos (by decide))]
  · refine ⟨significand / 2 ^ (count - exponent), 0, lt_of_le_of_lt (Nat.div_le_self _ _) hbits, ?_⟩
    rw [← Nat.sub_add_cancel hle, Nat.pow_add, Nat.sub_add_cancel hle,
      Nat.mul_div_mul_right _ _ (Nat.pow_pos (by decide)), Nat.pow_zero, Nat.mul_one]

/-- Bits at the end of a representable number may be set to zero. -/
theorem IsRepresentable.clearLow (hnumber : IsRepresentable number) (count : Nat) :
    IsRepresentable (number / 2 ^ count * 2 ^ count : Nat) := by
  obtain ⟨-, significand, exponent, hbits, hvalue⟩ :=
    isRepresentable_natCast_iff.1 (hnumber.shiftRight count)
  have hsmall := (isRepresentable_natCast_iff.1 hnumber).1
  refine isRepresentable_natCast_iff.2
    ⟨lt_of_le_of_lt (Nat.div_mul_le_self _ _) hsmall, significand, exponent + count, hbits, ?_⟩
  rw [hvalue, Nat.pow_add, Nat.mul_assoc]

/-- A representable integer may be divided by a power of two that is not too large. -/
theorem IsRepresentable.div_two_pow (hnumber : IsRepresentable number) {count : Nat}
    (hcount : count ≤ 1074) : IsRepresentable ((number : Rat) / (2 ^ count : Nat)) := by
  obtain ⟨hsmall, significand, exponent, hbits, hvalue⟩ := isRepresentable_natCast_iff.1 hnumber
  have hquotient : (number : Rat) / (2 ^ count : Nat) =
      (significand : Rat) * 2 ^ ((exponent : Int) - count) := by
    rw [hvalue, zpow_sub₀ (by decide), zpow_natCast, zpow_natCast]
    push_cast
    exact mul_div_assoc _ _ _
  have hbound : (number : Rat) / (2 ^ count : Nat) < 2 ^ (1024 : Int) := by
    have hone : (1 : Rat) ≤ (2 ^ count : Nat) := by exact_mod_cast Nat.one_le_two_pow
    exact lt_of_le_of_lt (div_le_self (Nat.cast_nonneg _) hone) (by exact_mod_cast hsmall)
  rw [hquotient] at hbound ⊢
  exact isRepresentable_mul_zpow hbits (by omega) hbound

end Natural

/-! ## Monotone rounding -/

/-- Rounding to an integer keeps the order. -/
theorem nearestEven_mono {number other : Rat} (hle : number ≤ other) :
    nearestEven number ≤ nearestEven other := by
  have hfloor : number.floor ≤ other.floor :=
    Rat.le_floor_iff.2 ((Rat.floor_le number).trans hle)
  rcases hfloor.lt_or_eq with hlt | heq
  · have hnumber := nearestEven_cases number
    have hother := nearestEven_cases other
    omega
  · -- With the same integer below them, the two differ in their fractions only.
    have hexcess : 2 * (number - (other.floor : Rat)) ≤ 2 * (other - (other.floor : Rat)) := by
      linarith
    unfold nearestEven
    dsimp only
    rw [heq]
    grind

namespace BinaryFormat

/-- Larger numbers have no smaller units. -/
theorem unitExponent_mono {number other : Rat} (hpos : 0 < number) (hle : number ≤ other) :
    double.unitExponent number ≤ double.unitExponent other := by
  have hlog : floorLog2 number ≤ floorLog2 other := by
    rw [floorLog2_eq hpos, floorLog2_eq (hpos.trans_le hle)]
    exact Int.log_mono_right hpos hle
  unfold unitExponent
  omega

/-- Rounding is monotone also where the unit of the last place changes. -/
theorem rounded_mono {number other : Rat} (hpos : 0 < number) (hle : number ≤ other) :
    (nearestEven (number / powerOfTwo (double.unitExponent number)) : Rat) *
        powerOfTwo (double.unitExponent number) ≤
      (nearestEven (other / powerOfTwo (double.unitExponent other)) : Rat) *
        powerOfTwo (double.unitExponent other) := by
  rcases (unitExponent_mono hpos hle).lt_or_eq with hlt | heq
  · -- A power of two lies between the two results.
    have hleast : double.unitExponent other ≠ Binary64.leastExponent :=
      ((Int.le_max_left _ _).trans_lt hlt).ne'
    have hbelow : nearestEven (number / powerOfTwo (double.unitExponent number)) ≤ 2 ^ 53 :=
      nearestEven_le (by exact_mod_cast (div_unit_lt hpos).le)
    have habove : 2 ^ 52 ≤ nearestEven (other / powerOfTwo (double.unitExponent other)) :=
      le_nearestEven (by exact_mod_cast le_div_unit (hpos.trans_le hle) hleast)
    calc (nearestEven (number / powerOfTwo (double.unitExponent number)) : Rat) *
          powerOfTwo (double.unitExponent number)
        ≤ 2 ^ (53 : Int) * powerOfTwo (double.unitExponent number) :=
          mul_le_mul_of_nonneg_right (by exact_mod_cast hbelow) (powerOfTwo_pos _).le
      _ = 2 ^ (53 + double.unitExponent number) := by
          rw [powerOfTwo_eq, zpow_add₀ (by decide)]
      _ ≤ 2 ^ (52 + double.unitExponent other) :=
          zpow_le_zpow_right₀ (by norm_num) (by omega)
      _ = 2 ^ (52 : Int) * powerOfTwo (double.unitExponent other) := by
          rw [powerOfTwo_eq, zpow_add₀ (by decide)]
      _ ≤ _ := mul_le_mul_of_nonneg_right (by exact_mod_cast habove) (powerOfTwo_pos _).le
  · rw [heq]
    refine mul_le_mul_of_nonneg_right ?_ (powerOfTwo_pos _).le
    exact_mod_cast nearestEven_mono (div_le_div_of_nonneg_right hle (powerOfTwo_pos _).le)

end BinaryFormat

namespace Binary64

/-- Rounding is monotone. -/
theorem toRat_le_of_roundMagnitude? {number other : Rat} {magnitude larger : Magnitude}
    (hnonneg : 0 ≤ number) (hle : number ≤ other)
    (hround : roundMagnitude? number = some magnitude)
    (hother : roundMagnitude? other = some larger) : magnitude.toRat ≤ larger.toRat := by
  rcases hnonneg.eq_or_lt with rfl | hpos
  · cases hround
    exact (zero_mul _).trans_le larger.toRat_nonneg
  · unfold roundMagnitude? at hround hother
    rw [if_neg hpos.ne'] at hround
    rw [if_neg (hpos.trans_le hle).ne'] at hother
    rw [Magnitude.toRat_of_ofParts? hround, Magnitude.toRat_of_ofParts? hother,
      BinaryFormat.toRat_round hpos, BinaryFormat.toRat_round (hpos.trans_le hle)]
    exact BinaryFormat.rounded_mono hpos hle

section Between

variable {number bound : Rat} {magnitude : Magnitude} (hbound : IsRepresentable bound)

include hbound

/-- Rounding does not step down over a representable number. -/
theorem le_toRat_of_roundMagnitude? (hnonneg : 0 ≤ bound) (hle : bound ≤ number)
    (hround : roundMagnitude? number = some magnitude) : bound ≤ magnitude.toRat := by
  obtain ⟨exact, rfl⟩ := hbound
  exact toRat_le_of_roundMagnitude? hnonneg hle (roundMagnitude?_toRat exact) hround

/-- Rounding does not step up over a representable number. -/
theorem toRat_le_of_roundMagnitude?_of_le (hnonneg : 0 ≤ number) (hle : number ≤ bound)
    (hround : roundMagnitude? number = some magnitude) : magnitude.toRat ≤ bound := by
  obtain ⟨exact, rfl⟩ := hbound
  exact toRat_le_of_roundMagnitude? hnonneg hle hround (roundMagnitude?_toRat exact)

end Between

/-! ## Exact operations -/

/-- The value of a magnitude is rounded to the magnitude. -/
theorem ofMagnitude_toRat (negative : Bool) (magnitude : Magnitude) :
    ofMagnitude negative magnitude.toRat = .finite negative magnitude := by
  unfold ofMagnitude
  rw [roundMagnitude?_toRat]

/-- A number that is not below zero is rounded as a magnitude. -/
theorem ofRat_eq_ofMagnitude {number : Rat} (hnonneg : 0 ≤ number) :
    ofRat false number = ofMagnitude false number := by
  unfold ofRat
  split
  · rename_i hzero
    rw [hzero]
    rfl
  · rw [if_neg hnonneg.not_gt]

/-- A natural number is turned into a number as a magnitude without a minus sign. -/
theorem ofNat_eq_ofMagnitude (number : Nat) : ofNat number = ofMagnitude false number :=
  ofRat_eq_ofMagnitude (Nat.cast_nonneg number)

/-- A natural number never becomes a NaN. -/
theorem isNaN_ofNat (number : Nat) : (ofNat number).isNaN = false := by
  rw [ofNat_eq_ofMagnitude]
  unfold ofMagnitude
  cases roundMagnitude? (number : Rat) <;> rfl

/-- A representable natural number is the value of its number. -/
theorem exists_ofNat_eq {number : Nat} (hnumber : IsRepresentable number) :
    ∃ magnitude : Magnitude, ofNat number = .finite false magnitude ∧ magnitude.toRat = number := by
  obtain ⟨magnitude, hvalue⟩ := hnumber
  exact ⟨magnitude, by rw [ofNat_eq_ofMagnitude, ← hvalue, ofMagnitude_toRat], hvalue⟩

/-- A representable number is its own integer part. -/
theorem toInt_ofNat {number : Nat} (hnumber : IsRepresentable number) :
    (ofNat number).toInt = number := by
  obtain ⟨magnitude, hfinite, hvalue⟩ := exists_ofNat_eq hnumber
  rw [hfinite]
  show magnitude.toRat.floor = number
  rw [hvalue]
  exact Rat.floor_intCast number

/-- Zero is the only natural number below one. -/
theorem ofNat_less_one {number : Nat} (hnumber : IsRepresentable number) :
    (ofNat number).less one = decide (number = 0) := by
  obtain ⟨magnitude, hfinite, hvalue⟩ := exists_ofNat_eq hnumber
  have hone : one.toRat = 1 := by decide +kernel
  rw [hfinite]
  show decide (magnitude.toRat < one.toRat) = decide (number = 0)
  rw [hvalue, hone, decide_eq_decide, Nat.cast_lt_one]

section Natural

variable {first second : Nat} (hfirst : IsRepresentable first) (hsecond : IsRepresentable second)

include hfirst hsecond

/-- Representable natural numbers are multiplied as they are, and the product is rounded. -/
theorem ofNat_mul_ofNat : (ofNat first).mul (ofNat second) = ofNat (first * second) := by
  obtain ⟨x, hx, hxvalue⟩ := exists_ofNat_eq hfirst
  obtain ⟨y, hy, hyvalue⟩ := exists_ofNat_eq hsecond
  rw [hx, hy, ofNat_eq_ofMagnitude, Nat.cast_mul, ← hxvalue, ← hyvalue]
  rfl

/-- Representable natural numbers are added as they are, and the sum is rounded. -/
theorem ofNat_add_ofNat : (ofNat first).add (ofNat second) = ofNat (first + second) := by
  obtain ⟨x, hx, hxvalue⟩ := exists_ofNat_eq hfirst
  obtain ⟨y, hy, hyvalue⟩ := exists_ofNat_eq hsecond
  rw [hx, hy, ofNat, Nat.cast_add, ← hxvalue, ← hyvalue]
  rfl

/-- The remainder of natural numbers is exact. -/
theorem ofNat_rem_ofNat (hpos : 0 < second) :
    (ofNat first).rem (ofNat second) = ofNat (first % second) := by
  obtain ⟨x, hx, hxvalue⟩ := exists_ofNat_eq hfirst
  obtain ⟨y, hy, hyvalue⟩ := exists_ofNat_eq hsecond
  have hdivisor := Magnitude.significand_ne_zero_of_toRat hyvalue hpos
  have hfloor : ((first : Rat) / second).floor = (first / second : Nat) :=
    Rat.floor_natCast_div_natCast _ _
  rw [hx, hy, ofNat_eq_ofMagnitude, ← natCast_sub_div_mul]
  show (if y.significand = 0 then _ else _) = _
  rw [if_neg hdivisor, hxvalue, hyvalue, hfloor, Int.cast_natCast]

/-- A quotient is rounded once. -/
theorem ofNat_div_ofNat (hpos : 0 < second) :
    (ofNat first).div (ofNat second) = ofMagnitude false ((first : Rat) / second) := by
  obtain ⟨x, hx, hxvalue⟩ := exists_ofNat_eq hfirst
  obtain ⟨y, hy, hyvalue⟩ := exists_ofNat_eq hsecond
  rw [hx, hy, ← hxvalue, ← hyvalue]
  exact if_neg (Magnitude.significand_ne_zero_of_toRat hyvalue hpos)

/-- The integer part of a quotient is exact when the quotient is. -/
theorem truncate_ofNat_div_ofNat (hpos : 0 < second)
    (hquotient : IsRepresentable ((first : Rat) / second)) :
    ((ofNat first).div (ofNat second)).truncate = ofNat (first / second) := by
  obtain ⟨quotient, hvalue⟩ := hquotient
  have hfloor : ((first : Rat) / second).floor = (first / second : Nat) :=
    Rat.floor_natCast_div_natCast _ _
  rw [ofNat_div_ofNat hfirst hsecond hpos, ofNat_eq_ofMagnitude,
    ← Int.cast_natCast (first / second), ← hfloor, ← hvalue, ofMagnitude_toRat]
  rfl

end Natural

end Binary64

end Numbering
