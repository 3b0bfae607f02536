import Numbering.Proofs.Binary64.Representable

/-!
# Rounding and powers of two

Rounding a number from one on commutes with multiplying by a power of two
(`BinaryFormat.round_mul_two_pow`), up to the overflow to infinity, and less than half a unit of the
last place that is added to a rounded number is rounded away again
(`Binary64.roundMagnitude?_add_of_small`). Of an integer with more than 53 bits the first 53 count
and whether the others round up (`Binary64.ofNat_tail_eq_iff`).
-/

namespace Numbering

/-- Between two integers the fraction decides, and at one half the parity. -/
theorem nearestEven_add {whole : Int} {fraction : Rat} (hnonneg : 0 ≤ fraction)
    (hfraction : fraction < 1) :
    nearestEven (whole + fraction) =
      if 2 * fraction < 1 then whole
      else if 1 < 2 * fraction then whole + 1
      else if whole % 2 = 0 then whole
      else whole + 1 := by
  have hfloor : ((whole : Rat) + fraction).floor = whole := by
    apply le_antisymm
    · exact Int.lt_add_one_iff.1 (Rat.floor_lt_iff.2 (by push_cast; linarith))
    · exact Rat.le_floor_iff.2 (by linarith)
  unfold nearestEven
  dsimp only
  rw [hfloor, add_sub_cancel_left]

namespace BinaryFormat

/-- The last place of a number is determined by the powers of two around the number. -/
theorem unitExponent_of_bounds {number : Rat} {exponent : Int} (hexponent : -1074 ≤ exponent)
    (hlow : (2 : Rat) ^ (exponent + 52) ≤ number) (hhigh : number < (2 : Rat) ^ (exponent + 53)) :
    double.unitExponent number = exponent := by
  have hpos : 0 < number := (zpow_pos (by decide) _).trans_le hlow
  have hlog : Int.log 2 number = exponent + 52 := log_eq_of_bounds hlow (by rwa [add_assoc])
  show max (-1074) (floorLog2 number - 52) = exponent
  rw [floorLog2_eq hpos, hlog]
  omega

/-- The unit of a rounded number is no smaller than that of the number. -/
theorem unitExponent_le_round (number : Rat) :
    double.unitExponent number ≤ (double.round number).2 := by
  unfold round
  dsimp only
  split
  · exact (Int.lt_succ _).le
  · exact le_rfl

/-- The last place of a number above a power of two. -/
theorem le_unitExponent {number : Rat} {exponent : Int}
    (hlow : (2 : Rat) ^ (exponent + 52) ≤ number) : exponent ≤ double.unitExponent number := by
  have hpos : 0 < number := (zpow_pos (by decide) _).trans_le hlow
  have hlog : exponent + 52 ≤ Int.log 2 number := (Int.zpow_le_iff_le_log (by decide) hpos).1 hlow
  show exponent ≤ max (-1074) (floorLog2 number - 52)
  rw [floorLog2_eq hpos]
  omega

section One

variable {number : Rat} (hnumber : 1 ≤ number) (count : Nat)

include hnumber

/-- Scaling by a power of two scales the unit. -/
theorem unitExponent_mul_two_pow :
    double.unitExponent (number * 2 ^ count) = double.unitExponent number + count := by
  have hpos : 0 < number := one_pos.trans_le hnumber
  have hpower : (0 : Rat) < 2 ^ count := pow_pos (by decide) count
  have hlog : Int.log 2 (number * 2 ^ count) = Int.log 2 number + count := by
    apply log_eq_of_bounds
    · rw [zpow_add₀ (by decide), zpow_natCast]
      exact mul_le_mul_of_nonneg_right (Int.zpow_log_le_self (by decide) hpos) hpower.le
    · rw [add_right_comm, zpow_add₀ (by decide), zpow_natCast]
      exact mul_lt_mul_of_pos_right (Int.lt_zpow_succ_log_self (by decide) number) hpower
  have hnonneg : 0 ≤ Int.log 2 number :=
    (Int.zpow_le_iff_le_log (by decide) hpos).1 (by rwa [zpow_zero])
  show max (-1074) (floorLog2 (number * 2 ^ count) - 52) =
    max (-1074) (floorLog2 number - 52) + count
  rw [floorLog2_eq hpos, floorLog2_eq (mul_pos hpos hpower), hlog]
  omega

/-- Multiplying by a power of two raises the exponent. -/
theorem round_mul_two_pow :
    double.round (number * 2 ^ count) =
      ((double.round number).1, (double.round number).2 + count) := by
  have hquotient : number * 2 ^ count / powerOfTwo (double.unitExponent number + count) =
      number / powerOfTwo (double.unitExponent number) := by
    rw [powerOfTwo_eq, powerOfTwo_eq, zpow_add₀ (by decide), zpow_natCast]
    exact mul_div_mul_right _ _ (pow_ne_zero _ (by decide))
  unfold round
  dsimp only
  rw [unitExponent_mul_two_pow hnumber, hquotient]
  split
  · rw [add_right_comm]
  · rfl

/-- A number that is too large does not become small enough by multiplying. -/
theorem canonical_of_mul_two_pow
    (hcanonical : Binary64.Canonical (double.round number).1 ((double.round number).2 + count)) :
    Binary64.Canonical (double.round number).1 (double.round number).2 := by
  have hunit : -52 ≤ double.unitExponent number :=
    le_unitExponent (by rwa [neg_add_cancel, zpow_zero])
  have hexponent := unitExponent_le_round number
  obtain ⟨hbits, hleast, hgreatest, hleading⟩ := hcanonical
  unfold Binary64.Canonical Binary64.leastExponent Binary64.greatestExponent at *
  exact ⟨hbits, by omega, by omega, .inl (by omega)⟩

end One

end BinaryFormat

namespace Binary64

open BinaryFormat

/-! ## Multiplying -/

/-- Rounding to a magnitude is rounding to its parts. -/
theorem round_of_roundMagnitude? {number : Rat} {magnitude : Magnitude} (hnumber : number ≠ 0)
    (hround : roundMagnitude? number = some magnitude) :
    double.round number = (magnitude.significand, magnitude.exponent) := by
  unfold roundMagnitude? Magnitude.ofParts? at hround
  rw [if_neg hnumber] at hround
  dsimp only at hround
  split at hround
  · cases hround
    rfl
  · cases hround

/-- Only the parts that a number is rounded to count. -/
theorem roundMagnitude?_congr {number other : Rat} (hnumber : number ≠ 0) (hother : other ≠ 0)
    (hround : double.round number = double.round other) :
    roundMagnitude? number = roundMagnitude? other := by
  unfold roundMagnitude?
  rw [if_neg hnumber, if_neg hother, hround]

section One

variable {number : Rat} (hnumber : 1 ≤ number) (count : Nat)

include hnumber

/-- A number may be rounded before it is multiplied by a power of two. -/
theorem roundMagnitude?_mul_two_pow {magnitude : Magnitude}
    (hround : roundMagnitude? number = some magnitude) :
    roundMagnitude? (magnitude.toRat * 2 ^ count) = roundMagnitude? (number * 2 ^ count) := by
  have hpos : 0 < number := one_pos.trans_le hnumber
  have hpower : (2 : Rat) ^ count ≠ 0 := pow_ne_zero _ (by decide)
  have hone : 1 ≤ magnitude.toRat := by
    have hrepresentable : IsRepresentable (1 : Nat) := isRepresentable_of_le (by decide)
    rw [Nat.cast_one] at hrepresentable
    exact le_toRat_of_roundMagnitude? hrepresentable zero_le_one hnumber hround
  have hsignificand : magnitude.significand ≠ 0 := by
    rw [Ne, Magnitude.significand_eq_zero_iff]
    exact (one_pos.trans_le hone).ne'
  refine roundMagnitude?_congr (mul_ne_zero (one_pos.trans_le hone).ne' hpower)
    (mul_ne_zero hpos.ne' hpower) ?_
  rw [round_mul_two_pow hone, round_mul_two_pow hnumber, round_toRat hsignificand,
    round_of_roundMagnitude? hpos.ne' hround]

/-- A number that is too large stays so when it is scaled up. -/
theorem roundMagnitude?_mul_two_pow_of_none (hround : roundMagnitude? number = none) :
    roundMagnitude? (number * 2 ^ count) = none := by
  have hpos : 0 < number := one_pos.trans_le hnumber
  have hpower : (2 : Rat) ^ count ≠ 0 := pow_ne_zero _ (by decide)
  unfold roundMagnitude? Magnitude.ofParts? at hround ⊢
  rw [if_neg hpos.ne'] at hround
  rw [if_neg (mul_ne_zero hpos.ne' hpower), round_mul_two_pow hnumber]
  refine dif_neg fun hcanonical ↦ ?_
  dsimp only at hround
  rw [dif_pos (canonical_of_mul_two_pow hnumber count hcanonical)] at hround
  cases hround

end One

/-- The product with a power of two is rounded like the exact product, also where the other factor
has been rounded. -/
theorem ofNat_mul_two_pow (number : Nat) {count : Nat} (hcount : count ≤ 53) :
    (ofNat number).mul (ofNat (2 ^ count)) = ofNat (number * 2 ^ count) := by
  have hpower : 0 < 2 ^ count := Nat.pow_pos (by decide)
  obtain ⟨factor, hfactor, hvalue⟩ := exists_ofNat_eq
    (isRepresentable_of_le (Nat.pow_le_pow_right (by decide) hcount) :
      IsRepresentable (2 ^ count : Nat))
  have hsignificand := Magnitude.significand_ne_zero_of_toRat hvalue hpower
  have hcast : ((number * 2 ^ count : Nat) : Rat) = (number : Rat) * 2 ^ count := by
    rw [Nat.cast_mul, Nat.cast_pow, Nat.cast_ofNat]
  rw [Nat.cast_pow, Nat.cast_ofNat] at hvalue
  rw [hfactor, ofNat_eq_ofMagnitude, ofNat_eq_ofMagnitude, hcast]
  rcases Nat.eq_zero_or_pos number with rfl | hpos
  · rw [Nat.cast_zero, zero_mul]
    show ofMagnitude false (Magnitude.zero.toRat * factor.toRat) = ofMagnitude false 0
    rw [show Magnitude.zero.toRat = 0 from zero_mul _, zero_mul]
  · have hone : (1 : Rat) ≤ number := by exact_mod_cast hpos
    unfold ofMagnitude
    cases hround : roundMagnitude? (number : Rat) with
    | some magnitude =>
        show ofMagnitude false (magnitude.toRat * factor.toRat) = _
        rw [hvalue, ← roundMagnitude?_mul_two_pow hone count hround]
        rfl
    | none =>
        rw [roundMagnitude?_mul_two_pow_of_none hone count hround]
        exact if_neg hsignificand

/-! ## Adding -/

/-- Less than half a unit of the last place is rounded away. -/
theorem roundMagnitude?_add_of_small {magnitude : Magnitude} {number : Rat}
    (hleading : leadingBit ≤ magnitude.significand) (hnonneg : 0 ≤ number)
    (hsmall : 2 * number < powerOfTwo magnitude.exponent) :
    roundMagnitude? (magnitude.toRat + number) = some magnitude := by
  obtain ⟨hbits, hleast, -⟩ := magnitude.canonical
  have hunit := powerOfTwo_pos magnitude.exponent
  have hlow : (2 : Rat) ^ 52 ≤ magnitude.significand := by
    exact_mod_cast (by exact hleading : 2 ^ 52 ≤ magnitude.significand)
  have hhigh : (magnitude.significand : Rat) + 1 ≤ 2 ^ 53 := by
    exact_mod_cast (by exact hbits : magnitude.significand < 2 ^ 53)
  have hpos : 0 < magnitude.toRat + number :=
    add_pos_of_pos_of_nonneg (mul_pos (by linarith) hunit) hnonneg
  have hexponent : double.unitExponent (magnitude.toRat + number) = magnitude.exponent := by
    apply unitExponent_of_bounds hleast
    · rw [add_comm magnitude.exponent, zpow_add₀ (by decide), ← powerOfTwo_eq magnitude.exponent]
      exact (mul_le_mul_of_nonneg_right hlow hunit.le).trans (le_add_of_nonneg_right hnonneg)
    · rw [add_comm magnitude.exponent, zpow_add₀ (by decide), ← powerOfTwo_eq magnitude.exponent]
      calc magnitude.toRat + number < magnitude.toRat + powerOfTwo magnitude.exponent := by linarith
        _ = (magnitude.significand + 1) * powerOfTwo magnitude.exponent := by
            rw [Magnitude.toRat, add_mul, one_mul]
        _ ≤ _ := mul_le_mul_of_nonneg_right hhigh hunit.le
  have hquotient : (magnitude.toRat + number) / powerOfTwo magnitude.exponent =
      ((magnitude.significand : Int) : Rat) + number / powerOfTwo magnitude.exponent := by
    rw [add_div, Magnitude.toRat, mul_div_cancel_right₀ _ hunit.ne', Int.cast_natCast]
  have hfraction : 2 * (number / powerOfTwo magnitude.exponent) < 1 := by
    rwa [← mul_div_assoc, div_lt_one hunit]
  have hround : double.round (magnitude.toRat + number) =
      (magnitude.significand, magnitude.exponent) := by
    unfold BinaryFormat.round
    dsimp only
    rw [hexponent, hquotient, nearestEven_add (div_nonneg hnonneg hunit.le) (by linarith),
      if_pos hfraction, Int.toNat_natCast]
    exact if_neg (ne_of_lt (by exact hbits))
  unfold roundMagnitude?
  rw [if_neg hpos.ne', hround]
  exact magnitude.ofParts?_self

/-- What an integer with more than 53 bits is rounded to has 53 bits in front of its last place. -/
theorem leading_of_roundMagnitude? {number bits : Nat} {magnitude : Magnitude}
    (hnumber : 2 ^ 53 * 2 ^ bits ≤ number)
    (hround : roundMagnitude? (number : Rat) = some magnitude) :
    leadingBit ≤ magnitude.significand ∧ ((bits + 1 : Nat) : Int) ≤ magnitude.exponent := by
  have hlow : (2 : Rat) ^ (((bits + 1 : Nat) : Int) + 52) ≤ number := by
    have hpower : 2 ^ 53 * 2 ^ bits = 2 ^ (bits + 1 + 52) := by
      rw [← Nat.pow_add]
      congr 1
      omega
    rw [hpower] at hnumber
    exact_mod_cast hnumber
  have hpos : (0 : Rat) < number := (zpow_pos (by decide) _).trans_le hlow
  have hexponent := (le_unitExponent hlow).trans (unitExponent_le_round _)
  rw [round_of_roundMagnitude? hpos.ne' hround] at hexponent
  change ((bits + 1 : Nat) : Int) ≤ magnitude.exponent at hexponent
  refine ⟨?_, hexponent⟩
  obtain ⟨-, -, -, hleading | hleast⟩ := magnitude.canonical
  · exact hleading
  · rw [hleast] at hexponent
    unfold leastExponent at hexponent
    omega

/-- A number far below the last place of an integer is rounded away when it is added. -/
theorem ofNat_add_of_small {number small bits : Nat} (hnumber : 2 ^ 53 * 2 ^ bits ≤ number)
    (hsmall : small < 2 ^ bits) (hrepresentable : IsRepresentable small) :
    (ofNat number).add (ofNat small) = ofNat number := by
  obtain ⟨term, hterm, hvalue⟩ := exists_ofNat_eq hrepresentable
  rw [hterm, ofNat_eq_ofMagnitude]
  unfold ofMagnitude
  cases hround : roundMagnitude? (number : Rat) with
  | none => rfl
  | some magnitude =>
      obtain ⟨hleading, hexponent⟩ := leading_of_roundMagnitude? hnumber hround
      have hhalf : 2 * term.toRat < powerOfTwo magnitude.exponent := by
        rw [hvalue, powerOfTwo_eq]
        calc (2 : Rat) * small < 2 * 2 ^ bits := by
              exact_mod_cast Nat.mul_lt_mul_of_pos_left hsmall (by decide)
          _ = 2 ^ ((bits + 1 : Nat) : Int) := by rw [zpow_natCast, pow_succ']
          _ ≤ 2 ^ magnitude.exponent := zpow_le_zpow_right₀ (by norm_num) hexponent
      have hsignificand : magnitude.significand ≠ 0 := by
        unfold leadingBit at hleading
        omega
      have hpos : 0 < magnitude.toRat + term.toRat :=
        add_pos_of_pos_of_nonneg (Magnitude.toRat_pos hsignificand) term.toRat_nonneg
      show ofRat false (magnitude.toRat + term.toRat) = .finite false magnitude
      rw [ofRat_eq_ofMagnitude hpos.le, ofMagnitude,
        roundMagnitude?_add_of_small hleading term.toRat_nonneg hhalf]

/-! ## Integers with more than 53 bits -/

/-- The bits behind a number of units make up more than one half of a unit, or one half behind an
odd number. -/
def RoundsUp (units bits tail : Nat) : Prop :=
  2 ^ bits < 2 * tail ∨ 2 ^ bits = 2 * tail ∧ units % 2 = 1

instance (units bits tail : Nat) : Decidable (RoundsUp units bits tail) :=
  inferInstanceAs (Decidable (_ ∨ _))

/-- An integer that is too large for a magnitude. -/
theorem ofNat_of_large {number : Nat} (hlarge : 2 ^ 1024 ≤ number) :
    ofNat number = .infinity false := by
  have hcast : (2 : Rat) ^ (1024 : Int) ≤ number := by exact_mod_cast hlarge
  rw [ofNat_eq_ofMagnitude, ofMagnitude, roundMagnitude?_of_large hcast]

/-- Natural numbers that are turned into one number have one nearest magnitude. -/
theorem roundMagnitude?_of_ofNat_eq {number other : Nat} (hsame : ofNat number = ofNat other) :
    roundMagnitude? (number : Rat) = roundMagnitude? (other : Rat) := by
  rw [ofNat_eq_ofMagnitude, ofNat_eq_ofMagnitude] at hsame
  unfold ofMagnitude at hsame
  cases hnumber : roundMagnitude? (number : Rat) with
  | none =>
      cases hother : roundMagnitude? (other : Rat) with
      | none => rfl
      | some magnitude =>
          rw [hnumber, hother] at hsame
          cases hsame
  | some magnitude =>
      cases hother : roundMagnitude? (other : Rat) with
      | none =>
          rw [hnumber, hother] at hsame
          cases hsame
      | some larger =>
          rw [hnumber, hother] at hsame
          cases hsame
          rfl

/-- A number with more than 53 bits is a number of units of its last place and what is left. -/
theorem exists_units_eq {number : Nat} (hnumber : 2 ^ 53 ≤ number) :
    ∃ units bits tail, 2 ^ 52 ≤ units ∧ units < 2 ^ 53 ∧ tail < 2 ^ (bits + 1) ∧
      number = units * 2 ^ (bits + 1) + tail := by
  have hne : number ≠ 0 := by
    rintro rfl
    exact absurd hnumber (by decide)
  have hlog : 53 ≤ number.log2 := (Nat.le_log2 hne).2 hnumber
  obtain ⟨bits, hbits⟩ : ∃ bits, number.log2 = 52 + (bits + 1) :=
    ⟨number.log2 - 53, by omega⟩
  have hleast := Nat.log2_self_le hne
  have hgreatest := @Nat.lt_log2_self number
  rw [hbits] at hleast hgreatest
  have hunit : 0 < 2 ^ (bits + 1) := Nat.pow_pos (by decide)
  refine ⟨number / 2 ^ (bits + 1), bits, number % 2 ^ (bits + 1), ?_, ?_, Nat.mod_lt _ hunit,
    (Nat.div_add_mod' _ _).symm⟩
  · rwa [Nat.le_div_iff_mul_le hunit, ← Nat.pow_add]
  · rw [Nat.div_lt_iff_lt_mul hunit, ← Nat.pow_add]
    exact hgreatest.trans_eq (congrArg (2 ^ ·) (by omega))

section Tail

variable {units bits tail other : Nat}

/-- The part of a unit that the bits behind it make up decides on the rounding. -/
theorem nearestEven_tail (htail : tail < 2 ^ bits) :
    nearestEven (((units : Int) : Rat) + (tail : Rat) / 2 ^ bits) =
      ((if RoundsUp units bits tail then units + 1 else units : Nat) : Int) := by
  have hpower : (0 : Rat) < 2 ^ bits := pow_pos (by decide) _
  have hbelow : 2 * ((tail : Rat) / 2 ^ bits) < 1 ↔ 2 * tail < 2 ^ bits := by
    rw [← mul_div_assoc, div_lt_one hpower]
    exact_mod_cast Iff.rfl
  have habove : 1 < 2 * ((tail : Rat) / 2 ^ bits) ↔ 2 ^ bits < 2 * tail := by
    rw [← mul_div_assoc, one_lt_div hpower]
    exact_mod_cast Iff.rfl
  have hfraction : (tail : Rat) / 2 ^ bits < 1 := by
    rw [div_lt_one hpower]
    exact_mod_cast htail
  rw [nearestEven_add (div_nonneg (Nat.cast_nonneg _) hpower.le) hfraction]
  rcases lt_trichotomy (2 * tail) (2 ^ bits) with hless | hhalf | hmore
  · rw [if_pos (hbelow.2 hless), if_neg (by unfold RoundsUp; omega)]
  · rw [if_neg (mt hbelow.1 hhalf.not_lt), if_neg (mt habove.1 hhalf.not_gt)]
    by_cases heven : units % 2 = 0
    · rw [if_pos (by omega), if_neg (by unfold RoundsUp; omega)]
    · rw [if_neg (by omega), if_pos (.inr ⟨hhalf.symm, by omega⟩)]
      rfl
  · rw [if_neg (mt hbelow.1 hmore.not_gt), if_pos (habove.2 hmore), if_pos (.inl hmore)]
    rfl

variable (hlow : 2 ^ 52 ≤ units)

include hlow

/-- A number with units is not zero, whatever bits follow them. -/
theorem natCast_units_ne_zero (bits tail : Nat) :
    ((units * 2 ^ bits + tail : Nat) : Rat) ≠ 0 := by
  have hproduct : 0 < units * 2 ^ bits := Nat.mul_pos (by omega) (Nat.pow_pos (by decide))
  exact_mod_cast (Nat.add_pos_left hproduct tail).ne'

variable (hhigh : units < 2 ^ 53)

include hhigh

/-- The bits behind the units do not move a number out of its power of two. -/
theorem units_bounds (htail : tail < 2 ^ bits) :
    2 ^ (bits + 52) ≤ units * 2 ^ bits + tail ∧ units * 2 ^ bits + tail < 2 ^ (bits + 53) := by
  constructor
  · calc 2 ^ (bits + 52) = 2 ^ 52 * 2 ^ bits := by rw [Nat.pow_add, Nat.mul_comm]
      _ ≤ units * 2 ^ bits := Nat.mul_le_mul_right _ hlow
      _ ≤ _ := Nat.le_add_right _ _
  · calc units * 2 ^ bits + tail < (units + 1) * 2 ^ bits := by
          rw [Nat.succ_mul]
          omega
      _ ≤ 2 ^ 53 * 2 ^ bits := Nat.mul_le_mul_right _ hhigh
      _ = 2 ^ (bits + 53) := by rw [Nat.pow_add, Nat.mul_comm]

/-- The first 53 bits of an integer that is in range have a last place that is in range. -/
theorem units_lt_iff (htail : tail < 2 ^ bits) :
    units * 2 ^ bits + tail < 2 ^ 1024 ↔ bits ≤ 971 := by
  obtain ⟨hleast, hgreatest⟩ := units_bounds hlow hhigh htail
  constructor
  · intro hsmall
    have hexponent := (Nat.pow_lt_pow_iff_right (by decide)).1 (hleast.trans_lt hsmall)
    omega
  · intro hbits
    refine hgreatest.trans_le ?_
    apply Nat.pow_le_pow_right (by decide)
    omega

/-- The units of the last place are rounded by the bits behind them. -/
theorem round_units (htail : tail < 2 ^ bits) :
    double.round ((units * 2 ^ bits + tail : Nat) : Rat) =
      if RoundsUp units bits tail then
        if units + 1 = 2 ^ 53 then (2 ^ 52, (bits : Int) + 1) else (units + 1, (bits : Int))
      else (units, (bits : Int)) := by
  have hpower : (2 : Rat) ^ bits ≠ 0 := pow_ne_zero _ (by decide)
  have hexponent : double.unitExponent ((units * 2 ^ bits + tail : Nat) : Rat) = bits := by
    apply unitExponent_of_bounds (by omega)
    · exact_mod_cast (units_bounds hlow hhigh htail).1
    · exact_mod_cast (units_bounds hlow hhigh htail).2
  have hquotient : ((units * 2 ^ bits + tail : Nat) : Rat) / powerOfTwo bits =
      ((units : Int) : Rat) + (tail : Rat) / 2 ^ bits := by
    rw [powerOfTwo_eq, zpow_natCast, Nat.cast_add, Nat.cast_mul, Nat.cast_pow, Nat.cast_ofNat,
      add_div, mul_div_cancel_right₀ _ hpower, Int.cast_natCast]
  unfold BinaryFormat.round
  dsimp only
  rw [hexponent, hquotient, nearestEven_tail htail, Int.toNat_natCast]
  show (if _ = 2 ^ 53 then (2 ^ 52, (bits : Int) + 1) else _) = _
  split_ifs <;> first | rfl | omega

/-- An integer that is not rounded up keeps its units, and one that is rounded up does not. -/
theorem roundMagnitude?_units_iff (hcanonical : Canonical units bits) (htail : tail < 2 ^ bits) :
    roundMagnitude? ((units * 2 ^ bits + tail : Nat) : Rat) = some ⟨units, bits, hcanonical⟩ ↔
      ¬RoundsUp units bits tail := by
  have hpos := natCast_units_ne_zero hlow bits tail
  have hround := round_units hlow hhigh htail
  constructor
  · intro hparts hup
    rw [round_of_roundMagnitude? hpos hparts, if_pos hup] at hround
    split at hround
    · have hexponent : (bits : Int) = bits + 1 := (Prod.mk.inj hround).2
      omega
    · have hunits : units = units + 1 := (Prod.mk.inj hround).1
      omega
  · intro hdown
    rw [if_neg hdown] at hround
    unfold roundMagnitude?
    rw [if_neg hpos, hround]
    exact dif_pos hcanonical

/-- Integers with the same first 53 bits are rounded to the same number if the other bits of both
round up or those of neither do, and for the infinity in any case. -/
theorem ofNat_tail_eq_iff (htail : tail < 2 ^ bits) (hother : other < 2 ^ bits) :
    ofNat (units * 2 ^ bits + tail) = ofNat (units * 2 ^ bits + other) ↔
      971 < bits ∨ (RoundsUp units bits tail ↔ RoundsUp units bits other) := by
  by_cases hbits : 971 < bits
  · have hlarge : ∀ behind < 2 ^ bits,
        ofNat (units * 2 ^ bits + behind) = .infinity false := by
      intro behind hbehind
      refine ofNat_of_large (Nat.le_of_not_lt fun hsmall ↦ ?_)
      exact hbits.not_ge ((units_lt_iff hlow hhigh hbehind).1 hsmall)
    rw [hlarge tail htail, hlarge other hother]
    exact iff_of_true rfl (.inl hbits)
  · have hcanonical : Canonical units bits := by
      unfold Canonical leadingBit leastExponent greatestExponent
      omega
    have htailIff := roundMagnitude?_units_iff hlow hhigh hcanonical htail
    have hotherIff := roundMagnitude?_units_iff hlow hhigh hcanonical hother
    rw [or_iff_right hbits]
    constructor
    · intro hsame
      rw [roundMagnitude?_of_ofNat_eq hsame] at htailIff
      exact not_iff_not.1 (htailIff.symm.trans hotherIff)
    · intro hsame
      have hround : double.round ((units * 2 ^ bits + tail : Nat) : Rat) =
          double.round ((units * 2 ^ bits + other : Nat) : Rat) := by
        rw [round_units hlow hhigh htail, round_units hlow hhigh hother]
        simp only [hsame]
      rw [ofNat_eq_ofMagnitude, ofNat_eq_ofMagnitude]
      unfold ofMagnitude
      rw [roundMagnitude?_congr (natCast_units_ne_zero hlow _ _) (natCast_units_ne_zero hlow _ _)
        hround]

/-- Zeros in the place of bits that do not reach the last place are rounded like them, unless the
integer is halfway between two numbers without them, the lower of which is even. -/
theorem ofNat_mul_eq_iff {zeros rest : Nat} (htail : tail < 2 ^ (bits + 1))
    (hrest : rest < 2 ^ zeros) :
    ofNat ((units * 2 ^ (bits + 1) + tail) * 2 ^ zeros) =
        ofNat ((units * 2 ^ (bits + 1) + tail) * 2 ^ zeros + rest) ↔
      ((units * 2 ^ (bits + 1) + tail) * 2 ^ zeros + rest < 2 ^ 1024 →
        ¬(tail = 2 ^ bits ∧ units % 2 = 0 ∧ rest ≠ 0)) := by
  have hunit : 2 ^ (bits + 1 + zeros) = 2 * (2 ^ bits * 2 ^ zeros) := by
    rw [Nat.pow_add, Nat.pow_succ', Nat.mul_assoc]
  have hbehind : tail * 2 ^ zeros + rest < 2 ^ (bits + 1 + zeros) := by
    calc tail * 2 ^ zeros + rest < (tail + 1) * 2 ^ zeros := by
          rw [Nat.succ_mul]
          omega
      _ ≤ 2 ^ (bits + 1) * 2 ^ zeros := Nat.mul_le_mul_right _ htail
      _ = 2 ^ (bits + 1 + zeros) := (Nat.pow_add _ _ _).symm
  have hsplit : (units * 2 ^ (bits + 1) + tail) * 2 ^ zeros =
      units * 2 ^ (bits + 1 + zeros) + tail * 2 ^ zeros := by
    rw [Nat.add_mul, Nat.mul_assoc, ← Nat.pow_add]
  have hlarge : 971 < bits + 1 + zeros ↔
      ¬units * 2 ^ (bits + 1 + zeros) + (tail * 2 ^ zeros + rest) < 2 ^ 1024 := by
    rw [units_lt_iff hlow hhigh hbehind, Nat.not_le]
  have hup : (RoundsUp units (bits + 1 + zeros) (tail * 2 ^ zeros) ↔
      RoundsUp units (bits + 1 + zeros) (tail * 2 ^ zeros + rest)) ↔
        ¬(tail = 2 ^ bits ∧ units % 2 = 0 ∧ rest ≠ 0) := by
    unfold RoundsUp
    rw [hunit]
    rcases lt_trichotomy tail (2 ^ bits) with hless | rfl | hmore
    · have hproduct : (tail + 1) * 2 ^ zeros ≤ 2 ^ bits * 2 ^ zeros :=
        Nat.mul_le_mul_right _ hless
      rw [Nat.succ_mul] at hproduct
      omega
    · omega
    · have hproduct : (2 ^ bits + 1) * 2 ^ zeros ≤ tail * 2 ^ zeros :=
        Nat.mul_le_mul_right _ hmore
      rw [Nat.succ_mul] at hproduct
      omega
  rw [hsplit, Nat.add_assoc (units * _), ofNat_tail_eq_iff hlow hhigh (by omega) hbehind, hlarge,
    hup]
  exact imp_iff_not_or.symm

end Tail

end Binary64

end Numbering
