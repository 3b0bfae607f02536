import Mathlib.Tactic.Positivity
import Mathlib.Tactic.Ring
import Numbering.Binary64.Arithmetic
import Numbering.Proofs.Binary64.Rounding

/-!
# Integers among the binary64 numbers

Every natural number up to `2 ^ 53` is the value of a magnitude (`Magnitude.exists_toRat_eq`), so
that sums and products of integers are exact as long as they stay in this range
(`Binary64.HasValue.add`, `Binary64.HasValue.mul`). Rounding never falls below a power of two
(`Binary64.zpow_le_toRat_of_roundMagnitude?`), and no other integer is rounded to one below
`2 ^ 53` (`Binary64.eq_of_roundMagnitude?_natCast`).
-/

namespace Numbering

/-! ## Rounding to an integer -/

/-- The nearest integer is one of the two around a number. -/
theorem nearestEven_cases (number : Rat) :
    nearestEven number = number.floor ∨ nearestEven number = number.floor + 1 := by
  unfold nearestEven
  dsimp only
  split
  · exact .inl rfl
  · split
    · exact .inr rfl
    · split
      · exact .inl rfl
      · exact .inr rfl

/-- Rounding does not fall below an integer. -/
theorem le_nearestEven {number : Rat} {bound : Int} (hbound : (bound : Rat) ≤ number) :
    bound ≤ nearestEven number := by
  have hfloor : bound ≤ number.floor := Rat.le_floor_iff.2 hbound
  have hcases := nearestEven_cases number
  omega

/-- Rounding does not rise above an integer. -/
theorem nearestEven_le {number : Rat} {bound : Int} (hbound : number ≤ bound) :
    nearestEven number ≤ bound := by
  rcases hbound.lt_or_eq with hlt | rfl
  · have hfloor : number.floor < bound := Rat.floor_lt_iff.2 hlt
    have hcases := nearestEven_cases number
    omega
  · exact (nearestEven_intCast bound).le

/-! ## Rounding to a magnitude -/

/-- A magnitude has the value of the significand and exponent it is made of. -/
theorem Magnitude.toRat_of_ofParts? {significand : Nat} {exponent : Int} {magnitude : Magnitude}
    (hparts : ofParts? significand exponent = some magnitude) :
    magnitude.toRat = (significand : Rat) * powerOfTwo exponent := by
  unfold ofParts? at hparts
  split at hparts
  · cases hparts
    rfl
  · cases hparts

namespace BinaryFormat

section Scaled

variable {number : Rat} (hpos : 0 < number)

include hpos

/-- A number has at most 53 bits in its last place. -/
theorem div_unit_lt : number / powerOfTwo (double.unitExponent number) < 2 ^ 53 := by
  have hlog : number < (2 : Rat) ^ (Int.log 2 number + 1) := Int.lt_zpow_succ_log_self (by decide) _
  have hunit : Int.log 2 number - 52 ≤ double.unitExponent number := by
    rw [← floorLog2_eq hpos]
    exact Int.le_max_right _ _
  rw [div_lt_iff₀ (powerOfTwo_pos _), powerOfTwo_eq, ← zpow_natCast, ← zpow_add₀ (by decide)]
  exact hlog.trans_le (zpow_le_zpow_right₀ (by decide) (by omega))

/-- A number has no less than 53 bits in its last place, unless that is the last place of all. -/
theorem le_div_unit (hunit : double.unitExponent number ≠ Binary64.leastExponent) :
    2 ^ 52 ≤ number / powerOfTwo (double.unitExponent number) := by
  have hlog : (2 : Rat) ^ Int.log 2 number ≤ number := Int.zpow_log_le_self (by decide) hpos
  have hexponent : double.unitExponent number = Int.log 2 number - 52 := by
    rw [← floorLog2_eq hpos]
    unfold unitExponent at hunit ⊢
    exact max_eq_right (le_of_lt (lt_of_not_ge fun hle ↦ hunit (max_eq_left hle)))
  rw [le_div_iff₀ (powerOfTwo_pos _), powerOfTwo_eq, hexponent, ← zpow_natCast,
    ← zpow_add₀ (by decide)]
  simpa using hlog

/-- The carry into a new bit does not change the value that is rounded to. -/
theorem toRat_round : ((double.round number).1 : Rat) * powerOfTwo (double.round number).2 =
    (nearestEven (number / powerOfTwo (double.unitExponent number)) : Rat) *
      powerOfTwo (double.unitExponent number) := by
  have hnonneg : 0 ≤ nearestEven (number / powerOfTwo (double.unitExponent number)) :=
    le_nearestEven (by simpa using (div_pos hpos (powerOfTwo_pos _)).le)
  have hcast : (((nearestEven (number / powerOfTwo (double.unitExponent number))).toNat : Nat) :
      Rat) = nearestEven (number / powerOfTwo (double.unitExponent number)) := by
    exact_mod_cast Int.toNat_of_nonneg hnonneg
  unfold round
  dsimp only
  split
  · rename_i hcarry
    rw [← hcast, hcarry, powerOfTwo_eq, powerOfTwo_eq, zpow_add_one₀ (by decide)]
    have hdouble : ((Nat.pow 2 double.precision : Nat) : Rat) =
        (Nat.pow 2 (double.precision - 1) : Nat) * 2 := by
      exact_mod_cast (by decide : Nat.pow 2 double.precision = Nat.pow 2 (double.precision - 1) * 2)
    rw [hdouble]
    ring
  · rw [hcast]

/-- Rounding gives parts that are canonical but for the upper limit on exponents. -/
theorem round_bounds : (double.round number).1 < 2 ^ 53 ∧ -1074 ≤ (double.round number).2 ∧
    (2 ^ 52 ≤ (double.round number).1 ∨ (double.round number).2 = -1074) := by
  have hbits : nearestEven (number / powerOfTwo (double.unitExponent number)) ≤ 2 ^ 53 :=
    nearestEven_le (by exact_mod_cast (div_unit_lt hpos).le)
  have hleast : -1074 ≤ double.unitExponent number := Int.le_max_left _ _
  have hleading : 2 ^ 52 ≤ nearestEven (number / powerOfTwo (double.unitExponent number)) ∨
      double.unitExponent number = -1074 := by
    by_cases hunit : double.unitExponent number = Binary64.leastExponent
    · exact .inr hunit
    · exact .inl (le_nearestEven (by exact_mod_cast le_div_unit hpos hunit))
  have hprecision : Nat.pow 2 double.precision = 2 ^ 53 := rfl
  have hhalf : Nat.pow 2 (double.precision - 1) = 2 ^ 52 := rfl
  unfold round
  dsimp only
  rw [hprecision, hhalf]
  split
  · refine ⟨?_, ?_, ?_⟩ <;> dsimp only <;> omega
  · refine ⟨?_, ?_, ?_⟩ <;> dsimp only <;> omega

/-- Rounding gives canonical parts unless the exponent is too great. -/
theorem canonical_round_of_le (hgreatest : (double.round number).2 ≤ 971) :
    Binary64.Canonical (double.round number).1 (double.round number).2 := by
  obtain ⟨hbits, hleast, hleading⟩ := round_bounds hpos
  exact ⟨hbits, hleast, hgreatest, hleading⟩

/-- Rounding a number that is not too large gives canonical parts. -/
theorem canonical_round (hsmall : number < (2 : Rat) ^ (1023 : Int)) :
    Binary64.Canonical (double.round number).1 (double.round number).2 := by
  have hgreatest : double.unitExponent number ≤ 970 := by
    have hlog := (Int.lt_zpow_iff_log_lt (by decide) hpos).1 hsmall
    rw [← floorLog2_eq hpos] at hlog
    exact max_le (by decide) (by show floorLog2 number - 52 ≤ 970; omega)
  apply canonical_round_of_le hpos
  unfold round
  dsimp only
  split
  · exact Int.add_le_add_right hgreatest 1
  · exact hgreatest.trans (by decide)

end Scaled

end BinaryFormat

namespace Binary64

/-- A number that is not too large is rounded to a magnitude. -/
theorem exists_roundMagnitude? {number : Rat} (hnonneg : 0 ≤ number)
    (hsmall : number < (2 : Rat) ^ (1023 : Int)) :
    ∃ magnitude, roundMagnitude? number = some magnitude := by
  unfold roundMagnitude?
  split
  · exact ⟨.zero, rfl⟩
  · rename_i hzero
    have hpos : 0 < number := lt_of_le_of_ne hnonneg (Ne.symm hzero)
    exact ⟨_, dif_pos (BinaryFormat.canonical_round hpos hsmall)⟩

/-- Rounding does not fall below a power of two. -/
theorem zpow_le_toRat_of_roundMagnitude? {number : Rat} {magnitude : Magnitude} {exponent : Int}
    (hexponent : -1022 < exponent) (hlow : (2 : Rat) ^ exponent ≤ number)
    (hround : roundMagnitude? number = some magnitude) :
    (2 : Rat) ^ exponent ≤ magnitude.toRat := by
  have hpos : 0 < number := (zpow_pos (by decide) exponent).trans_le hlow
  have hlog : exponent ≤ floorLog2 number := by
    rw [floorLog2_eq hpos]
    exact (Int.zpow_le_iff_le_log (by decide) hpos).1 hlow
  have hunit : exponent ≤ 52 + BinaryFormat.double.unitExponent number := by
    have hmax := Int.le_max_right leastExponent (floorLog2 number - 52)
    show exponent ≤ 52 + max leastExponent (floorLog2 number - 52)
    omega
  have hleast : BinaryFormat.double.unitExponent number ≠ leastExponent := by
    unfold leastExponent
    omega
  unfold roundMagnitude? at hround
  rw [if_neg hpos.ne'] at hround
  rw [Magnitude.toRat_of_ofParts? hround, BinaryFormat.toRat_round hpos]
  have hleading : 2 ^ 52 ≤ nearestEven
      (number / powerOfTwo (BinaryFormat.double.unitExponent number)) :=
    le_nearestEven (by exact_mod_cast BinaryFormat.le_div_unit hpos hleast)
  calc (2 : Rat) ^ exponent ≤ 2 ^ (52 + BinaryFormat.double.unitExponent number) :=
        zpow_le_zpow_right₀ (by norm_num) hunit
    _ = 2 ^ 52 * powerOfTwo (BinaryFormat.double.unitExponent number) := by
        rw [zpow_add₀ (by decide), powerOfTwo_eq]
        rfl
    _ ≤ _ := mul_le_mul_of_nonneg_right (by exact_mod_cast hleading) (powerOfTwo_pos _).le

end Binary64

/-! ## Integers as magnitudes -/

/-- Only the magnitude zero has the significand zero. -/
theorem Magnitude.significand_eq_zero_iff {magnitude : Magnitude} :
    magnitude.significand = 0 ↔ magnitude.toRat = 0 := by
  constructor
  · intro hsignificand
    rw [Magnitude.toRat, hsignificand, Nat.cast_zero, zero_mul]
  · intro hvalue
    by_contra hsignificand
    exact (Magnitude.toRat_pos hsignificand).ne' hvalue

/-- Every natural number up to `2 ^ 53` is the value of a magnitude. -/
theorem Magnitude.exists_toRat_eq {number : Nat} (hnumber : number ≤ 2 ^ 53) :
    ∃ magnitude : Magnitude, magnitude.toRat = number := by
  rcases Nat.eq_zero_or_pos number with rfl | hpos
  · exact ⟨.zero, (zero_mul _).trans Nat.cast_zero.symm⟩
  · rcases hnumber.lt_or_eq with hlt | rfl
    · have hlog : number.log2 ≤ 52 := by
        have := (Nat.log2_lt hpos.ne').2 hlt
        omega
      have hlow := Nat.log2_self_le hpos.ne'
      have hhigh := @Nat.lt_log2_self number
      have hsplit : 2 ^ number.log2 * 2 ^ (52 - number.log2) = 2 ^ 52 := by
        rw [← Nat.pow_add, Nat.add_sub_cancel' hlog]
      -- The significand is shifted up until its first bit is the leading one.
      refine ⟨⟨number * 2 ^ (52 - number.log2), number.log2 - 52, ?_, ?_, ?_, .inl ?_⟩, ?_⟩
      · show number * 2 ^ (52 - number.log2) < 2 * 2 ^ 52
        calc number * 2 ^ (52 - number.log2)
            < 2 ^ (number.log2 + 1) * 2 ^ (52 - number.log2) :=
              Nat.mul_lt_mul_of_pos_right hhigh (Nat.pow_pos (by decide))
          _ = 2 * 2 ^ 52 := by rw [Nat.pow_succ', Nat.mul_assoc, hsplit]
      · show -1074 ≤ (number.log2 : Int) - 52
        omega
      · show (number.log2 : Int) - 52 ≤ 971
        omega
      · show 2 ^ 52 ≤ number * 2 ^ (52 - number.log2)
        rw [← hsplit]
        exact Nat.mul_le_mul_right _ hlow
      · have hexponent : (number.log2 : Int) - 52 = -((52 - number.log2 : Nat) : Int) := by omega
        rw [Magnitude.toRat, powerOfTwo_eq]
        dsimp only
        rw [hexponent, zpow_neg, zpow_natCast, Nat.cast_mul, Nat.cast_pow, Nat.cast_ofNat]
        exact mul_inv_cancel_right₀ (pow_ne_zero _ (by decide)) _
    · refine ⟨⟨Binary64.leadingBit, 1, by decide⟩, ?_⟩
      rw [Magnitude.toRat, powerOfTwo_eq]
      norm_num [Binary64.leadingBit]

namespace Binary64

/-- An integer that is rounded to one below `2 ^ 53` is this one. -/
theorem eq_of_roundMagnitude?_natCast {number other : Nat} {magnitude : Magnitude}
    (hnumber : number < 2 ^ 53) (hvalue : magnitude.toRat = number)
    (hround : roundMagnitude? (other : Rat) = some magnitude) : other = number := by
  rcases Nat.lt_or_ge (2 ^ 53) other with hlarge | hsmall
  · have hlow : (2 : Rat) ^ (53 : Int) ≤ other := by exact_mod_cast hlarge.le
    have hbelow := zpow_le_toRat_of_roundMagnitude? (by decide) hlow hround
    rw [hvalue] at hbelow
    have : 2 ^ 53 ≤ number := by exact_mod_cast hbelow
    omega
  · obtain ⟨exact, hexact⟩ := Magnitude.exists_toRat_eq hsmall
    rw [← hexact, roundMagnitude?_toRat] at hround
    cases hround
    exact_mod_cast hexact.symm.trans hvalue

/-! ## Integers as numbers -/

/-- The number is finite and its value is an integer. Either zero has the value zero. -/
structure HasValue (number : Binary64) (value : Int) : Prop where
  isFinite : number.isFinite = true
  toRat : number.toRat = value

variable {number other : Binary64} {value otherValue : Int}

/-- A number with an integer value is a sign and a magnitude. -/
theorem HasValue.exists_finite (hnumber : number.HasValue value) :
    ∃ negative magnitude, number = .finite negative magnitude ∧
      magnitude.toRat = (value.natAbs : Rat) ∧
      (if negative then -(value.natAbs : Int) else value.natAbs) = value := by
  cases number with
  | nan => cases hnumber.isFinite
  | infinity negative => cases hnumber.isFinite
  | finite negative magnitude =>
      have hvalue := hnumber.toRat
      have hnonneg : 0 ≤ magnitude.toRat :=
        mul_nonneg (Nat.cast_nonneg _) (powerOfTwo_pos _).le
      refine ⟨negative, magnitude, rfl, ?_⟩
      cases negative with
      | true =>
          have hnegative : -magnitude.toRat = value := hvalue
          have hle : value ≤ 0 := by
            have : (value : Rat) ≤ 0 := by linarith
            exact_mod_cast this
          rw [Nat.cast_natAbs, abs_of_nonpos hle, Int.cast_neg]
          exact ⟨by linarith, by rw [if_pos rfl]; omega⟩
      | false =>
          have hpositive : magnitude.toRat = value := hvalue
          have hle : 0 ≤ value := by
            have : (0 : Rat) ≤ value := by linarith
            exact_mod_cast this
          rw [Nat.cast_natAbs, abs_of_nonneg hle]
          exact ⟨hpositive, by rw [if_neg Bool.false_ne_true]; omega⟩

/-- A natural number up to `2 ^ 53` is kept, with either sign. -/
theorem hasValue_ofMagnitude (negative : Bool) {magnitude : Nat} (hmagnitude : magnitude ≤ 2 ^ 53) :
    (ofMagnitude negative magnitude).HasValue
      (if negative then -(magnitude : Int) else magnitude) := by
  obtain ⟨exact, hexact⟩ := Magnitude.exists_toRat_eq hmagnitude
  have hround : ofMagnitude negative magnitude = .finite negative exact := by
    unfold ofMagnitude
    rw [← hexact, roundMagnitude?_toRat]
  rw [hround]
  refine ⟨rfl, ?_⟩
  unfold Binary64.toRat
  cases negative with
  | true => simp [hexact]
  | false => simp [hexact]

/-- Both zeros have the value zero. -/
theorem hasValue_signedZero (negative : Bool) : (signedZero negative).HasValue 0 := by
  refine ⟨rfl, ?_⟩
  cases negative <;> simp [signedZero, Binary64.toRat, Magnitude.toRat, Magnitude.zero]

/-- An integer up to `2 ^ 53` is exact, whatever the sign of a zero. -/
theorem hasValue_ofRat (negativeZero : Bool) (hvalue : value.natAbs ≤ 2 ^ 53) :
    (ofRat negativeZero value).HasValue value := by
  unfold ofRat
  rcases lt_trichotomy value 0 with hbelow | rfl | habove
  · have habs : -(value.natAbs : Int) = value := by omega
    have hcast : -(value : Rat) = (value.natAbs : Rat) := by
      rw [Nat.cast_natAbs, abs_of_neg hbelow, Int.cast_neg]
    rw [if_neg (by exact_mod_cast hbelow.ne), if_pos (by exact_mod_cast hbelow), hcast]
    have hexact := hasValue_ofMagnitude true hvalue
    rwa [if_pos rfl, habs] at hexact
  · rw [if_pos Int.cast_zero]
    exact hasValue_signedZero negativeZero
  · have habs : (value.natAbs : Int) = value := by omega
    have hcast : (value : Rat) = (value.natAbs : Rat) := by
      rw [Nat.cast_natAbs, abs_of_pos habove]
    rw [if_neg (by exact_mod_cast habove.ne'), if_neg (by exact_mod_cast habove.le.not_gt), hcast]
    have hexact := hasValue_ofMagnitude false hvalue
    rwa [if_neg Bool.false_ne_true, habs] at hexact

/-- A natural number up to `2 ^ 53` is kept. -/
theorem hasValue_ofNat {number : Nat} (hnumber : number ≤ 2 ^ 53) :
    (ofNat number).HasValue number := by
  have hexact : (ofRat false ((number : Int) : Rat)).HasValue number := hasValue_ofRat false hnumber
  rwa [Int.cast_natCast] at hexact

/-- A natural number that is not too large is rounded to a finite one. -/
theorem isFinite_ofNat {number exponent : Nat} (hexponent : exponent ≤ 1023)
    (hnumber : number < 2 ^ exponent) : (ofNat number).isFinite = true := by
  unfold ofNat ofRat
  split
  · rfl
  · rw [if_neg (Nat.cast_nonneg number).not_gt]
    have hsmall : (number : Rat) < 2 ^ (1023 : Int) := by
      calc (number : Rat) < 2 ^ (exponent : Int) := by exact_mod_cast hnumber
        _ ≤ 2 ^ (1023 : Int) := zpow_le_zpow_right₀ (by norm_num) (by exact_mod_cast hexponent)
    obtain ⟨magnitude, hround⟩ := exists_roundMagnitude? (Nat.cast_nonneg number) hsmall
    unfold ofMagnitude
    rw [hround]
    rfl

/-- Sums of integers are exact up to `2 ^ 53`. -/
theorem HasValue.add (hnumber : number.HasValue value) (hother : other.HasValue otherValue)
    (hsum : (value + otherValue).natAbs ≤ 2 ^ 53) :
    (number.add other).HasValue (value + otherValue) := by
  obtain ⟨first, x, rfl, -⟩ := hnumber.exists_finite
  obtain ⟨second, y, rfl, -⟩ := hother.exists_finite
  have hexact := hasValue_ofRat (first && second) hsum
  rwa [Int.cast_add, ← hnumber.toRat, ← hother.toRat] at hexact

/-- Products of integers are exact up to `2 ^ 53`. -/
theorem HasValue.mul (hnumber : number.HasValue value) (hother : other.HasValue otherValue)
    (hproduct : (value * otherValue).natAbs ≤ 2 ^ 53) :
    (number.mul other).HasValue (value * otherValue) := by
  obtain ⟨first, x, rfl, hx, hfirst⟩ := hnumber.exists_finite
  obtain ⟨second, y, rfl, hy, hsecond⟩ := hother.exists_finite
  rw [Int.natAbs_mul] at hproduct
  have hexact := hasValue_ofMagnitude (first ^^ second) hproduct
  have hsign : (if (first ^^ second) = true then -((value.natAbs * otherValue.natAbs : Nat) : Int)
      else (value.natAbs * otherValue.natAbs : Nat)) = value * otherValue := by
    conv_rhs => rw [← hfirst, ← hsecond]
    cases first <;> cases second <;> simp
  rwa [hsign, Nat.cast_mul, ← hx, ← hy] at hexact

/-- A finite number times zero is zero. -/
theorem HasValue.mul_zero (hnumber : number.isFinite = true) (hother : other.HasValue 0) :
    (number.mul other).HasValue 0 := by
  obtain ⟨second, y, rfl, hy, -⟩ := hother.exists_finite
  cases number with
  | nan => cases hnumber
  | infinity negative => cases hnumber
  | finite first x =>
      have hproduct : x.toRat * y.toRat = 0 := by rw [hy, Int.natAbs_zero, Nat.cast_zero, mul_zero]
      show (ofMagnitude (first ^^ second) (x.toRat * y.toRat)).HasValue 0
      rw [hproduct]
      exact hasValue_signedZero _

/-- An integer is its own integer part. -/
theorem HasValue.truncate (hnumber : number.HasValue value) : number.truncate = number := by
  obtain ⟨negative, magnitude, rfl, hmagnitude, -⟩ := hnumber.exists_finite
  have hfloor : (magnitude.toRat.floor : Rat) = magnitude.toRat := by
    rw [hmagnitude, ← Int.cast_natCast, Rat.floor_intCast]
  show ofMagnitude negative magnitude.toRat.floor = .finite negative magnitude
  unfold ofMagnitude
  rw [hfloor, roundMagnitude?_toRat]

/-- Whether an integer is at least zero can be told from its number. -/
theorem HasValue.isAtLeastZero (hnumber : number.HasValue value) :
    number.isAtLeastZero = decide (0 ≤ value) := by
  obtain ⟨negative, magnitude, rfl, hmagnitude, hsign⟩ := hnumber.exists_finite
  have hzero : magnitude.significand = 0 ↔ value = 0 := by
    rw [Magnitude.significand_eq_zero_iff, hmagnitude, Nat.cast_eq_zero, Int.natAbs_eq_zero]
  cases negative with
  | true =>
      rw [if_pos rfl] at hsign
      simp [Binary64.isAtLeastZero, hzero]
      omega
  | false =>
      rw [if_neg Bool.false_ne_true] at hsign
      simp [Binary64.isAtLeastZero]
      omega

end Binary64

end Numbering
