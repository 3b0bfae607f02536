import Numbering.Proofs.Binary64.Nearness

/-!
# Rounding is correct

A number is rounded to the nearest magnitude, and of two that are equally near to the one with an
even significand (`Binary64.isNearest_of_roundMagnitude?`). There is no magnitude for it precisely
from half a unit above the greatest one on (`Binary64.roundMagnitude?_eq_none_iff`), and then the
infinity is taken (`Binary64.isCorrectlyRounded_ofMagnitude`). The magnitudes that are no multiples
of the last place of a number lie below its binade, and the least number of the binade is nearer
than they are.
-/

namespace Numbering

/-! ## Rounding to an integer -/

/-- Another integer than the one that a number is rounded to is at least one half away. -/
theorem half_le_abs_sub {number : Rat} {integer : Int} (hne : integer ≠ nearestEven number) :
    1 / 2 ≤ |(integer : Rat) - number| := by
  have hrounded := abs_nearestEven_sub_le number
  have hone : (1 : Rat) ≤ |(integer : Rat) - nearestEven number| := by
    exact_mod_cast Int.one_le_abs (sub_ne_zero.2 hne)
  have htriangle := abs_sub_le (integer : Rat) number (nearestEven number)
  rw [abs_sub_comm number] at htriangle
  linarith

/-- No integer is nearer to a number than the one that it is rounded to. -/
theorem abs_nearestEven_sub_le_abs (number : Rat) (integer : Int) :
    |(nearestEven number : Rat) - number| ≤ |(integer : Rat) - number| := by
  rcases eq_or_ne integer (nearestEven number) with rfl | hne
  · exact le_rfl
  · exact (abs_nearestEven_sub_le number).trans (half_le_abs_sub hne)

/-- Of two integers that are equally near the even one is taken. -/
theorem nearestEven_emod_two {number : Rat} {integer : Int} (hne : integer ≠ nearestEven number)
    (htie : |(integer : Rat) - number| = |(nearestEven number : Rat) - number|) :
    nearestEven number % 2 = 0 := by
  have hhalf := (half_le_abs_sub hne).trans_eq htie
  have hlow := Rat.floor_le number
  have hhigh := Rat.lt_floor_add_one number
  push_cast at hhigh
  unfold nearestEven at hhalf ⊢
  dsimp only at hhalf ⊢
  split at hhalf
  · rw [abs_of_nonpos (by linarith)] at hhalf
    linarith
  · split at hhalf
    · rw [Int.cast_add, Int.cast_one, abs_of_nonneg (by linarith)] at hhalf
      linarith
    · rw [if_neg ‹_›, if_neg ‹_›]
      split
      · assumption
      · omega

namespace Binary64

open BinaryFormat

/-- The magnitude is the one that is nearest to a number, and of two that are equally near the one
with an even significand. -/
structure IsNearest (number : Rat) (magnitude : Magnitude) : Prop where
  nearest : ∀ other : Magnitude, |magnitude.toRat - number| ≤ |other.toRat - number|
  even : ∀ other : Magnitude, other ≠ magnitude →
    |other.toRat - number| = |magnitude.toRat - number| → magnitude.significand % 2 = 0

/-- A magnitude is a multiple of a power of two unless it is below `2 ^ 52` times that power. -/
theorem exists_multiple_or_lt (magnitude : Magnitude) (exponent : Int) :
    (∃ multiple : Int, magnitude.toRat = multiple * powerOfTwo exponent) ∨
      magnitude.exponent < exponent ∧ magnitude.toRat < 2 ^ 52 * powerOfTwo exponent := by
  obtain ⟨significand, other, hbits, hleast, hgreatest, hleading⟩ := magnitude
  have hbits : significand < 2 ^ 53 := hbits
  rcases le_or_gt exponent other with hle | hlt
  · refine .inl ⟨significand * 2 ^ (other - exponent).toNat, ?_⟩
    have hpower : (2 : Rat) ^ other = 2 ^ (other - exponent).toNat * 2 ^ exponent := by
      rw [← zpow_natCast, ← zpow_add₀ (by decide)]
      congr 1
      omega
    rw [Magnitude.toRat, powerOfTwo_eq, powerOfTwo_eq, hpower]
    push_cast
    ring
  · refine .inr ⟨hlt, ?_⟩
    have hpower : (2 : Rat) ^ (other + 1) ≤ 2 ^ exponent :=
      zpow_le_zpow_right₀ (by norm_num) (by omega)
    have hpos : (0 : Rat) < 2 ^ other := zpow_pos (by norm_num) other
    have hcast : (significand : Rat) < 2 ^ 53 := by exact_mod_cast hbits
    rw [zpow_add_one₀ (by norm_num)] at hpower
    rw [Magnitude.toRat, powerOfTwo_eq, powerOfTwo_eq]
    calc (significand : Rat) * 2 ^ other < 2 ^ 53 * 2 ^ other :=
          mul_lt_mul_of_pos_right hcast hpos
      _ = 2 ^ 52 * (2 ^ other * 2) := by ring
      _ ≤ 2 ^ 52 * 2 ^ exponent := mul_le_mul_of_nonneg_left hpower (by norm_num)

/-- The distance of a multiple of a power of two is the distance of the factors, scaled. -/
theorem abs_multiple_sub (multiple exponent : Int) (number : Rat) :
    |(multiple : Rat) * powerOfTwo exponent - number| =
      |(multiple : Rat) - number / powerOfTwo exponent| * powerOfTwo exponent := by
  have hunit := powerOfTwo_pos exponent
  rw [← abs_of_pos hunit, ← abs_mul, abs_of_pos hunit, sub_mul, div_mul_cancel₀ _ hunit.ne']

section Nearest

variable {number : Rat} {magnitude : Magnitude} (hpos : 0 < number)
  (hround : roundMagnitude? number = some magnitude)

include hpos hround

/-- Multiples of the last place of a number are no nearer to it than what it is rounded to. -/
theorem abs_toRat_sub_le_of_multiple (multiple : Int) :
    |magnitude.toRat - number| ≤
      |(multiple : Rat) * powerOfTwo (double.unitExponent number) - number| := by
  rw [toRat_of_roundMagnitude? hpos hround, abs_multiple_sub, abs_multiple_sub]
  exact mul_le_mul_of_nonneg_right (abs_nearestEven_sub_le_abs _ _) (powerOfTwo_pos _).le

/-- Below the binade of a number every magnitude is farther away than what it is rounded to. -/
theorem abs_toRat_sub_lt {other : Magnitude}
    (hexponent : other.exponent < double.unitExponent number)
    (hsmall : other.toRat < 2 ^ 52 * powerOfTwo (double.unitExponent number)) :
    |magnitude.toRat - number| < |other.toRat - number| := by
  have hleast : double.unitExponent number ≠ leastExponent := by
    obtain ⟨-, hleast, -, -⟩ := other.canonical
    omega
  have hbinade : 2 ^ 52 * powerOfTwo (double.unitExponent number) ≤ number := by
    rw [← le_div_iff₀ (powerOfTwo_pos _)]
    exact le_div_unit hpos hleast
  have hfirst : |2 ^ 52 * powerOfTwo (double.unitExponent number) - number| =
      number - 2 ^ 52 * powerOfTwo (double.unitExponent number) := by
    rw [abs_sub_comm, abs_of_nonneg (by linarith)]
  have hnearest := abs_toRat_sub_le_of_multiple hpos hround (2 ^ 52)
  rw [Int.cast_pow, Int.cast_ofNat, hfirst] at hnearest
  rw [abs_sub_comm other.toRat, abs_of_nonneg (by linarith : 0 ≤ number - other.toRat)]
  linarith

/-- An even multiple of the last place has an even significand. -/
theorem significand_emod_two
    (heven : nearestEven (number / powerOfTwo (double.unitExponent number)) % 2 = 0) :
    magnitude.significand % 2 = 0 := by
  have hparts := congrArg Prod.fst (round_of_roundMagnitude? hpos.ne' hround)
  dsimp only at hparts
  rw [← hparts]
  unfold BinaryFormat.round
  dsimp only
  split
  · show Nat.pow 2 52 % 2 = 0
    decide
  · dsimp only
    omega

/-- A number is rounded to the nearest magnitude, and between two to the even one. -/
theorem isNearest_of_pos : IsNearest number magnitude where
  nearest other := by
    obtain ⟨multiple, hmultiple⟩ | ⟨hexponent, hsmall⟩ :=
      exists_multiple_or_lt other (double.unitExponent number)
    · rw [hmultiple]
      exact abs_toRat_sub_le_of_multiple hpos hround multiple
    · exact (abs_toRat_sub_lt hpos hround hexponent hsmall).le
  even other hne htie := by
    obtain ⟨multiple, hmultiple⟩ | ⟨hexponent, hsmall⟩ :=
      exists_multiple_or_lt other (double.unitExponent number)
    · have hunit := powerOfTwo_pos (double.unitExponent number)
      have hvalue := toRat_of_roundMagnitude? hpos hround
      refine significand_emod_two hpos hround (@nearestEven_emod_two _ multiple ?_ ?_)
      · rintro rfl
        exact hne (Magnitude.toRat_injective (hmultiple.trans hvalue.symm))
      · rw [hmultiple, hvalue, abs_multiple_sub, abs_multiple_sub] at htie
        exact mul_right_cancel₀ hunit.ne' htie
    · exact absurd htie (abs_toRat_sub_lt hpos hround hexponent hsmall).ne'

end Nearest

/-- A number is rounded to the nearest magnitude, zero to zero. -/
theorem isNearest_of_roundMagnitude? {number : Rat} {magnitude : Magnitude} (hnonneg : 0 ≤ number)
    (hround : roundMagnitude? number = some magnitude) : IsNearest number magnitude := by
  rcases hnonneg.eq_or_lt with rfl | hpos
  · cases hround
    have hzero : Magnitude.zero.toRat = 0 := zero_mul _
    refine ⟨fun other ↦ ?_, fun _ _ _ ↦ rfl⟩
    rw [hzero, sub_zero, abs_zero]
    exact abs_nonneg _
  · exact isNearest_of_pos hpos hround

/-! ## Numbers that are too large -/

/-- Half a unit above the greatest magnitude. -/
def overflowBound : Rat := 2 ^ 1024 - 2 ^ 970

/-- The bound lies half a unit above the greatest finite number. -/
theorem overflowBound_eq : overflowBound = (2 ^ 53 - 1 / 2) * powerOfTwo 971 := by decide +kernel

section Overflow

variable {number : Rat} (hlow : (2 : Rat) ^ (1023 : Int) ≤ number)
  (hhigh : number < (2 : Rat) ^ (1024 : Int))

include hlow hhigh

/-- In the last binade the number of units decides. -/
theorem div_unit_lt_iff : number / powerOfTwo (double.unitExponent number) < 2 ^ 53 - 1 / 2 ↔
    number < overflowBound := by
  have hunit : double.unitExponent number = 971 := unitExponent_of_bounds (by decide) hlow hhigh
  rw [hunit, overflowBound_eq, div_lt_iff₀ (powerOfTwo_pos _)]

/-- Below the bound a number has a nearest magnitude. -/
theorem exists_roundMagnitude?_of_lt (hsmall : number < overflowBound) :
    ∃ magnitude, roundMagnitude? number = some magnitude := by
  have hpos : 0 < number := (zpow_pos (by decide) _).trans_le hlow
  have hunit : double.unitExponent number = 971 := unitExponent_of_bounds (by decide) hlow hhigh
  have hunits := (div_unit_lt_iff hlow hhigh).2 hsmall
  have hrounded := abs_nearestEven_sub_le (number / powerOfTwo (double.unitExponent number))
  have hbits : nearestEven (number / powerOfTwo (double.unitExponent number)) < 2 ^ 53 := by
    have hbelow : (nearestEven (number / powerOfTwo (double.unitExponent number)) : Rat) <
        (2 ^ 53 : Int) := by
      push_cast
      linarith [(abs_le.1 hrounded).2]
    exact_mod_cast hbelow
  have hgreatest : (double.round number).2 ≤ 971 := by
    unfold BinaryFormat.round
    dsimp only
    split
    · rename_i hcarry
      have hcarry : (nearestEven (number / powerOfTwo (double.unitExponent number))).toNat =
          2 ^ 53 := hcarry
      omega
    · exact hunit.le
  refine ⟨⟨_, _, canonical_round_of_le hpos hgreatest⟩, ?_⟩
  unfold roundMagnitude?
  rw [if_neg hpos.ne']
  exact dif_pos _

/-- A number with a nearest magnitude lies below the bound. -/
theorem lt_of_roundMagnitude? {magnitude : Magnitude}
    (hround : roundMagnitude? number = some magnitude) : number < overflowBound := by
  have hpos : 0 < number := (zpow_pos (by decide) _).trans_le hlow
  have hunit : double.unitExponent number = 971 := unitExponent_of_bounds (by decide) hlow hhigh
  rw [← div_unit_lt_iff hlow hhigh]
  by_contra hlarge
  have htie : nearestEven (2 ^ 53 - 1 / 2) = 2 ^ 53 := by decide +kernel
  have hbits : 2 ^ 53 ≤ nearestEven (number / powerOfTwo (double.unitExponent number)) := by
    rw [← htie]
    exact nearestEven_mono (not_lt.1 hlarge)
  have hcast : ((2 : Rat) ^ 53) ≤
      nearestEven (number / powerOfTwo (double.unitExponent number)) := by exact_mod_cast hbits
  have hvalue : (2 : Rat) ^ (1024 : Int) ≤ magnitude.toRat := by
    rw [toRat_of_roundMagnitude? hpos hround]
    calc (2 : Rat) ^ (1024 : Int) = 2 ^ 53 * powerOfTwo (double.unitExponent number) := by
          rw [hunit]
          decide +kernel
      _ ≤ _ := mul_le_mul_of_nonneg_right hcast (powerOfTwo_pos _).le
  exact absurd magnitude.toRat_lt hvalue.not_gt

end Overflow

/-- The numbers from half a unit above the greatest magnitude on are not rounded to one, and no
others. -/
theorem roundMagnitude?_eq_none_iff {number : Rat} (hnonneg : 0 ≤ number) :
    roundMagnitude? number = none ↔ overflowBound ≤ number := by
  have hbinade : (2 : Rat) ^ (1023 : Int) < overflowBound := by decide +kernel
  have hbound : overflowBound ≤ (2 : Rat) ^ (1024 : Int) := by decide +kernel
  constructor
  · intro hnone
    by_contra hsmall
    obtain ⟨magnitude, hround⟩ : ∃ magnitude, roundMagnitude? number = some magnitude := by
      rcases lt_or_ge number ((2 : Rat) ^ (1023 : Int)) with hlow | hlow
      · exact exists_roundMagnitude? hnonneg hlow
      · exact exists_roundMagnitude?_of_lt hlow (by linarith) (not_le.1 hsmall)
    rw [hround] at hnone
    cases hnone
  · intro hlarge
    cases hround : roundMagnitude? number with
    | none => rfl
    | some magnitude =>
        rcases lt_or_ge number ((2 : Rat) ^ (1024 : Int)) with hhigh | hhigh
        · exact absurd (lt_of_roundMagnitude? (by linarith) hhigh hround) hlarge.not_gt
        · rw [roundMagnitude?_of_large hhigh] at hround
          cases hround

/-- The number with a sign that is correct for a value: the nearest one to it, or the infinity from
half a unit above the greatest magnitude on. -/
inductive IsCorrectlyRounded (negative : Bool) (value : Rat) : Binary64 → Prop where
  | finite {magnitude : Magnitude} (hnearest : IsNearest value magnitude)
      (hsmall : value < overflowBound) :
      IsCorrectlyRounded negative value (.finite negative magnitude)
  | infinity (hlarge : overflowBound ≤ value) :
      IsCorrectlyRounded negative value (.infinity negative)

/-- A magnitude with a sign is turned into the correctly rounded number. -/
theorem isCorrectlyRounded_ofMagnitude {value : Rat} (hnonneg : 0 ≤ value) (negative : Bool) :
    IsCorrectlyRounded negative value (ofMagnitude negative value) := by
  unfold ofMagnitude
  cases hround : roundMagnitude? value with
  | none => exact .infinity ((roundMagnitude?_eq_none_iff hnonneg).1 hround)
  | some magnitude =>
      refine .finite (isNearest_of_roundMagnitude? hnonneg hround) (not_le.1 fun hlarge ↦ ?_)
      rw [(roundMagnitude?_eq_none_iff hnonneg).2 hlarge] at hround
      cases hround

end Binary64

end Numbering
