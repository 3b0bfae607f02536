import Numbering.Proofs.Decimal.Value

/-!
# Bounds on decimals

An expansion lies below the power of ten at its point (`Decimal.toRat_lt`), and unless it starts
with a zero it reaches the one before it (`Decimal.lt_point_iff`). The exact and the
shortest expansion of a magnitude reach the power of ten before it
(`Decimal.zpow_le_toRat_ofMagnitude`, `Decimal.zpow_le_toRat_shortest`), so that the shortest one
does not start with a zero (`Decimal.head?_shortest_ne_zero`).
-/

namespace Numbering

open Digits

namespace Decimal

/-- The value of digits is not negative. -/
theorem toRat_nonneg (decimal : Decimal) : 0 ≤ decimal.toRat :=
  mul_nonneg (Nat.cast_nonneg _) (powerOfTen_pos _).le

/-- An expansion is below the power of ten at its point. -/
theorem toRat_lt (decimal : Decimal) (hdigits : ∀ digit ∈ decimal.digits, digit < 10) :
    decimal.toRat < 10 ^ decimal.point := by
  have hbound : (toNat 10 decimal.digits : Rat) < 10 ^ (decimal.digits.length : Int) := by
    exact_mod_cast toNat_lt hdigits
  calc decimal.toRat
      < 10 ^ (decimal.digits.length : Int) * powerOfTen (decimal.point - decimal.digits.length) :=
        mul_lt_mul_of_pos_right hbound (powerOfTen_pos _)
    _ = 10 ^ decimal.point := by
        rw [powerOfTen_eq, ← zpow_add₀ (by decide), add_sub_cancel]

/-- The expansion of a number other than zero reaches the power of ten before its point. -/
theorem zpow_le_toRat_ofScaled {value : Nat} (hpos : 0 < value) (exponent : Int) :
    (10 : Rat) ^ ((ofScaled value exponent).point - 1) ≤ (ofScaled value exponent).toRat := by
  have hlength : 0 < (ofNat 10 value).length := List.length_pos_iff.2 (ofNat_ne_nil _ _)
  have hbound : (10 : Rat) ^ ((ofNat 10 value).length - 1) ≤ value := by
    exact_mod_cast pow_le_of_pos (by decide) hpos
  have hpoint : (ofScaled value exponent).point - 1 =
      ((ofNat 10 value).length - 1 : Nat) + exponent := by
    show ((ofNat 10 value).length : Int) + exponent - 1 = _
    omega
  rw [hpoint, toRat_ofScaled, zpow_add₀ (by decide), zpow_natCast, powerOfTen_eq]
  exact mul_le_mul_of_nonneg_right hbound (zpow_pos (by decide) _).le

section Digits

variable {decimal : Decimal} (hne : decimal.digits ≠ []) (hfirst : decimal.digits.head? ≠ some 0)

include hne hfirst

/-- An expansion that does not start with a zero reaches the power of ten before its point. -/
theorem zpow_le_toRat : (10 : Rat) ^ (decimal.point - 1) ≤ decimal.toRat := by
  have hlength : 0 < decimal.digits.length := List.length_pos_iff.2 hne
  have hpoint : decimal.point - 1 =
      (decimal.digits.length - 1 : Nat) + (decimal.point - decimal.digits.length) := by omega
  rw [hpoint, zpow_add₀ (by decide), zpow_natCast, toRat, powerOfTen_eq]
  exact mul_le_mul_of_nonneg_right (by exact_mod_cast pow_le_toNat hne hfirst)
    (zpow_pos (by decide) _).le

/-- The point of such an expansion is found by comparison with powers of ten. -/
theorem lt_point_iff (hdigits : ∀ digit ∈ decimal.digits, digit < 10) {exponent : Int} :
    exponent < decimal.point ↔ (10 : Rat) ^ exponent ≤ decimal.toRat := by
  constructor
  · intro hpoint
    exact (zpow_le_zpow_right₀ (by norm_num) (by omega)).trans (zpow_le_toRat hne hfirst)
  · intro hpower
    exact (zpow_lt_zpow_iff_right₀ (by norm_num)).1 (hpower.trans_lt (toRat_lt decimal hdigits))

end Digits

variable {halfway : HalfwayRule} {magnitude : Magnitude}

/-- A magnitude is at least the power of ten in front of its point. -/
theorem zpow_le_toRat_ofMagnitude (hsignificand : magnitude.significand ≠ 0) :
    (10 : Rat) ^ ((ofMagnitude magnitude).point - 1) ≤ magnitude.toRat := by
  obtain ⟨value, exponent, hpos, hscaled⟩ := exists_ofMagnitude_eq hsignificand
  rw [← toRat_ofMagnitude, hscaled]
  exact zpow_le_toRat_ofScaled hpos exponent

/-- The shortest expansion is one of a number other than zero, up to zeros at its end. -/
theorem zpow_le_toRat_shortest (hsignificand : magnitude.significand ≠ 0) :
    (10 : Rat) ^ ((shortest halfway magnitude).point - 1) ≤
      (shortest halfway magnitude).toRat := by
  obtain ⟨hexact, -⟩ | ⟨multiple, exponent, hfound, hshortest⟩ := shortest_cases halfway magnitude
  · rw [hexact, toRat_ofMagnitude]
    exact zpow_le_toRat_ofMagnitude hsignificand
  · have hpos : 0 < multiple := by
      have hunit := powerOfTen_pos exponent
      have hproduct := Binary64.pos_of_roundMagnitude? (mul_nonneg (Nat.cast_nonneg _) hunit.le)
        hsignificand (roundMagnitude?_of_nearestOnGrid? hfound)
      exact_mod_cast pos_of_mul_pos_left hproduct hunit.le
    rw [hshortest, toRat_dropTrailingZeros]
    exact zpow_le_toRat_ofScaled hpos exponent

/-- The shortest expansion does not start with a zero. -/
theorem head?_shortest_ne_zero (hsignificand : magnitude.significand ≠ 0) :
    (shortest halfway magnitude).digits.head? ≠ some 0 := by
  refine head?_ne_zero (fun _ ↦ lt_of_mem_digits_shortest) ?_
  have hlength : 0 < (shortest halfway magnitude).digits.length :=
    List.length_pos_iff.2 (digits_shortest_ne_nil hsignificand)
  have hpoint : (shortest halfway magnitude).point - 1 =
      ((shortest halfway magnitude).digits.length - 1 : Nat) +
        ((shortest halfway magnitude).point - (shortest halfway magnitude).digits.length) := by
    omega
  have hbound : (10 : Rat) ^ ((shortest halfway magnitude).point - 1) ≤ _ :=
    zpow_le_toRat_shortest hsignificand
  rw [hpoint, zpow_add₀ (by decide), zpow_natCast, toRat, powerOfTen_eq] at hbound
  exact_mod_cast le_of_mul_le_mul_right hbound (zpow_pos (by decide) _)

end Decimal

end Numbering
