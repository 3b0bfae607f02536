import Numbering.Proofs.Decimal.Shortest
import Numbering.Proofs.Numeral.SeventeenDigits

/-!
# How far digits and points can go

Every binary64 number lies between two powers of ten, and so does every decimal that is rounded to
it: the point of its expansion is from -330 to 310 (`Decimal.InRange`), and the shortest expansion
has at most seventeen digits (`Decimal.length_shortest_le`).
-/

namespace Numbering

open Digits Numeral

namespace Decimal

/-- The digits of an expansion are decimal digits, and its point is where that of a binary64 number
can be. -/
structure InRange (decimal : Decimal) : Prop where
  digits : ∀ digit ∈ decimal.digits, digit < 10
  low : -330 ≤ decimal.point
  high : decimal.point ≤ 310

/-- A decimal that does not start with a zero and is rounded to a number other than zero is in
range. -/
theorem inRange_of_roundMagnitude? {decimal : Decimal} {magnitude : Magnitude}
    (hsignificand : magnitude.significand ≠ 0) (hdigits : ∀ digit ∈ decimal.digits, digit < 10)
    (hfirst : (10 : Rat) ^ (decimal.point - 1) ≤ decimal.toRat)
    (hround : Binary64.roundMagnitude? decimal.toRat = some magnitude) : InRange decimal := by
  have hlarge : decimal.toRat < (2 : Rat) ^ (1024 : Int) := by
    by_contra hle
    rw [Binary64.roundMagnitude?_of_large (not_lt.1 hle)] at hround
    cases hround
  have hsmall : (2 : Rat) ^ (-1075 : Int) ≤ decimal.toRat := by
    by_contra hlt
    rw [Binary64.roundMagnitude?_of_small decimal.toRat_nonneg (not_le.1 hlt)] at hround
    cases hround
    exact hsignificand rfl
  refine ⟨hdigits, ?_, ?_⟩
  · have hpoint : (10 : Rat) ^ (-330 : Int) < 10 ^ decimal.point :=
      calc (10 : Rat) ^ (-330 : Int) ≤ 2 ^ (-1075 : Int) := by decide +kernel
        _ ≤ decimal.toRat := hsmall
        _ < 10 ^ decimal.point := decimal.toRat_lt hdigits
    exact ((zpow_lt_zpow_iff_right₀ (by norm_num)).1 hpoint).le
  · have hpoint : (10 : Rat) ^ (decimal.point - 1) < 10 ^ (309 : Int) :=
      calc (10 : Rat) ^ (decimal.point - 1) ≤ decimal.toRat := hfirst
        _ < 2 ^ (1024 : Int) := hlarge
        _ ≤ 10 ^ (309 : Int) := by decide +kernel
    have hexponent := (zpow_lt_zpow_iff_right₀ (by norm_num)).1 hpoint
    omega

/-- The exact expansion of a magnitude is in range. -/
theorem inRange_ofMagnitude (magnitude : Magnitude) : InRange (ofMagnitude magnitude) := by
  by_cases hsignificand : magnitude.significand = 0
  · rw [ofMagnitude, if_pos hsignificand]
    exact ⟨by decide, by decide, by decide⟩
  · refine inRange_of_roundMagnitude? hsignificand (fun _ ↦ lt_of_mem_digits_ofMagnitude) ?_ ?_
    · rw [toRat_ofMagnitude]
      exact zpow_le_toRat_ofMagnitude hsignificand
    · rw [toRat_ofMagnitude]
      exact Binary64.roundMagnitude?_toRat magnitude

section Shortest

variable {halfway : HalfwayRule} {magnitude : Magnitude} (hsignificand : magnitude.significand ≠ 0)

include hsignificand

/-- The shortest digits of a magnitude are in range. -/
theorem inRange_shortest : InRange (shortest halfway magnitude) :=
  inRange_of_roundMagnitude? hsignificand (fun _ ↦ lt_of_mem_digits_shortest)
    (zpow_le_toRat_shortest hsignificand) (roundMagnitude?_shortest halfway magnitude)

/-- Seventeen digits are enough to read a number back. -/
theorem length_shortest_le : (shortest halfway magnitude).digits.length ≤ 17 := by
  have hlength := length_significantDigits magnitude 17
  have hvalue : toRat ⟨(significantDigits magnitude 17).1, (significantDigits magnitude 17).2 + 1⟩ =
      (toNat 10 (significantDigits magnitude 17).1 : Rat) *
        10 ^ ((significantDigits magnitude 17).2 - (16 : Nat)) := by
    rw [toRat]
    dsimp only
    rw [hlength, powerOfTen_eq]
    congr 2
    omega
  calc (shortest halfway magnitude).digits.length
      ≤ (significantDigits magnitude 17).1.length :=
        (isShortest_shortest hsignificand).fewest _ (lt_of_mem_significantDigits magnitude 17) (by
          rw [hvalue]
          exact roundMagnitude?_significantDigits magnitude le_rfl)
    _ = 17 := hlength

end Shortest

end Decimal

end Numbering
