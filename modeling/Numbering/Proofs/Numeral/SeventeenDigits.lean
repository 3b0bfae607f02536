import Numbering.Proofs.Binary64.Nearness
import Numbering.Proofs.Numeral.Significant

/-!
# Seventeen digits

A number that is rounded to seventeen significant digits or more moves by at most one part in
`2 * 10 ^ 16` (`RoundsTo.near`), and is rounded back to itself. So a text with that many digits is
read back as the number, in either notation and over the whole range of the numbers
(`Numeral.read_seventeen_digits`).
-/

namespace Numbering

open Digits Literal

/-- Half a unit of the seventeenth digit is at most one part in `2 * 10 ^ 16` of the number. -/
theorem RoundsTo.near {number : Rat} {places units : Nat} {exponent : Int}
    (hrounds : RoundsTo number places units exponent) (hplaces : 16 ≤ places) :
    2 * 10 ^ 16 * |(units : Rat) * 10 ^ (exponent - places) - number| ≤ number := by
  obtain ⟨first, hlow, -, hvalue⟩ := hrounds.value
  have hunit : (0 : Rat) < 10 ^ (first - places) := zpow_pos (by norm_num) _
  have hscaled : number * 10 ^ (places - first) = number / 10 ^ (first - places) := by
    rw [← neg_sub, zpow_neg, div_eq_mul_inv]
  have hnearest := abs_nearestUp_mul_sub_le ((zpow_pos (by norm_num) _).trans_le hlow).le hunit
  rw [hvalue, hscaled]
  calc 2 * 10 ^ 16 * |(nearestUp (number / 10 ^ (first - places)) : Rat) *
          10 ^ (first - places) - number|
      ≤ 2 * 10 ^ 16 * (10 ^ (first - places) / 2) := by gcongr
    _ = 10 ^ (16 + (first - places)) := by
        rw [zpow_add₀ (by norm_num)]
        ring
    _ ≤ 10 ^ first := zpow_le_zpow_right₀ (by norm_num) (by omega)
    _ ≤ number := hlow

namespace Numeral

/-- Seventeen significant digits of a magnitude are rounded back to it. -/
theorem roundMagnitude?_significantDigits (magnitude : Magnitude) {places : Nat}
    (hplaces : 16 ≤ places) :
    Binary64.roundMagnitude? ((toNat 10 (significantDigits magnitude (places + 1)).1 : Rat) *
      10 ^ ((significantDigits magnitude (places + 1)).2 - places)) = some magnitude := by
  by_cases hsignificand : magnitude.significand = 0
  · rw [significantDigits_zero hsignificand, Magnitude.eq_zero hsignificand, toNat_zeros]
    exact if_pos (by rw [Nat.cast_zero, zero_mul])
  · exact Binary64.roundMagnitude?_of_near
      ((roundsTo_significantDigits hsignificand places).near hplaces)

/-- A text that is rounded back to a magnitude is read back as the number, behind its sign. -/
theorem readNumber_sign_append {text : List Char} {value : Rat} (htext : Denotes text value)
    {magnitude : Magnitude} (hround : Binary64.roundMagnitude? value = some magnitude)
    (negative : Bool) :
    readNumber (sign (.finite negative magnitude) ++ text) =
      (Binary64.finite negative magnitude).withoutZeroSign := by
  have hvalue : ∀ side, Binary64.ofMagnitude side value = .finite side magnitude := by
    intro side
    unfold Binary64.ofMagnitude
    rw [hround]
  by_cases hsignificand : magnitude.significand = 0
  · have hsign : sign (.finite negative magnitude) = signText false :=
      sign_zero hsignificand negative
    have hzero : (Binary64.finite negative magnitude).isZero = true := decide_eq_true hsignificand
    rw [hsign, readNumber_of_denotes htext, hvalue, Binary64.withoutZeroSign, if_pos hzero,
      Magnitude.eq_zero hsignificand]
    rfl
  · rw [sign_finite hsignificand, readNumber_of_denotes htext, hvalue,
      Binary64.withoutZeroSign_finite hsignificand]

/-- A finite number is read back from its text with seventeen significant digits or more, and from
its text with an exponent and sixteen places or more. Either zero is read back as positive zero. -/
theorem read_seventeen_digits {number : Binary64} (hfinite : number.isFinite = true) :
    (∀ precision, 17 ≤ precision →
      readNumber (precise number precision) = number.withoutZeroSign) ∧
    ∀ places, 16 ≤ places → readNumber (exponential number places) = number.withoutZeroSign := by
  cases number with
  | nan => cases hfinite
  | infinity negative => cases hfinite
  | finite negative magnitude =>
      constructor
      · intro precision hprecision
        obtain ⟨places, hcount⟩ : ∃ places, max 1 (min precision 100) = places + 1 :=
          ⟨max 1 (min precision 100) - 1, by omega⟩
        rw [precise_eq_significantText negative hcount (significantDigits_first magnitude places)]
        exact readNumber_sign_append (denotes_significantText _ _ _)
          (roundMagnitude?_significantDigits magnitude (by omega)) negative
      · intro places hplaces
        have hmark := exponentSpelling_exponentPart
          (significantDigits magnitude (min places 100 + 1)).2
        have hdenotes := denotes_pointText_append (min places 100)
          (toNat 10 (significantDigits magnitude (min places 100 + 1)).1) hmark
        rw [exponentPart_eq, powerOfTen_eq] at hdenotes
        rw [exponential_eq_pointText]
        exact readNumber_sign_append hdenotes
          (roundMagnitude?_significantDigits magnitude (by omega)) negative

/-- One tenth, whose seventeenth digit is the first one that shows what is missing to a tenth, the
greatest number, and the least one above zero. -/
theorem read_seventeen_digits_tenth :
    let tenth : Binary64 := .finite false ⟨7205759403792794, -56, by decide⟩
    let greatest : Binary64 := .finite true ⟨9007199254740991, 971, by decide⟩
    let least : Binary64 := .finite false ⟨1, -1074, by decide⟩
    tenth.isFinite = true ∧ greatest.isFinite = true ∧ least.isFinite = true ∧
      17 ≤ 17 ∧ 16 ≤ 16 ∧
      precise tenth 17 = "0.10000000000000001".toList ∧
      readNumber (precise tenth 17) = tenth ∧
      readNumber (precise greatest 17) = greatest ∧
      readNumber (exponential least 16) = least := by
  intro tenth greatest least
  exact ⟨rfl, rfl, rfl, le_rfl, le_rfl, by decide +kernel,
    (@read_seventeen_digits tenth rfl).1 17 le_rfl,
    (@read_seventeen_digits greatest rfl).1 17 le_rfl,
    (@read_seventeen_digits least rfl).2 16 le_rfl⟩

end Numeral

end Numbering
