import Numbering.Proofs.Template.PlainTexts

/-!
# Points in plain texts

A fraction is below `2 ^ 53` (`Magnitude.toRat_lt_of_fraction`), and its shortest expansion has
digits behind the point (`Decimal.point_lt_length_of_fraction`), so that its plain text contains a
point unless it is too small (`Numeral.point_mem_plain`). An integer up to `2 ^ 53` is read back
from its plain text also by the reader of integers in two bases (`Numeral.readIntegerOrHex_plain`).
-/

namespace Numbering

open Literal

/-- From `2 ^ 53` on, the last place of a magnitude is a whole one. -/
theorem Magnitude.toRat_lt_of_fraction {magnitude : Magnitude}
    (hfraction : magnitude.toRat.den ≠ 1) : magnitude.toRat < 2 ^ 53 := by
  obtain ⟨significand, exponent, hcanonical⟩ := magnitude
  cases exponent with
  | ofNat exponent =>
      have hwhole : (significand : Rat) * powerOfTwo (.ofNat exponent) =
          (significand * 2 ^ exponent : Nat) := (Nat.cast_mul _ _).symm
      rw [toRat, hwhole] at hfraction
      exact absurd (Rat.den_natCast _) hfraction
  | negSucc exponent =>
      have hsignificand : (significand : Rat) < 2 ^ 53 := by
        exact_mod_cast hcanonical.1
      have hunit : powerOfTwo (.negSucc exponent) ≤ 1 := by
        rw [powerOfTwo_eq]
        exact zpow_le_one_of_nonpos₀ (by decide) (by omega)
      exact (mul_le_of_le_one_right (Nat.cast_nonneg _) hunit).trans_lt hsignificand

namespace Decimal

/-- An expansion without digits behind the point is an integer. -/
theorem exists_natCast_of_length_le {decimal : Decimal}
    (hlength : (decimal.digits.length : Int) ≤ decimal.point) :
    ∃ number : Nat, decimal.toRat = number := by
  obtain ⟨places, hplaces⟩ := Int.eq_ofNat_of_zero_le (Int.sub_nonneg_of_le hlength)
  refine ⟨Digits.toNat 10 decimal.digits * 10 ^ places, ?_⟩
  unfold toRat
  rw [hplaces]
  exact mul_powerOfTen_ofNat _ _

/-- An expansion that is rounded to a fraction has digits behind the point. -/
theorem point_lt_length_of_fraction {magnitude : Magnitude} {decimal : Decimal}
    (hround : Binary64.roundMagnitude? decimal.toRat = some magnitude)
    (hfraction : magnitude.toRat.den ≠ 1) : decimal.point < decimal.digits.length := by
  by_contra hlength
  obtain ⟨number, hnumber⟩ := exists_natCast_of_length_le (not_lt.1 hlength)
  rw [hnumber] at hround
  have hsmall : number ≤ 2 ^ 53 := by
    by_contra hlarge
    have hpower : ((2 ^ 53 : Nat) : Rat) ≤ number := by exact_mod_cast (not_le.1 hlarge).le
    have hge := Binary64.le_toRat_of_roundMagnitude? (isRepresentable_of_le le_rfl)
      (Nat.cast_nonneg _) hpower hround
    refine (Magnitude.toRat_lt_of_fraction hfraction).not_ge ?_
    exact_mod_cast hge
  -- An integer of this size is not rounded, so that the magnitude would be this integer.
  obtain ⟨whole, hwhole⟩ := isRepresentable_of_le hsmall
  rw [← hwhole, Binary64.roundMagnitude?_toRat] at hround
  cases hround
  rw [hwhole] at hfraction
  exact hfraction (Rat.den_natCast number)

end Decimal

namespace Numeral

/-- A layout with digits behind the point shows the point. -/
theorem point_mem_layout {decimal : Decimal} (hlow : -6 < decimal.point)
    (hhigh : decimal.point ≤ 21) (hlength : decimal.point < decimal.digits.length) :
    '.' ∈ layout decimal := by
  have hchars : (Digits.chars decimal.digits).length = decimal.digits.length := List.length_map _
  unfold layout
  dsimp only
  rw [hchars, if_neg (by omega)]
  split
  · exact List.mem_append_right _ List.mem_cons_self
  · rename_i hsmall
    rw [if_pos (by omega)]
    simp

/-- From a millionth on, the plain text of a fraction shows the point. -/
theorem point_mem_plain (negative : Bool) {magnitude : Magnitude}
    (hlow : Magnitude.millionth.toRat ≤ magnitude.toRat) (hfraction : magnitude.toRat.den ≠ 1) :
    '.' ∈ plain (.finite negative magnitude) := by
  have hsignificand := Magnitude.significand_ne_zero_of_millionth_le hlow
  rw [plain_finite hsignificand]
  have hinner := Decimal.point_lt_length_of_fraction
    (Decimal.roundMagnitude?_shortest .up magnitude) hfraction
  refine List.mem_append_right _ (point_mem_layout (Decimal.lt_point_shortest hlow) ?_ hinner)
  exact Decimal.point_shortest_le hsignificand (Magnitude.toRat_lt_of_fraction hfraction).le

/-- Taking a sign leaves none but characters of the text. -/
theorem mem_of_mem_takeSign {chars : List Char} {char : Char}
    (hchar : char ∈ (takeSign chars).2) : char ∈ chars := by
  unfold takeSign at hchar
  split at hchar
  · exact List.mem_cons_of_mem _ hchar
  · exact List.mem_cons_of_mem _ hchar
  · exact hchar

/-- Without the letter of the other base, both readers of integers do the same. -/
theorem readIntegerOrHex_eq_readInteger {chars : List Char}
    (hchars : ∀ char ∈ chars, IsLiteralChar char) :
    readIntegerOrHex chars = readInteger chars := by
  have hunsigned : ∀ char ∈ (takeSign (Text.trimStart chars)).2, IsLiteralChar char := by
    rw [Text.trimStart_eq_self fun char hchar ↦ (hchars char hchar).isBlank_eq_false]
    exact fun char hchar ↦ hchars char (mem_of_mem_takeSign hchar)
  unfold readIntegerOrHex readInteger
  dsimp only
  split
  · rename_i digits hletter
    rw [hletter] at hunsigned
    exact absurd (hunsigned 'x' (by simp)) (by decide)
  · rename_i digits hletter
    rw [hletter] at hunsigned
    exact absurd (hunsigned 'X' (by simp)) (by decide)
  · rfl

/-- The characters of the plain text of a finite number are those of literals. -/
theorem isLiteralChar_of_mem_plain {number : Binary64} (hfinite : number.isFinite = true) :
    ∀ char ∈ plain number, IsLiteralChar char := by
  obtain ⟨negative, text, value, htext, hdenotes, -⟩ := denotes_plain hfinite
  rw [htext]
  exact isLiteralChar_of_denotes hdenotes negative

end Numeral

namespace Binary64

/-- The number is an integer up to `2 ^ 53`, or a fraction that is off zero by at least a
millionth. -/
def IsOrdinary (number : Binary64) : Prop :=
  (∃ value : Int, number.HasValue value ∧ value.natAbs ≤ 2 ^ 53) ∨
    number.isFinite = true ∧ number.isInteger = false ∧
      Magnitude.millionth.toRat ≤ |number.toRat|

variable {number : Binary64}

/-- An ordinary number is finite. -/
theorem IsOrdinary.isFinite (hnumber : number.IsOrdinary) : number.isFinite = true := by
  obtain ⟨value, hvalue, -⟩ | ⟨hfinite, -, -⟩ := hnumber
  · exact hvalue.isFinite
  · exact hfinite

/-- An integer other than zero is off zero by more than a millionth, and a fraction is below
`2 ^ 53`. -/
theorem IsOrdinary.isModerate (hnumber : number.IsOrdinary) : number.IsModerate := by
  obtain ⟨value, hvalue, hbound⟩ | ⟨hfinite, hfraction, hlow⟩ := hnumber
  · obtain ⟨negative, magnitude, rfl, hmagnitude, -⟩ := hvalue.exists_finite
    unfold IsModerate
    rw [abs_toRat_finite, hmagnitude]
    rcases Nat.eq_zero_or_pos value.natAbs with hzero | hpos
    · left
      rw [hzero, Nat.cast_zero] at hmagnitude
      exact decide_eq_true (Magnitude.significand_eq_zero_iff.2 hmagnitude)
    · have hone : Magnitude.millionth.toRat ≤ 1 := by
        norm_num [Magnitude.millionth, Magnitude.toRat, powerOfTwo_eq]
      exact .inr ⟨hone.trans (by exact_mod_cast hpos), by exact_mod_cast hbound⟩
  · cases number with
    | nan => cases hfinite
    | infinity negative => cases hfinite
    | finite negative magnitude =>
        right
        rw [abs_toRat_finite] at hlow ⊢
        exact ⟨hlow, (Magnitude.toRat_lt_of_fraction (of_decide_eq_false hfraction)).le⟩

end Binary64

/-- An integer up to `2 ^ 53` is read back from its plain text as an integer; a zero loses its
sign. -/
theorem Numeral.readIntegerOrHex_plain {number : Binary64} {value : Int}
    (hnumber : number.HasValue value) (hvalue : value.natAbs ≤ 2 ^ 53) :
    readIntegerOrHex (plain number) = number.withoutZeroSign := by
  have hordinary : number.IsOrdinary := .inl ⟨value, hnumber, hvalue⟩
  rw [readIntegerOrHex_eq_readInteger (isLiteralChar_of_mem_plain hnumber.isFinite)]
  obtain ⟨negative, rfl⟩ | ⟨negative, magnitude, rfl, hlow, hle⟩ :=
    hordinary.isModerate.cases_finite
  · exact readInteger_plain_signedZero negative
  · rw [readInteger_plain negative hlow hle, hnumber.truncate,
      Binary64.withoutZeroSign_finite (Magnitude.significand_ne_zero_of_millionth_le hlow)]

end Numbering
