import Numbering.Proofs.Binary64.Integers
import Numbering.Proofs.Numeral.ReadBack

/-!
# Texts of integers

The shortest digits of an integer up to `2 ^ 53` are its own digits without the zeros at their end
(`Decimal.shortest_of_natCast`): on a grid of integers no other number reads back, and on every
finer grid the integer is there itself. The layout fills the zeros in again, so that the plain text
of an integer up to `2 ^ 53` is its numeral (`Numeral.plain_of_hasValue`).
-/

namespace Numbering

open Digits

namespace Decimal

variable {halfway : HalfwayRule} {magnitude : Magnitude} {number : Nat}

/-! ## Expansions of integers -/

/-- A multiple of a whole unit is an integer. -/
theorem mul_powerOfTen_ofNat (multiple places : Nat) :
    (multiple : Rat) * powerOfTen (.ofNat places) = (multiple * 10 ^ places : Nat) :=
  (Nat.cast_mul _ _).symm

/-- An integer is a multiple of every smaller unit. -/
theorem mul_powerOfTen_negSucc (number places : Nat) :
    ((number * 10 ^ (places + 1) : Nat) : Rat) * powerOfTen (.negSucc places) = number := by
  rw [powerOfTen_eq, zpow_negSucc]
  push_cast
  exact mul_inv_cancel_right₀ (pow_ne_zero _ (by decide)) _

/-- An expansion of an integer has its digits, up to zeros at the end, and the point behind the
last of them. -/
theorem ofScaled_of_natCast {multiple : Nat} {exponent : Int} (hnumber : 0 < number)
    (hvalue : (multiple : Rat) * powerOfTen exponent = number) :
    dropTrailingZeros (ofScaled multiple exponent).digits = dropTrailingZeros (ofNat 10 number) ∧
      (ofScaled multiple exponent).point = (ofNat 10 number).length := by
  unfold ofScaled
  dsimp only
  cases exponent with
  | ofNat places =>
      have hproduct : multiple * 10 ^ places = number := by
        rw [mul_powerOfTen_ofNat] at hvalue
        exact_mod_cast hvalue
      have hmultiple : 0 < multiple := by
        by_contra hzero
        rw [Nat.eq_zero_of_not_pos hzero, Nat.zero_mul] at hproduct
        exact hnumber.ne hproduct
      rw [← hproduct, ofNat_mul_pow (by decide) hmultiple, dropTrailingZeros_append_zeros,
        List.length_append, List.length_replicate]
      exact ⟨rfl, by push_cast; rfl⟩
  | negSucc places =>
      have hproduct : multiple = number * 10 ^ (places + 1) := by
        rw [← mul_powerOfTen_negSucc number places] at hvalue
        exact_mod_cast mul_right_cancel₀ (powerOfTen_pos _).ne' hvalue
      rw [hproduct, ofNat_mul_pow (by decide) hnumber, dropTrailingZeros_append_zeros,
        List.length_append, List.length_replicate]
      refine ⟨rfl, ?_⟩
      omega

/-- The point of the exact expansion of an integer stands behind its last digit. -/
theorem point_ofMagnitude (hnumber : 0 < number) (hvalue : magnitude.toRat = number) :
    (ofMagnitude magnitude).point = (ofNat 10 number).length := by
  have hsignificand : magnitude.significand ≠ 0 := by
    intro hzero
    rw [Magnitude.significand_eq_zero_iff.1 hzero] at hvalue
    exact hnumber.ne (by exact_mod_cast hvalue)
  obtain ⟨value, exponent, -, hexact⟩ := exists_ofMagnitude_eq hsignificand
  have hsame := toRat_ofMagnitude magnitude
  rw [hexact, toRat_ofScaled, hvalue] at hsame
  rw [hexact]
  exact (ofScaled_of_natCast hnumber hsame).2

/-! ## Grids -/

/-- A magnitude that is on a grid itself is what is found there. -/
theorem nearestOnGrid?_of_eq_mul {unit : Rat} {multiple : Nat} (hunit : 0 < unit)
    (hvalue : magnitude.toRat = multiple * unit) :
    nearestOnGrid? halfway magnitude unit = some multiple := by
  have hscaled : magnitude.toRat / unit = multiple := by
    rw [hvalue, mul_div_cancel_right₀ _ hunit.ne']
  have hfloor : ((multiple : Rat).floor).toNat = multiple := by
    rw [← Int.cast_natCast, Rat.floor_intCast, Int.toNat_natCast]
  have hreads : readsBack magnitude unit multiple = true := by
    unfold readsBack
    rw [← hvalue, Binary64.roundMagnitude?_toRat]
    exact decide_eq_true rfl
  unfold nearestOnGrid?
  dsimp only
  rw [hscaled, hfloor, hreads]
  cases readsBack magnitude unit (multiple + 1) with
  | false => rfl
  | true =>
      dsimp only
      rw [sub_self, mul_zero, if_pos one_pos]

/-- What is found on a grid for an integer below `2 ^ 53` is this integer. -/
theorem mul_of_nearestOnGrid? {exponent : Int} {multiple : Nat} (hnumber : number < 2 ^ 53)
    (hvalue : magnitude.toRat = number)
    (hfound : nearestOnGrid? halfway magnitude (powerOfTen exponent) = some multiple) :
    (multiple : Rat) * powerOfTen exponent = number := by
  cases exponent with
  | ofNat places =>
      -- The multiples of a whole unit are integers, which are told apart below `2 ^ 53`.
      have hround := roundMagnitude?_of_nearestOnGrid? hfound
      rw [mul_powerOfTen_ofNat] at hround ⊢
      rw [Binary64.eq_of_roundMagnitude?_natCast hnumber hvalue hround]
  | negSucc places =>
      have hexact := mul_powerOfTen_negSucc number places
      rw [nearestOnGrid?_of_eq_mul (powerOfTen_pos _) (hvalue.trans hexact.symm)] at hfound
      cases hfound
      exact hexact

/-! ## The shortest digits -/

/-- The first integer that is not told apart from the next one still has its own digits. -/
theorem shortest_two_pow :
    shortest .up ⟨Binary64.leadingBit, 1, by decide⟩ =
      ⟨dropTrailingZeros (ofNat 10 (2 ^ 53)), (ofNat 10 (2 ^ 53)).length⟩ := by
  decide +kernel

/-- The shortest digits of an integer up to `2 ^ 53` are its digits without the zeros at their
end. -/
theorem shortest_of_natCast (hpos : 0 < number) (hnumber : number ≤ 2 ^ 53)
    (hvalue : magnitude.toRat = number) :
    shortest .up magnitude = ⟨dropTrailingZeros (ofNat 10 number), (ofNat 10 number).length⟩ := by
  rcases hnumber.lt_or_eq with hlt | rfl
  · obtain ⟨-, hnone⟩ | ⟨multiple, exponent, hfound, hshortest⟩ := shortest_cases .up magnitude
    · -- The grid of the integers themselves has a number of digits that is tried.
      have hlength : (ofNat 10 number).length ≤ 16 := length_ofNat_le (by decide) (by omega)
      have hdigits : 0 < (ofNat 10 number).length := List.length_pos_iff.2 (ofNat_ne_nil 10 number)
      have hmissing := hnone ((ofNat 10 number).length - 1) (by omega)
      have hunit :
          (ofMagnitude magnitude).point - ((ofNat 10 number).length - 1 + 1 : Nat) = 0 := by
        rw [point_ofMagnitude hpos hvalue]
        omega
      have hone : powerOfTen 0 = 1 := powerOfTen_eq 0
      rw [hunit, hone, nearestOnGrid?_of_eq_mul one_pos (hvalue.trans (mul_one _).symm)] at hmissing
      cases hmissing
    · have hexact := mul_of_nearestOnGrid? hlt hvalue hfound
      obtain ⟨hdigits, hpoint⟩ := ofScaled_of_natCast hpos hexact
      rw [hshortest, hdigits, hpoint]
  · have htwo : (⟨Binary64.leadingBit, 1, by decide⟩ : Magnitude).toRat =
        ((2 ^ 53 : Nat) : Rat) := by
      rw [Magnitude.toRat, powerOfTwo_eq]
      norm_num [Binary64.leadingBit]
    have hsame : magnitude = ⟨Binary64.leadingBit, 1, by decide⟩ := by
      have hround := Binary64.roundMagnitude?_toRat magnitude
      rw [hvalue, ← htwo, Binary64.roundMagnitude?_toRat] at hround
      exact (Option.some.inj hround).symm
    rw [hsame, shortest_two_pow]

end Decimal

namespace Numeral

/-- The layout fills in the zeros that were dropped. -/
theorem layout_dropTrailingZeros {digits : List Nat} (hlength : digits.length ≤ 21) :
    layout ⟨Decimal.dropTrailingZeros digits, digits.length⟩ = chars digits := by
  obtain ⟨count, hdigits⟩ := Decimal.eq_dropTrailingZeros_append digits
  have hcount : digits.length = (Decimal.dropTrailingZeros digits).length + count := by
    conv_lhs => rw [hdigits]
    rw [List.length_append, List.length_replicate]
  have hchars : (chars (Decimal.dropTrailingZeros digits)).length =
      (Decimal.dropTrailingZeros digits).length := List.length_map _
  unfold layout
  dsimp only
  rw [hchars, if_pos ⟨by omega, by omega⟩, Int.toNat_natCast, hcount, Nat.add_sub_cancel_left,
    ← chars_zeros, ← chars_append, ← hdigits]

/-- The plain text of an integer up to `2 ^ 53` is its numeral. -/
theorem plain_of_hasValue {number : Binary64} {value : Int} (hnumber : number.HasValue value)
    (hvalue : value.natAbs ≤ 2 ^ 53) : plain number = (toString value).toList := by
  obtain ⟨negative, magnitude, rfl, hmagnitude, hsign⟩ := hnumber.exists_finite
  rw [toList_toString]
  rcases Nat.eq_zero_or_pos value.natAbs with hzero | hpos
  · have hsignificand : magnitude.significand = 0 := by
      rw [Magnitude.significand_eq_zero_iff, hmagnitude, hzero, Nat.cast_zero]
    have hnumeral : numeral 0 = ['0'] := numeral_eq_toDigits 0
    rw [hzero, if_neg (by omega), hnumeral]
    exact if_pos hsignificand
  · have hsignificand : magnitude.significand ≠ 0 := by
      rw [Ne, Magnitude.significand_eq_zero_iff, hmagnitude, Nat.cast_eq_zero]
      exact hpos.ne'
    have hlength : (ofNat 10 value.natAbs).length ≤ 21 := length_ofNat_le (by decide) (by omega)
    have htext : Literal.signText negative = if value < 0 then ['-'] else [] := by
      cases negative with
      | true =>
          rw [if_pos rfl] at hsign
          rw [if_pos (by omega)]
          rfl
      | false =>
          rw [if_neg Bool.false_ne_true] at hsign
          rw [if_neg (by omega)]
          rfl
    rw [plain_finite hsignificand, htext, shortestDigits,
      Decimal.shortest_of_natCast hpos hvalue hmagnitude, layout_dropTrailingZeros hlength]
    rfl

end Numeral

end Numbering
