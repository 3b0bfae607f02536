import Numbering.Proofs.Json.NumberTexts

/-!
# Converting JSON tokens with one power of ten

The digits of a token are gathered into a significand, and the significand is multiplied with a
power of ten or divided by one. As long as both are representable, the only rounding is the one of
the result, so that the conversion gives the nearest number (`NumberToken.value_eq_nearest`). This
covers the texts of all integers below `2 ^ 53` (`Json.convertsNearest_of_isSmallInteger`).
-/

namespace Numbering.Json

open Digits Text

/-! ## Gathering digits -/

section Gather

variable {front digits : List Nat}

/-- The first of the digits fits when all of them do. -/
theorem fits_of_cons {digit : Nat}
    (hfits : toNat 10 (front ++ digit :: digits) < significandLimit) :
    toNat 10 front * 10 + digit < significandLimit ∧
      toNat 10 (front ++ [digit] ++ digits) < significandLimit := by
  rw [List.append_cons] at hfits
  rw [← toNat_append_singleton]
  exact ⟨(toNat_le_append (by decide) _ digits).trans_lt hfits, hfits⟩

/-- Digits before the point that fit are gathered as what they denote. -/
theorem gatherWhole_toNat (hfits : toNat 10 (front ++ digits) < significandLimit) (exponent : Int) :
    gatherWhole ⟨toNat 10 front, exponent⟩ digits = ⟨toNat 10 (front ++ digits), exponent⟩ := by
  induction digits generalizing front with
  | nil => rw [List.append_nil, gatherWhole]
  | cons digit digits ih =>
      obtain ⟨hfirst, hrest⟩ := fits_of_cons hfits
      rw [gatherWhole]
      dsimp only
      rw [if_pos hfirst, ← toNat_append_singleton, ih hrest, ← List.append_cons]

/-- Digits after the point that fit lower the exponent by one each. -/
theorem gatherFraction_toNat (hfits : toNat 10 (front ++ digits) < significandLimit)
    (exponent : Int) :
    gatherFraction ⟨toNat 10 front, exponent⟩ digits =
      ⟨toNat 10 (front ++ digits), exponent - digits.length⟩ := by
  induction digits generalizing front exponent with
  | nil => rw [List.append_nil, gatherFraction, List.length_nil, Int.natCast_zero, Int.sub_zero]
  | cons digit digits ih =>
      obtain ⟨hfirst, hrest⟩ := fits_of_cons hfits
      have hplace : exponent - 1 - digits.length = exponent - (digit :: digits).length := by
        rw [List.length_cons]
        omega
      rw [gatherFraction]
      dsimp only
      rw [if_pos hfirst, ← toNat_append_singleton, ih hrest, ← List.append_cons, hplace]

end Gather

/-! ## Scaling by a power of ten -/

section Scale

variable {significand : Nat} (hsignificand : significand ≤ 2 ^ 53)

include hsignificand

/-- Scaling by a representable power of ten rounds once. -/
theorem scale_ofNat {exponent : Int} (hpower : exponent.natAbs ≤ 22) (fuel : Nat) :
    scale (fuel + 1) (.ofNat significand) exponent =
      .ok (.ofMagnitude false ((significand : Rat) * powerOfTen exponent)) := by
  have hexact := isRepresentable_of_le hsignificand
  have hten := isRepresentable_pow_ten hpower
  have hlimit : exponent.natAbs ≤ greatestPower := hpower.trans (by decide)
  rw [scale]
  dsimp only
  rw [if_pos hlimit]
  split
  · rename_i hnonneg
    obtain ⟨count, rfl⟩ := Int.eq_ofNat_of_zero_le hnonneg
    rw [Int.natAbs_natCast] at hpower hten ⊢
    have hproduct : significand * 10 ^ count < 2 ^ 127 := by
      calc significand * 10 ^ count ≤ 2 ^ 53 * 10 ^ 22 :=
            Nat.mul_le_mul hsignificand (Nat.pow_le_pow_right (by decide) hpower)
        _ < 2 ^ 127 := by decide
    have hvalue : (significand : Rat) * powerOfTen count = (significand * 10 ^ count : Nat) := by
      rw [powerOfTen_eq, zpow_natCast]
      push_cast
      rfl
    rw [Nat.pow_eq, Binary64.ofNat_mul_ofNat hexact hten,
      if_pos (Binary64.isFinite_ofNat (by decide) hproduct), Binary64.ofNat_eq_ofMagnitude, hvalue]
  · rename_i hneg
    have hexponent : exponent = -(exponent.natAbs : Int) := by omega
    have hvalue : (significand : Rat) * powerOfTen exponent =
        (significand : Rat) / (10 ^ exponent.natAbs : Nat) := by
      rw [powerOfTen_eq, hexponent, zpow_neg, zpow_natCast, Int.natAbs_neg, Int.natAbs_natCast]
      push_cast
      rfl
    rw [Nat.pow_eq, Binary64.ofNat_div_ofNat hexact hten (Nat.pow_pos (by decide)), hvalue]

end Scale

/-- A token with a significand up to `2 ^ 53` and a power of ten up to `10 ^ 22` either way is
converted to the nearest number. -/
theorem NumberToken.value_eq_nearest {token : NumberToken}
    (hsignificand : toNat 10 (token.whole ++ token.fraction) ≤ 2 ^ 53)
    (hpower : (token.exponent - token.fraction.length).natAbs ≤ 22)
    (hexponent : token.exponent.natAbs < exponentLimit) : token.value = .ok token.nearest := by
  have hfits : toNat 10 (token.whole ++ token.fraction) < significandLimit :=
    hsignificand.trans_lt (by decide)
  have hwhole : toNat 10 ([] ++ token.whole) < significandLimit :=
    (toNat_le_append (by decide) token.whole token.fraction).trans_lt hfits
  have hgathered : gatherFraction (gatherWhole ⟨0, 0⟩ token.whole) token.fraction =
      ⟨toNat 10 (token.whole ++ token.fraction), 0 - token.fraction.length⟩ :=
    (congrArg (gatherFraction · token.fraction) (gatherWhole_toNat hwhole 0)).trans
      (gatherFraction_toNat hfits 0)
  have hplace : (0 - token.fraction.length : Int) + token.exponent =
      token.exponent - token.fraction.length := by
    omega
  unfold NumberToken.value
  rw [hgathered]
  dsimp only
  rw [if_pos hexponent, hplace, Gathered.value, scale_ofNat hsignificand hpower,
    NumberToken.nearest, Binary64.ofDecimal_eq]
  exact congrArg Except.ok (Numeral.withSign_ofMagnitude _ _)

/-- The text of a small integer is converted to the integer. -/
theorem convertsNearest_of_isSmallInteger [Writer] {amount : Binary64}
    (hsmall : isSmallInteger amount = true) : ConvertsNearest NumberToken.value amount := by
  intro text token htext hscan
  obtain rfl := Except.ok.inj ((number_of_isSmallInteger hsmall).symm.trans htext)
  have hspelling := numberSpelling_numeral (decide (amount.toInt < 0)) amount.toInt.natAbs
  have hscanned := scanNumber_of_spelling hspelling (stopsRun_nil extendsNumber)
  rw [List.append_nil, ← integer_eq, hscan] at hscanned
  obtain rfl := (Prod.mk.inj (Except.ok.inj hscanned)).1
  refine NumberToken.value_eq_nearest ?_ (by simp) (by simp [exponentLimit])
  rw [List.append_nil, toNat_ofNat]
  exact natAbs_toInt_le_of_isSmallInteger hsmall

end Numbering.Json
