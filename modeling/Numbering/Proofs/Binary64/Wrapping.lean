import Numbering.Proofs.Binary64.Representable

/-!
# Reducing numbers modulo an integer

The integer part of a number is exact (`hasValue_truncate`), and so is its remainder by an integer
up to `2 ^ 53`, however great the number is (`HasValue.rem`). Reducing adds the modulus to a
remainder below zero, which is exact as well, so it gives the residue of the integer part
(`hasValue_wrap`).
-/

namespace Numbering

/-- The integer part of a rational number, which is rounded toward zero. -/
def towardZero (number : Rat) : Int := if number < 0 then number.ceil else number.floor

namespace Binary64

variable {number other : Binary64} {value otherValue : Int} {modulus : Nat}

/-- The integer of a number is the integer part of its value. -/
theorem toInt_eq_towardZero (number : Binary64) : number.toInt = towardZero number.toRat := by
  unfold towardZero
  cases number with
  | nan => rfl
  | infinity negative => rfl
  | finite negative magnitude =>
      have hnonneg := magnitude.toRat_nonneg
      cases negative with
      | false =>
          show magnitude.toRat.floor = if magnitude.toRat < 0 then _ else magnitude.toRat.floor
          rw [if_neg hnonneg.not_gt]
      | true =>
          show -magnitude.toRat.floor =
            if -magnitude.toRat < 0 then (-magnitude.toRat).ceil else (-magnitude.toRat).floor
          split
          · rw [Rat.ceil_eq_neg_floor_neg, Rat.neg_neg]
          · have hzero : magnitude.toRat = 0 := by linarith
            rw [hzero]
            rfl

/-! ## Numbers with an integer value -/

/-- Whether an integer is below zero can be told from its number. -/
theorem HasValue.isBelowZero (hnumber : number.HasValue value) :
    number.isBelowZero = decide (value < 0) := by
  have hatLeast := hnumber.isAtLeastZero
  have hopposite : number.isBelowZero = !number.isAtLeastZero := by
    obtain ⟨negative, magnitude, rfl, -⟩ := hnumber.exists_finite
    cases negative with
    | false => rfl
    | true => rfl
  rw [hopposite, hatLeast, ← decide_not, decide_eq_decide, not_le]

/-- An integer is the integer part of its number. -/
theorem HasValue.toInt (hnumber : number.HasValue value) : number.toInt = value := by
  rw [toInt_eq_towardZero, hnumber.toRat, towardZero, Rat.floor_intCast,
    Rat.ceil_eq_neg_floor_neg, ← Int.cast_neg, Rat.floor_intCast, Int.neg_neg, ite_self]

/-- Numbers with one integer value are equal. -/
theorem HasValue.equals (hnumber : number.HasValue value) (hother : other.HasValue value) :
    number.equals other = true := by
  obtain ⟨first, x, rfl, -⟩ := hnumber.exists_finite
  obtain ⟨second, y, rfl, -⟩ := hother.exists_finite
  exact decide_eq_true (hnumber.toRat.trans hother.toRat.symm)

/-- A number that is not below zero has the value of its absolute value. -/
theorem HasValue.abs (hnumber : number.HasValue value) (hvalue : 0 ≤ value) :
    number.abs.HasValue value := by
  obtain ⟨negative, magnitude, rfl, hmagnitude, -⟩ := hnumber.exists_finite
  refine ⟨rfl, ?_⟩
  show magnitude.toRat = value
  rw [hmagnitude, ← Int.cast_natCast, Int.natAbs_of_nonneg hvalue]

/-! ## Integer parts and remainders -/

/-- The integer part of a number is exact. -/
theorem hasValue_truncate (hfinite : number.isFinite = true) :
    number.truncate.HasValue number.toInt := by
  cases number with
  | nan => cases hfinite
  | infinity negative => cases hfinite
  | finite negative magnitude =>
      obtain ⟨whole, hfloor, ⟨exact, hexact⟩, -⟩ := magnitude.exists_floor_eq
      have htruncate : truncate (.finite negative magnitude) = .finite negative exact := by
        show ofMagnitude negative magnitude.toRat.floor = .finite negative exact
        rw [hfloor, Int.cast_natCast, ← hexact, ofMagnitude_toRat]
      rw [htruncate]
      refine ⟨rfl, ?_⟩
      show (if negative then -exact.toRat else exact.toRat) =
        ((if negative then -magnitude.toRat.floor else magnitude.toRat.floor : Int) : Rat)
      rw [hexact, hfloor]
      cases negative with
      | true => exact (Int.cast_neg _).symm
      | false => rfl

/-- The remainder of an integer by a small one is exact, however great the first one is. -/
theorem HasValue.rem (hnumber : number.HasValue value) (hother : other.HasValue modulus)
    (hpos : 0 < modulus) (hmodulus : modulus ≤ 2 ^ 53) :
    (number.rem other).HasValue (value.tmod modulus) := by
  obtain ⟨first, x, rfl, hx, hfirst⟩ := hnumber.exists_finite
  obtain ⟨second, y, rfl, hy, -⟩ := hother.exists_finite
  rw [Int.natAbs_natCast] at hy
  have hdivisor := Magnitude.significand_ne_zero_of_toRat hy hpos
  have hfloor : ((value.natAbs : Rat) / modulus).floor = (value.natAbs / modulus : Nat) :=
    Rat.floor_natCast_div_natCast _ _
  have hrem : (Binary64.finite first x).rem (.finite second y) =
      ofMagnitude first (value.natAbs % modulus : Nat) := by
    rw [← natCast_sub_div_mul]
    show (if y.significand = 0 then _ else _) = _
    rw [if_neg hdivisor, hx, hy, hfloor, Int.cast_natCast]
  have hsmall : value.natAbs % modulus ≤ 2 ^ 53 := (Nat.mod_lt _ hpos).le.trans hmodulus
  have hvalue : value.tmod modulus =
      if first then -((value.natAbs % modulus : Nat) : Int)
      else (value.natAbs % modulus : Nat) := by
    conv_lhs => rw [← hfirst]
    cases first with
    | true => exact Int.neg_tmod _ _
    | false => rfl
  rw [hrem, hvalue]
  exact hasValue_ofMagnitude first hsmall

/-- Reducing modulo an integer gives the residue of the integer part, without rounding. A number
that is not finite has no integer part and gives zero. -/
theorem hasValue_wrap (hpos : 0 < modulus) (hmodulus : modulus ≤ 2 ^ 53) (number : Binary64) :
    (number.wrap (.ofNat modulus)).HasValue (number.toInt % modulus) := by
  have hmodulusValue := hasValue_ofNat hmodulus
  unfold wrap
  split
  · rename_i hfinite
    have hremainder := (hasValue_truncate hfinite).rem hmodulusValue hpos hmodulus
    have hresidue := Int.emod_lt_of_pos number.toInt (Int.natCast_pos.2 hpos)
    have hnonneg := Int.emod_nonneg number.toInt (Int.natCast_ne_zero.2 hpos.ne')
    have hsplit := @Int.tmod_eq_emod number.toInt modulus
    generalize number.truncate.rem (.ofNat modulus) = remainder at hremainder ⊢
    generalize number.toInt.tmod modulus = rest at hremainder hsplit
    dsimp only
    rw [hremainder.isBelowZero]
    split at hsplit
    · -- The remainder is the residue already.
      rw [if_neg (by simpa using by omega)]
      rwa [hsplit, Nat.cast_zero, sub_zero] at hremainder
    · rw [Int.natAbs_natCast] at hsplit
      rw [if_pos (by simpa using by omega)]
      have hsum := hremainder.add (hmodulusValue.abs (Int.natCast_nonneg modulus)) (by omega)
      rwa [hsplit, sub_add_cancel] at hsum
  · rename_i hinfinite
    have hzero : number.toInt = 0 := by
      cases number with
      | finite negative magnitude => exact absurd rfl hinfinite
      | _ => rfl
    rw [hzero, Int.zero_emod]
    exact hasValue_signedZero false

end Binary64

end Numbering
