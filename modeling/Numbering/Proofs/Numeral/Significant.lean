import Numbering.Proofs.Numeral.Fixed

/-!
# Texts with a number of significant digits

A number other than zero is rounded to a number of significant digits in exactly one way, half a
unit going away from zero (`RoundsTo`, `RoundsTo.unique`); when a one is carried out of the first
digit the exponent of the result is greater by one. Both texts with significant digits write this
result and no other number, and it is its exponent that decides on the notation
(`Numeral.exponential_precise_nearest`).
-/

namespace Numbering

open Digits Literal

/-! ## Significant digits -/

/-- The number is `units * 10 ^ (exponent - places)` when it is rounded to one digit and a number of
places behind it. The first digit is that of the power of ten below the number, half a unit of the
last place goes up, and the units have as many digits as there are places and one more. -/
structure RoundsTo (number : Rat) (places units : Nat) (exponent : Int) : Prop where
  low : 10 ^ places ≤ units
  high : units < 10 ^ (places + 1)
  value : ∃ first : Int, (10 : Rat) ^ first ≤ number ∧ number < 10 ^ (first + 1) ∧
    (units : Rat) * 10 ^ (exponent - places) =
      nearestUp (number * 10 ^ (places - first)) * 10 ^ (first - places)

/-- The powers of ten around a number determine each other. -/
theorem eq_of_zpow_bounds {number : Rat} {first second : Int} (hfirst : (10 : Rat) ^ first ≤ number)
    (hfirst' : number < 10 ^ (first + 1)) (hsecond : (10 : Rat) ^ second ≤ number)
    (hsecond' : number < 10 ^ (second + 1)) : first = second := by
  have hlow := (zpow_lt_zpow_iff_right₀ (by norm_num)).1 (hfirst.trans_lt hsecond')
  have hhigh := (zpow_lt_zpow_iff_right₀ (by norm_num)).1 (hsecond.trans_lt hfirst')
  omega

namespace RoundsTo

variable {number : Rat} {places units other : Nat} {exponent otherExponent : Int}

/-- The result lies between the powers of ten at its exponent. -/
theorem bounds (hrounds : RoundsTo number places units exponent) :
    (10 : Rat) ^ exponent ≤ (units : Rat) * 10 ^ (exponent - places) ∧
      (units : Rat) * 10 ^ (exponent - places) < 10 ^ (exponent + 1) := by
  have hunit : (0 : Rat) < 10 ^ (exponent - places) := zpow_pos (by norm_num) _
  have hlow : ((10 ^ places : Nat) : Rat) ≤ units := by exact_mod_cast hrounds.low
  have hhigh : (units : Rat) < (10 ^ (places + 1) : Nat) := by exact_mod_cast hrounds.high
  have hscale : ∀ count : Nat, ((10 ^ count : Nat) : Rat) * 10 ^ (exponent - places) =
      10 ^ (exponent - places + count) := by
    intro count
    rw [Nat.cast_pow, zpow_add₀ (by norm_num), zpow_natCast, mul_comm]
    rfl
  constructor
  · calc (10 : Rat) ^ exponent = 10 ^ (exponent - places + places) := by rw [Int.sub_add_cancel]
      _ = ((10 ^ places : Nat) : Rat) * 10 ^ (exponent - places) := (hscale places).symm
      _ ≤ _ := mul_le_mul_of_nonneg_right hlow hunit.le
  · calc (units : Rat) * 10 ^ (exponent - places)
        < ((10 ^ (places + 1) : Nat) : Rat) * 10 ^ (exponent - places) :=
          mul_lt_mul_of_pos_right hhigh hunit
      _ = 10 ^ (exponent - places + (places + 1 : Nat)) := hscale (places + 1)
      _ = 10 ^ (exponent + 1) := by
          congr 1
          omega

/-- A number is rounded to significant digits in one way only. -/
theorem unique (hrounds : RoundsTo number places units exponent)
    (hother : RoundsTo number places other otherExponent) :
    other = units ∧ otherExponent = exponent := by
  obtain ⟨hlow, hhigh⟩ := hrounds.bounds
  obtain ⟨hotherLow, hotherHigh⟩ := hother.bounds
  obtain ⟨first, hfirst, hfirst', hvalue⟩ := hrounds.value
  obtain ⟨second, hsecond, hsecond', hotherValue⟩ := hother.value
  obtain rfl : first = second := eq_of_zpow_bounds hfirst hfirst' hsecond hsecond'
  rw [← hvalue] at hotherValue
  rw [hotherValue] at hotherLow hotherHigh
  obtain rfl : otherExponent = exponent := eq_of_zpow_bounds hotherLow hotherHigh hlow hhigh
  have hsame := mul_right_cancel₀ (zpow_pos (by norm_num) _).ne' hotherValue
  exact ⟨by exact_mod_cast hsame, rfl⟩

/-- There is only one way to round a number to some places. -/
theorem iff_eq (hrounds : RoundsTo number places units exponent) (other : Nat)
    (otherExponent : Int) :
    RoundsTo number places other otherExponent ↔ other = units ∧ otherExponent = exponent := by
  constructor
  · exact hrounds.unique
  · rintro ⟨rfl, rfl⟩
    exact hrounds

end RoundsTo

namespace Numeral

section Significant

/-- The digits that are kept, before a digit too many is cut off. -/
theorem roundedAt_ofMagnitude (magnitude : Magnitude) (count : Nat) :
    Decimal.RoundedAt (Decimal.ofMagnitude magnitude) count
      ((Decimal.ofMagnitude magnitude).roundHalfUp count) :=
  Decimal.roundedAt_roundHalfUp (fun _ ↦ Decimal.lt_of_mem_digits_ofMagnitude) count

/-- Significant digits are below ten. -/
theorem lt_of_mem_significantDigits (magnitude : Magnitude) (count : Nat) :
    ∀ digit ∈ (significantDigits magnitude count).1, digit < 10 :=
  fun digit hdigit ↦
    (roundedAt_ofMagnitude magnitude count).digits digit (List.mem_of_mem_take hdigit)

/-- There are as many significant digits as are asked for. -/
theorem length_significantDigits (magnitude : Magnitude) (count : Nat) :
    (significantDigits magnitude count).1.length = count := by
  show (((Decimal.ofMagnitude magnitude).roundHalfUp count).digits.take count).length = count
  rw [List.length_take]
  obtain ⟨hlength, -⟩ | ⟨hcarry, -⟩ := (roundedAt_ofMagnitude magnitude count).shape
  · omega
  · rw [hcarry, List.length_cons, List.length_replicate]
    omega

variable {magnitude : Magnitude}

/-- The significant digits of a magnitude other than zero are those that it is rounded to. -/
theorem roundsTo_significantDigits (hsignificand : magnitude.significand ≠ 0) (places : Nat) :
    RoundsTo magnitude.toRat places (toNat 10 (significantDigits magnitude (places + 1)).1)
      (significantDigits magnitude (places + 1)).2 := by
  obtain ⟨exact, hexact⟩ : ∃ exact, exact = Decimal.ofMagnitude magnitude := ⟨_, rfl⟩
  have hvalue : exact.toRat = magnitude.toRat := by rw [hexact, Decimal.toRat_ofMagnitude]
  have hlow : (10 : Rat) ^ (exact.point - 1) ≤ magnitude.toRat := by
    rw [hexact]
    exact Decimal.zpow_le_toRat_ofMagnitude hsignificand
  have hhigh : magnitude.toRat < 10 ^ (exact.point - 1 + 1) := by
    rw [← hvalue, Int.sub_add_cancel, hexact]
    exact Decimal.toRat_lt _ fun _ ↦ Decimal.lt_of_mem_digits_ofMagnitude
  have hround := roundedAt_ofMagnitude magnitude (places + 1)
  have hshift : Decimal.toRat ⟨exact.digits, (places + 1 : Nat)⟩ =
      magnitude.toRat * 10 ^ (places - (exact.point - 1)) := by
    rw [← hvalue, ← Decimal.toRat_shift exact.digits exact.point]
    congr 2
    omega
  -- With the point behind the first digit, the number is not below the power of ten there.
  have hunits : 10 ^ places ≤ nearestUp (magnitude.toRat * 10 ^ (places - (exact.point - 1))) := by
    rw [hexact]
    exact Decimal.pow_le_nearestUp hsignificand (by omega)
  rw [← hexact] at hround
  have hnearest := hround.value.trans (congrArg nearestUp hshift)
  unfold significantDigits
  dsimp only
  rw [← hexact]
  obtain ⟨hlength, hpoint⟩ | ⟨hcarry, hpoint⟩ := hround.shape
  · have hunitsHigh := toNat_lt hround.digits
    rw [hlength] at hunitsHigh
    rw [hpoint, List.take_of_length_le hlength.le]
    exact ⟨hnearest ▸ hunits, hunitsHigh, exact.point - 1, hlow, hhigh, by rw [hnearest]⟩
  · -- The result is the power of ten behind the digits, and one of its zeros is cut off.
    have htake : (exact.roundHalfUp (places + 1 : Nat)).digits.take (places + 1) =
        1 :: List.replicate places 0 := by
      rw [hcarry, List.take_succ_cons, List.take_replicate]
      congr 2
      omega
    rw [hcarry, toNat_one_zeros] at hnearest
    rw [hpoint, htake, toNat_one_zeros, add_sub_cancel_right]
    refine ⟨le_rfl, Nat.pow_lt_pow_right (by omega) (by omega), exact.point - 1, hlow, hhigh, ?_⟩
    rw [← hnearest, Nat.cast_pow, Nat.cast_pow, ← zpow_natCast, ← zpow_natCast]
    show (10 : Rat) ^ (places : Int) * _ = 10 ^ ((places + 1 : Nat) : Int) * _
    rw [← zpow_add₀ (by norm_num), ← zpow_add₀ (by norm_num)]
    congr 1
    omega

/-- Zero has the digit zero only, and the exponent zero. -/
theorem significantDigits_zero (hsignificand : magnitude.significand = 0) (places : Nat) :
    significantDigits magnitude (places + 1) = (List.replicate (places + 1) 0, 0) := by
  have hleading : Decimal.leading [0] (places + 1) = List.replicate (places + 1) 0 := by
    rw [Decimal.leading, List.length_singleton, Nat.add_sub_cancel, List.take_succ_cons,
      List.take_nil, List.replicate_succ]
    rfl
  have hround : (Decimal.mk [0] 1).roundHalfUp (places + 1 : Nat) =
      ⟨List.replicate (places + 1) 0, 1⟩ := by
    unfold Decimal.roundHalfUp
    rw [if_neg (by omega), Int.toNat_natCast]
    exact (if_pos (by simp)).trans (congrArg (Decimal.mk · 1) hleading)
  unfold significantDigits
  dsimp only
  rw [Decimal.ofMagnitude, if_pos hsignificand, hround, List.take_replicate, Nat.min_self]
  rfl

/-- The digits of the text with significant digits do not start with a zero, unless they are those
of zero. -/
theorem significantDigits_first (magnitude : Magnitude) (places : Nat) :
    (significantDigits magnitude (places + 1)).2 = 0 ∨
      (significantDigits magnitude (places + 1)).1.head? ≠ some 0 := by
  by_cases hsignificand : magnitude.significand = 0
  · exact .inl (congrArg Prod.snd (significantDigits_zero hsignificand places))
  · refine .inr (head?_ne_zero (lt_of_mem_significantDigits magnitude _) ?_)
    rw [length_significantDigits]
    exact (roundsTo_significantDigits hsignificand places).low

end Significant

/-! ## Layouts -/

section Layout

variable {digits : List Nat} (hdigits : ∀ digit ∈ digits, digit < 10)

include hdigits

/-- Digits with the point behind one of them, or behind the last one. -/
theorem pointText_inner {whole : Nat} (hwhole : whole < digits.length)
    (hfirst : whole = 0 ∨ digits.head? ≠ some 0) :
    ((chars digits).take (whole + 1) ++
        if ((chars digits).drop (whole + 1)).isEmpty then []
        else '.' :: (chars digits).drop (whole + 1)) =
      pointText (digits.length - (whole + 1)) (toNat 10 digits) := by
  have htake : (digits.take (whole + 1)).length = whole + 1 := by
    rw [List.length_take]
    omega
  have hhead : (digits.take (whole + 1)).length = 1 ∨
      digits.take (whole + 1) ≠ [] ∧ (digits.take (whole + 1)).head? ≠ some 0 := by
    rcases hfirst with rfl | hhead
    · exact .inl htake
    · rw [List.head?_take, if_neg (by omega)]
      exact .inr ⟨List.ne_nil_of_length_pos (by omega), hhead⟩
  have hback : ∀ digit ∈ digits.drop (whole + 1), digit < 10 :=
    fun digit hdigit ↦ hdigits digit (List.mem_of_mem_drop hdigit)
  have htext := pointText_toNat (fun digit hdigit ↦ hdigits digit (List.mem_of_mem_take hdigit))
    hback hhead
  rw [List.take_append_drop, List.length_drop] at htext
  rw [htext, chars, chars, chars, ← List.map_take, ← List.map_drop]
  cases digits.drop (whole + 1) with
  | nil => rfl
  | cons digit others => rfl

/-- Digits behind the point, with zeros between the point and the first of them. -/
theorem pointText_small (hne : digits ≠ []) (count : Nat) :
    '0' :: '.' :: zeros count ++ chars digits =
      pointText (count + digits.length) (toNat 10 digits) := by
  have hlow : ∀ digit ∈ List.replicate count 0 ++ digits, digit < 10 :=
    List.forall_mem_append.2 ⟨lt_of_mem_zeros count, hdigits⟩
  have hzero : ∀ digit ∈ [0], digit < 10 := by simp
  have htext := pointText_toNat hzero hlow (.inl rfl)
  have hvalue : toNat 10 ([0] ++ (List.replicate count 0 ++ digits)) = toNat 10 digits := by
    rw [← List.append_assoc, toNat_append, ← List.replicate_one, List.replicate_append_replicate,
      toNat_zeros, Nat.zero_mul, Nat.zero_add]
  rw [hvalue, List.length_append, List.length_replicate,
    if_neg (List.append_ne_nil_of_right_ne_nil _ hne), chars_append, chars_zeros] at htext
  exact htext.symm

end Layout

/-- A number of significant digits, the first of which has the given exponent: in positional
notation from a millionth on, as long as there is a digit for every place in front of the point, and
with an exponent elsewhere. -/
def significantText (places units : Nat) (exponent : Int) : List Char :=
  if exponent < -6 ∨ (places : Int) < exponent then
    pointText places units ++ exponentText exponent
  else pointText (places - exponent).toNat units

/-- Both notations are literals for the same number. -/
theorem denotes_significantText (places units : Nat) (exponent : Int) :
    Denotes (significantText places units exponent)
      ((units : Rat) * 10 ^ (exponent - places)) := by
  have hmark := exponentSpelling_exponentPart exponent
  rw [exponentPart_eq] at hmark
  have hscientific := denotes_pointText_append places units hmark
  have hpositional := denotes_pointText (places - exponent).toNat units
  rw [powerOfTen_eq] at hscientific hpositional
  unfold significantText
  split
  · exact hscientific
  · have hplaces : -((places - exponent).toNat : Int) = exponent - places := by omega
    rwa [hplaces] at hpositional

/-! ## The two texts -/

/-- The exponential text is the sign, a text with a point and an exponent. -/
theorem exponential_eq_pointText (negative : Bool) (magnitude : Magnitude) (count : Nat) :
    exponential (.finite negative magnitude) count = sign (.finite negative magnitude) ++
      (pointText (min count 100) (toNat 10 (significantDigits magnitude (min count 100 + 1)).1) ++
        exponentText (significantDigits magnitude (min count 100 + 1)).2) := by
  have hlength := length_significantDigits magnitude (min count 100 + 1)
  have hne : (significantDigits magnitude (min count 100 + 1)).1 ≠ [] :=
    List.ne_nil_of_length_pos (by omega)
  have htext := scientific_chars (lt_of_mem_significantDigits magnitude _) hne
    (significantDigits magnitude (min count 100 + 1)).2
  rw [hlength, Nat.add_sub_cancel] at htext
  exact congrArg _ htext

/-- The text with significant digits, when these do not start with a zero in front of others. -/
theorem precise_eq_significantText (negative : Bool) {magnitude : Magnitude} {count places : Nat}
    (hcount : max 1 (min count 100) = places + 1)
    (hfirst : (significantDigits magnitude (places + 1)).2 = 0 ∨
      (significantDigits magnitude (places + 1)).1.head? ≠ some 0) :
    precise (.finite negative magnitude) count = sign (.finite negative magnitude) ++
      significantText places (toNat 10 (significantDigits magnitude (places + 1)).1)
        (significantDigits magnitude (places + 1)).2 := by
  have hlength := length_significantDigits magnitude (places + 1)
  have hdigits := lt_of_mem_significantDigits magnitude (places + 1)
  unfold precise significantText
  dsimp only
  rw [hcount]
  generalize significantDigits magnitude (places + 1) = result at *
  obtain ⟨digits, exponent⟩ := result
  dsimp only at *
  have hne : digits ≠ [] := List.ne_nil_of_length_pos (by omega)
  by_cases hscientific : exponent < -6 ∨ (places : Int) < exponent
  · rw [if_pos hscientific, if_pos (by omega), scientific_chars hdigits hne, hlength,
      Nat.add_sub_cancel]
  · rw [if_neg hscientific, if_neg (by omega)]
    split
    · have hwhole : exponent.toNat < digits.length := by omega
      have hplaces : digits.length - (exponent.toNat + 1) = (places - exponent).toNat := by omega
      rw [List.append_assoc, pointText_inner hdigits hwhole (hfirst.imp_left (by omega)), hplaces]
    · have hplaces : (-exponent - 1).toNat + digits.length = (places - exponent).toNat := by omega
      rw [List.append_assoc, pointText_small hdigits hne, hplaces]

/-- The text of a finite number with an exponent and a number of places, and its text with a number
of significant digits. For a number other than zero there is one way to round it to the digits of
the text, half a unit going away from zero; the text writes all these digits, it is a literal for
the rounded number, and its sign is that of the number. With an exponent there is one digit in front
of the point. With significant digits it is the exponent of the rounded number that decides between
this notation and the positional one. Either zero is written with zeros only and without a sign. -/
theorem exponential_precise_nearest {number : Binary64} (hfinite : number.isFinite = true)
    (count : Nat) :
    let sign := if number.toRat < 0 then ['-'] else []
    let places := min count 100
    let behind := max 1 (min count 100) - 1
    (number.toRat ≠ 0 →
      (∃ units exponent,
        (∀ other otherExponent, RoundsTo |number.toRat| places other otherExponent ↔
          other = units ∧ otherExponent = exponent) ∧
        exponential number count = sign ++ (pointText places units ++ exponentText exponent) ∧
        Denotes (pointText places units ++ exponentText exponent)
          ((units : Rat) * 10 ^ (exponent - places))) ∧
      ∃ units exponent,
        (∀ other otherExponent, RoundsTo |number.toRat| behind other otherExponent ↔
          other = units ∧ otherExponent = exponent) ∧
        precise number count = sign ++ significantText behind units exponent ∧
        Denotes (significantText behind units exponent)
          ((units : Rat) * 10 ^ (exponent - behind))) ∧
    (number.toRat = 0 →
      exponential number count = pointText places 0 ++ exponentText 0 ∧
        precise number count = pointText behind 0) := by
  intro sign places behind
  have hsign : Numeral.sign number = sign := sign_eq hfinite
  have hcount : max 1 (min count 100) = behind + 1 := by omega
  cases number with
  | nan => cases hfinite
  | infinity negative => cases hfinite
  | finite negative magnitude =>
      have hexponential := exponential_eq_pointText negative magnitude count
      have hzero : (Binary64.finite negative magnitude).toRat = 0 ↔ magnitude.significand = 0 := by
        rw [Magnitude.significand_eq_zero_iff, ← Binary64.abs_toRat_finite negative, abs_eq_zero]
      rw [Binary64.abs_toRat_finite]
      constructor
      · intro hvalue
        have hsignificand := fun h ↦ hvalue (hzero.2 h)
        have hplaces := roundsTo_significantDigits hsignificand places
        have hbehind := roundsTo_significantDigits hsignificand behind
        have hfirst : (significantDigits magnitude (behind + 1)).1.head? ≠ some 0 := by
          refine head?_ne_zero (lt_of_mem_significantDigits magnitude _) ?_
          rw [length_significantDigits]
          exact hbehind.low
        have hmark := exponentSpelling_exponentPart (significantDigits magnitude (places + 1)).2
        rw [exponentPart_eq] at hmark
        have hdenotes := denotes_pointText_append places
          (toNat 10 (significantDigits magnitude (places + 1)).1) hmark
        rw [powerOfTen_eq] at hdenotes
        exact ⟨⟨_, _, hplaces.iff_eq, hsign ▸ hexponential, hdenotes⟩, _, _, hbehind.iff_eq,
          hsign ▸ precise_eq_significantText negative hcount (.inr hfirst),
          denotes_significantText behind _ _⟩
      · intro hvalue
        have hsignificand := hzero.1 hvalue
        have hempty : sign = [] := if_neg hvalue.ge.not_gt
        have hprecise := precise_eq_significantText negative hcount
          (.inl (congrArg Prod.snd (significantDigits_zero hsignificand behind)))
        rw [hsign, hempty, List.nil_append, significantDigits_zero hsignificand, toNat_zeros]
          at hexponential hprecise
        exact ⟨hexponential, hprecise.trans (if_neg (by omega))⟩

/-- A carry out of the first digit switches the notation: `99.5` has two digits in front of the
point, and there is no such text with one place. -/
theorem exponential_precise_nearest_carry :
    let number : Binary64 := .finite false ⟨7001690045677568, -46, by decide⟩
    number.isFinite = true ∧ number.toRat = 199 / 2 ∧ exponential number 1 = "1.0e+2".toList ∧
      precise number 2 = "1.0e+2".toList := by
  intro number
  have hvalue : number.toRat = 199 / 2 := by decide +kernel
  have hne : number.toRat ≠ 0 := by
    rw [hvalue]
    norm_num
  have hsign : ¬number.toRat < 0 := by
    rw [hvalue]
    norm_num
  have hrounds : RoundsTo |number.toRat| 1 10 2 := by
    have hnearest : nearestUp (199 / 2 * 10 ^ ((1 : Nat) - (1 : Int)) : Rat) = 100 := by
      rw [nearestUp, Nat.floor_eq_iff (by norm_num)]
      norm_num
    refine ⟨by decide, by decide, 1, ?_⟩
    rw [hvalue, abs_of_pos (by norm_num), hnearest]
    norm_num
  obtain ⟨⟨units, exponent, honly, htext, -⟩, -⟩ :=
    (exponential_precise_nearest (rfl : number.isFinite = true) 1).1 hne
  obtain ⟨-, others, power, hothers, hprecise, -⟩ :=
    (exponential_precise_nearest (rfl : number.isFinite = true) 2).1 hne
  obtain ⟨rfl, rfl⟩ := (honly 10 2).1 hrounds
  obtain ⟨rfl, rfl⟩ := (hothers 10 2).1 hrounds
  rw [if_neg hsign] at htext hprecise
  exact ⟨rfl, hvalue, htext.trans (by decide +kernel), hprecise.trans (by decide +kernel)⟩

end Numeral

end Numbering
