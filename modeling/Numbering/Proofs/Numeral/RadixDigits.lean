import Numbering.Numeral.Radix
import Numbering.Proofs.Binary64.Nearness
import Numbering.Proofs.Numeral.Fixed

/-!
# Digits in any base

The digits in front of the point are found by repeated division, which gives those of the integer
part as long as no rounded quotient steps over an integer (`Numeral.integerDigits_ofNat`): in a base
that is a power of two this is so for all numbers, and in any base below `2 ^ 53`. In a base that is
a power of two, repeated multiplication never rounds either, so that the digits behind the point are
those of the fraction, cut off after the last place (`Numeral.truncatedAt_fractionDigits`). Together
they are a positional numeral of the number (`Numeral.radix_positional`).
-/

namespace Numbering

open Digits

namespace Numeral

/-! ## Digits of integers -/

/-- Division by a base is exact on the integers that a predicate admits: they are representable,
the integer part of a quotient is that of the exact quotient, and it is admitted as well. -/
structure DividesExactly (base : Nat) (admits : Nat → Prop) : Prop where
  two_le : 2 ≤ base
  base_le : base ≤ 2 ^ 53
  representable : ∀ {number : Nat}, admits number → IsRepresentable number
  quotient : ∀ {number : Nat}, admits number → admits (number / base)
  truncate : ∀ {number : Nat}, admits number →
    ((Binary64.ofNat number).div (.ofNat base)).truncate = .ofNat (number / base)

/-- Dividing a representable integer by a power of two only moves its point. -/
theorem dividesExactly_two_pow {places : Nat} (hplaces : 1 ≤ places) (hsmall : places ≤ 53) :
    DividesExactly (2 ^ places) fun number ↦ IsRepresentable number where
  two_le := Nat.le_self_pow (by omega) 2
  base_le := Nat.pow_le_pow_right (by decide) hsmall
  representable := id
  quotient hnumber := hnumber.shiftRight places
  truncate hnumber := by
    have hbase : 2 ^ places ≤ 2 ^ 53 := Nat.pow_le_pow_right (by decide) hsmall
    exact Binary64.truncate_ofNat_div_ofNat hnumber (isRepresentable_of_le hbase)
      (Nat.pow_pos (by decide)) (hnumber.div_two_pow (by omega))

/-- Numbers below `2 ^ 53` are divided exactly by every base. -/
theorem dividesExactly_of_lt {base : Nat} (hbase : 2 ≤ base) (hle : base ≤ 2 ^ 53) :
    DividesExactly base (· < 2 ^ 53) where
  two_le := hbase
  base_le := hle
  representable hnumber := isRepresentable_of_le hnumber.le
  quotient hnumber := (Nat.div_le_self _ _).trans_lt hnumber
  truncate hnumber := Binary64.truncate_ofNat_div_ofNat_of_lt hnumber (by omega) hle

section Division

variable {base : Nat} {admits : Nat → Prop} (hdivides : DividesExactly base admits) {number : Nat}
  (hnumber : admits number)

include hdivides hnumber

/-- One division finds the last digit, and is the last one when nothing is left. -/
theorem integerDigits_succ (limit : Nat) (found : List Nat) :
    integerDigits (.ofNat base) (limit + 1) (.ofNat number) found =
      if number / base = 0 then number % base :: found
      else integerDigits (.ofNat base) limit (.ofNat (number / base)) (number % base :: found) := by
  have hbase : 0 < base := Nat.zero_lt_two.trans_le hdivides.two_le
  have hremainder : ((Binary64.ofNat number).rem (.ofNat base)).toInt.toNat = number % base := by
    have hmod : number % base ≤ 2 ^ 53 := (Nat.mod_lt _ hbase).le.trans hdivides.base_le
    rw [Binary64.ofNat_rem_ofNat (hdivides.representable hnumber)
        (isRepresentable_of_le hdivides.base_le) hbase,
      Binary64.toInt_ofNat (isRepresentable_of_le hmod), Int.toNat_natCast]
  rw [integerDigits, hremainder, hdivides.truncate hnumber,
    Binary64.ofNat_less_one (hdivides.representable (hdivides.quotient hnumber))]
  simp only [decide_eq_true_eq]

/-- Repeated division gives the digits of an integer. -/
theorem integerDigits_ofNat (limit : Nat) (hlimit : number < base ^ (limit + 1))
    (found : List Nat) :
    integerDigits (.ofNat base) (limit + 1) (.ofNat number) found =
      Digits.ofNat base number ++ found := by
  have hbase := hdivides.two_le
  induction limit generalizing number found with
  | zero =>
      rw [Nat.zero_add, Nat.pow_one] at hlimit
      rw [integerDigits_succ hdivides hnumber, if_pos (Nat.div_eq_of_lt hlimit),
        Nat.mod_eq_of_lt hlimit, Digits.ofNat, dif_neg (by omega)]
      rfl
  | succ limit ih =>
      rw [integerDigits_succ hdivides hnumber, Digits.ofNat]
      by_cases hlast : number < base
      · rw [if_pos (Nat.div_eq_of_lt hlast), Nat.mod_eq_of_lt hlast, dif_neg (by omega)]
        rfl
      · have hquotient : number / base < base ^ (limit + 1) := by
          rw [Nat.div_lt_iff_lt_mul (by omega), ← Nat.pow_succ]
          exact hlimit
        have hmore : number / base ≠ 0 := by
          rw [Ne, Nat.div_eq_zero_iff]
          omega
        rw [if_neg hmore, dif_pos ⟨hbase, by omega⟩, ih (hdivides.quotient hnumber) hquotient,
          List.append_assoc, List.singleton_append]

/-- The digits of an integer are never too many. -/
theorem integerDigits_limit :
    integerDigits (.ofNat base) integerDigitLimit (.ofNat number) [] =
      Digits.ofNat base number := by
  have hlimit : number < base ^ integerDigitLimit := by
    have hpower : 2 ^ 1024 ≤ 2 ^ integerDigitLimit := by
      apply Nat.pow_le_pow_right (by decide)
      unfold integerDigitLimit
      omega
    exact ((isRepresentable_natCast_iff.1 (hdivides.representable hnumber)).1.trans_le
      hpower).trans_le (Nat.pow_le_pow_left hdivides.two_le _)
  exact (integerDigits_ofNat hdivides hnumber (integerDigitLimit - 1) hlimit []).trans
    (List.append_nil _)

end Division

/-! ## Digits of fractions -/

/-- The number that digits behind the point denote. -/
def placesValue (base : Nat) (digits : List Nat) : Rat :=
  (toNat base digits : Rat) / (base ^ digits.length : Nat)

/-- Digits behind the point of a number, cut off after a number of places. If the number has no more
places than these, the digits denote the number and do not end in a zero. -/
structure TruncatedAt (base limit : Nat) (fraction : Rat) (digits : List Nat) : Prop where
  lt_base : ∀ digit ∈ digits, digit < base
  length_le : digits.length ≤ limit
  low : placesValue base digits ≤ fraction
  high : fraction < placesValue base digits + 1 / (base ^ limit : Nat)
  exact : ∀ units : Int, fraction * (base ^ limit : Nat) = units →
    placesValue base digits = fraction ∧ digits.getLast? ≠ some 0

/-- No digits behind the point have the value zero. -/
theorem placesValue_nil (base : Nat) : placesValue base [] = 0 :=
  (congrArg (· / _) Nat.cast_zero).trans (zero_div _)

section Places

variable {base limit digit : Nat} (hbase : 0 < base) {fraction part : Rat} {digits : List Nat}

include hbase

/-- The first digit behind the point counts with the others, divided by the base. -/
theorem placesValue_cons (digit : Nat) (digits : List Nat) :
    placesValue base (digit :: digits) = (digit + placesValue base digits) / base := by
  have hpower : ((base ^ digits.length : Nat) : Rat) ≠ 0 := by
    exact_mod_cast (Nat.pow_pos hbase).ne'
  have hone : (base : Rat) ≠ 0 := by exact_mod_cast hbase.ne'
  unfold placesValue
  rw [toNat_cons, List.length_cons, Nat.pow_succ]
  push_cast at hpower ⊢
  field_simp

/-- Nothing is cut off from nothing. -/
theorem truncatedAt_zero (limit : Nat) : TruncatedAt base limit 0 [] where
  lt_base := List.forall_mem_nil _
  length_le := Nat.zero_le _
  low := (placesValue_nil base).le
  high := by
    have hpower : (0 : Rat) < (base ^ limit : Nat) := by exact_mod_cast Nat.pow_pos hbase
    rw [placesValue_nil, zero_add]
    exact one_div_pos.2 hpower
  exact _ _ := ⟨placesValue_nil base, by simp⟩

omit hbase in
/-- Without any places the fraction is cut off as a whole. -/
theorem truncatedAt_nil (hnonneg : 0 ≤ fraction) (hone : fraction < 1) :
    TruncatedAt base 0 fraction [] where
  lt_base := List.forall_mem_nil _
  length_le := le_rfl
  low := (placesValue_nil base).trans_le hnonneg
  high := by
    rw [placesValue_nil, Nat.pow_zero, Nat.cast_one, div_one, zero_add]
    exact hone
  exact units hunits := by
    rw [Nat.pow_zero, Nat.cast_one, mul_one] at hunits
    rw [hunits] at hnonneg hone
    have hlow : 0 ≤ units := by exact_mod_cast hnonneg
    have hhigh : units < 1 := by exact_mod_cast hone
    obtain rfl : units = 0 := by omega
    exact ⟨(placesValue_nil base).trans (hunits.trans Int.cast_zero).symm, by simp⟩

/-- A digit in front of the digits of what is left. -/
theorem TruncatedAt.cons (hdigits : TruncatedAt base limit part digits) (hdigit : digit < base)
    (hne : fraction ≠ 0) (hsplit : fraction * base = digit + part) :
    TruncatedAt base (limit + 1) fraction (digit :: digits) := by
  have hpos : (0 : Rat) < base := by exact_mod_cast hbase
  have hfraction : fraction = (digit + part) / base := by
    rw [← hsplit, mul_div_cancel_right₀ _ hpos.ne']
  have hunit : (1 : Rat) / (base ^ (limit + 1) : Nat) = 1 / (base ^ limit : Nat) / base := by
    rw [Nat.pow_succ, Nat.cast_mul, div_div]
  refine
    { lt_base := List.forall_mem_cons.2 ⟨hdigit, hdigits.lt_base⟩
      length_le := Nat.succ_le_succ hdigits.length_le
      low := ?_
      high := ?_
      exact := fun units hunits ↦ ?_ }
  · rw [placesValue_cons hbase, hfraction]
    have hlow := hdigits.low
    gcongr
  · rw [placesValue_cons hbase, hunit, ← add_div, hfraction, add_assoc]
    have hhigh := hdigits.high
    gcongr
  · have hrest : part * (base ^ limit : Nat) = (units - digit * base ^ limit : Int) := by
      have hpart : part = fraction * base - digit := by rw [hsplit, add_sub_cancel_left]
      rw [hpart, sub_mul, mul_assoc, mul_comm (base : Rat), ← Nat.cast_mul, ← Nat.pow_succ, hunits]
      push_cast
      rfl
    obtain ⟨hvalue, hlast⟩ := hdigits.exact _ hrest
    refine ⟨by rw [placesValue_cons hbase, hvalue, hfraction], ?_⟩
    cases digits with
    | nil =>
        -- With nothing left, a zero would be the digit of a fraction that is zero.
        rw [placesValue_nil] at hvalue
        rw [List.getLast?_singleton]
        intro hzero
        obtain rfl : digit = 0 := Option.some.inj hzero
        rw [← hvalue, Nat.cast_zero, add_zero] at hsplit
        exact hne ((mul_eq_zero.1 hsplit).resolve_right hpos.ne')
    | cons next digits =>
        rw [List.getLast?_cons_cons]
        exact hlast

end Places

/-- The integer part and the fraction of a magnitude are found without rounding. -/
theorem exists_truncate_sub_eq (magnitude : Magnitude) : ∃ (whole : Nat) (part : Magnitude),
    magnitude.toRat.floor = whole ∧ IsRepresentable whole ∧
      (Binary64.finite false magnitude).truncate = .ofNat whole ∧
      (Binary64.finite false magnitude).sub (.ofNat whole) = .finite false part ∧
      part.toRat = magnitude.toRat - whole := by
  obtain ⟨whole, hfloor, hwhole, part, hpart⟩ := magnitude.exists_floor_eq
  refine ⟨whole, part, hfloor, hwhole, ?_, ?_, hpart⟩
  · rw [Binary64.ofNat_eq_ofMagnitude, ← Int.cast_natCast, ← hfloor]
    rfl
  · obtain ⟨exact, hexact, hvalue⟩ := Binary64.exists_ofNat_eq hwhole
    rw [hexact]
    show Binary64.ofRat false (magnitude.toRat + -exact.toRat) = _
    rw [hvalue, ← sub_eq_add_neg, ← hpart, Binary64.ofRat_eq_ofMagnitude part.toRat_nonneg,
      Binary64.ofMagnitude_toRat]

section Fraction

variable {places : Nat} (hsmall : places ≤ 53) {fraction : Magnitude} (hone : fraction.toRat < 1)

include hsmall hone

/-- One multiplication finds the next digit and leaves another fraction. -/
theorem exists_fractionDigits_succ (hsignificand : fraction.significand ≠ 0) (limit : Nat) :
    ∃ (digit : Nat) (part : Magnitude),
      fractionDigits (.ofNat (2 ^ places)) (limit + 1) (.finite false fraction) =
        digit :: fractionDigits (.ofNat (2 ^ places)) limit (.finite false part) ∧
      digit < 2 ^ places ∧ part.toRat < 1 ∧
      fraction.toRat * (2 ^ places : Nat) = digit + part.toRat := by
  have hpos : (0 : Rat) < (2 ^ places : Nat) := by positivity
  have hbound : 2 ^ places ≤ 2 ^ 53 := Nat.pow_le_pow_right (by decide) hsmall
  have hproduct : fraction.toRat * (2 ^ places : Nat) < (2 ^ places : Nat) :=
    mul_lt_of_lt_one_left hpos hone
  have hrange : fraction.toRat * (2 ^ places : Nat) < 2 ^ (1024 : Int) := by
    calc fraction.toRat * (2 ^ places : Nat) < (2 ^ places : Nat) := hproduct
      _ ≤ 2 ^ (53 : Int) := by exact_mod_cast hbound
      _ ≤ 2 ^ (1024 : Int) := zpow_le_zpow_right₀ (by norm_num) (by norm_num)
  obtain ⟨scaled, hscaled⟩ := IsRepresentable.mul_two_pow ⟨fraction, rfl⟩ hrange
  obtain ⟨base, hbase, hvalue⟩ := Binary64.exists_ofNat_eq (isRepresentable_of_le hbound)
  have hmul : (Binary64.finite false fraction).mul (.ofNat (2 ^ places)) =
      .finite false scaled := by
    rw [hbase]
    show Binary64.ofMagnitude false (fraction.toRat * base.toRat) = _
    rw [hvalue, ← hscaled, Binary64.ofMagnitude_toRat]
  obtain ⟨digit, part, hfloor, hdigit, htruncate, hsub, hpart⟩ := exists_truncate_sub_eq scaled
  have hzero : (Binary64.finite false fraction).isZero = false := decide_eq_false hsignificand
  have hlow : (digit : Rat) ≤ scaled.toRat := by
    exact_mod_cast hfloor ▸ Rat.floor_le scaled.toRat
  have hhigh : scaled.toRat < digit + 1 := by
    exact_mod_cast hfloor ▸ Rat.lt_floor_add_one scaled.toRat
  refine ⟨digit, part, ?_, ?_, by linarith, by linarith⟩
  · rw [fractionDigits, hzero, if_neg Bool.false_ne_true]
    dsimp only
    rw [hmul, htruncate, Binary64.toInt_ofNat hdigit, Int.toNat_natCast, hsub]
  · have hbelow : (digit : Rat) < (2 ^ places : Nat) := by linarith
    exact_mod_cast hbelow

/-- Repeated multiplication gives the digits of a fraction, as many as there may be. -/
theorem truncatedAt_fractionDigits (limit : Nat) :
    TruncatedAt (2 ^ places) limit fraction.toRat
      (fractionDigits (.ofNat (2 ^ places)) limit (.finite false fraction)) := by
  have hbase : 0 < 2 ^ places := Nat.pow_pos (by decide)
  induction limit generalizing fraction with
  | zero => exact truncatedAt_nil fraction.toRat_nonneg hone
  | succ limit ih =>
      by_cases hsignificand : fraction.significand = 0
      · have hnone : fractionDigits (.ofNat (2 ^ places)) (limit + 1) (.finite false fraction) =
            [] := if_pos (decide_eq_true hsignificand)
        rw [hnone, Magnitude.significand_eq_zero_iff.1 hsignificand]
        exact truncatedAt_zero hbase (limit + 1)
      · obtain ⟨digit, part, hdigits, hdigit, hpart, hsplit⟩ :=
          exists_fractionDigits_succ hsmall hone hsignificand limit
        rw [hdigits]
        exact (ih hpart).cons hbase hdigit (Magnitude.toRat_pos hsignificand).ne' hsplit

/-- There is a digit unless nothing is left at once. -/
theorem fractionDigits_eq_nil_iff (limit : Nat) :
    fractionDigits (.ofNat (2 ^ places)) (limit + 1) (.finite false fraction) = [] ↔
      fraction.toRat = 0 := by
  rw [← Magnitude.significand_eq_zero_iff]
  by_cases hsignificand : fraction.significand = 0
  · exact iff_of_true (if_pos (decide_eq_true hsignificand)) hsignificand
  · obtain ⟨digit, part, hdigits, -⟩ :=
      exists_fractionDigits_succ hsmall hone hsignificand limit
    rw [hdigits]
    exact iff_of_false (List.cons_ne_nil _ _) hsignificand

end Fraction

/-! ## Texts -/

/-- The text of a finite number in a base: its sign, the digits of its integer part, and those found
for its fraction. -/
theorem radix_finite {base : Nat} {admits : Nat → Prop} (hdivides : DividesExactly base admits)
    (negative : Bool) (magnitude : Magnitude) (hadmits : ∀ whole : Nat,
      magnitude.toRat.floor = whole → IsRepresentable whole → admits whole) :
    ∃ (whole : Nat) (part : Magnitude), magnitude.toRat.floor = whole ∧
      part.toRat = magnitude.toRat - whole ∧
      let fraction := fractionDigits (.ofNat base) fractionDigitLimit (.finite false part)
      radix (.finite negative magnitude) base = sign (.finite negative magnitude) ++
        chars (Digits.ofNat base whole) ++
          if fraction = [] then [] else '.' :: chars fraction := by
  obtain ⟨whole, part, hfloor, hwhole, htruncate, hsub, hpart⟩ := exists_truncate_sub_eq magnitude
  refine ⟨whole, part, hfloor, hpart, ?_⟩
  unfold radix
  dsimp only [special?, Binary64.abs]
  rw [htruncate, hsub, integerDigits_limit hdivides (hadmits whole hfloor hwhole)]
  simp only [List.isEmpty_iff]

/-- A number is an integer if nothing is left of it without its integer part. -/
theorem abs_sub_floor_eq_zero_iff (number : Rat) :
    |number| - ⌊|number|⌋₊ = 0 ↔ ∃ integer : Int, number = integer := by
  constructor
  · intro hzero
    rcases eq_or_eq_neg_of_abs_eq (sub_eq_zero.1 hzero) with hvalue | hvalue
    · exact ⟨⌊|number|⌋₊, hvalue⟩
    · refine ⟨-⌊|number|⌋₊, hvalue.trans ?_⟩
      push_cast
      rfl
  · rintro ⟨integer, rfl⟩
    rw [← Int.cast_abs, ← Nat.cast_natAbs, Nat.floor_natCast, sub_self]

/-- The text of a finite number in base 2, 8 or 16 is a positional numeral: a minus sign below zero,
the digits of the integer part, and behind a point those of the fraction, at most fifty-two. There
is no point for an integer, and nothing is missing if the fraction has no more places. In every base
the digits in front of the point are those of the integer part as long as this is below
`2 ^ 53`. -/
theorem radix_positional {number : Binary64} (hfinite : number.isFinite = true) :
    let sign := if number.toRat < 0 then ['-'] else []
    let whole := ⌊|number.toRat|⌋₊
    (∀ base ∈ [2, 8, 16], ∃ fraction,
      radix number base = sign ++ chars (Digits.ofNat base whole) ++
        (if fraction = [] then [] else '.' :: chars fraction) ∧
      (fraction = [] ↔ ∃ integer : Int, number.toRat = integer) ∧
      TruncatedAt base 52 (|number.toRat| - whole) fraction) ∧
    ∀ base, 2 ≤ base → base ≤ 36 → |number.toRat| < 2 ^ 53 → ∃ rest,
      radix number base = sign ++ chars (Digits.ofNat base whole) ++ rest ∧
        (rest = [] ∨ rest.head? = some '.') := by
  intro sign whole
  have hsign : Numeral.sign number = sign := sign_eq hfinite
  cases number with
  | nan => cases hfinite
  | infinity negative => cases hfinite
  | finite negative magnitude =>
      have habs := Binary64.abs_toRat_finite negative magnitude
      have hwhole : ∀ integer : Nat, magnitude.toRat.floor = integer → integer = whole := by
        intro integer hfloor
        show integer = ⌊|(Binary64.finite negative magnitude).toRat|⌋₊
        rw [habs, ← Int.floor_toNat]
        exact (congrArg Int.toNat hfloor).symm
      constructor
      · intro base hbase
        obtain ⟨places, hplaces, hsmall, rfl⟩ :
            ∃ places, 1 ≤ places ∧ places ≤ 53 ∧ base = 2 ^ places := by
          simp only [List.mem_cons, List.not_mem_nil, or_false] at hbase
          rcases hbase with rfl | rfl | rfl
          · exact ⟨1, by decide⟩
          · exact ⟨3, by decide⟩
          · exact ⟨4, by decide⟩
        obtain ⟨integer, part, hfloor, hpart, htext⟩ := radix_finite
          (dividesExactly_two_pow hplaces hsmall) negative magnitude fun _ _ hexact ↦ hexact
        obtain rfl := hwhole integer hfloor
        have hone : part.toRat < 1 := by
          have hnext := hfloor ▸ Rat.lt_floor_add_one magnitude.toRat
          push_cast at hnext
          linarith
        have hdigits := truncatedAt_fractionDigits hsmall hone fractionDigitLimit
        have hnil := fractionDigits_eq_nil_iff hsmall hone 51
        rw [hpart, ← habs] at hdigits hnil
        exact ⟨_, hsign ▸ htext, hnil.trans (abs_sub_floor_eq_zero_iff _), hdigits⟩
      · intro base hlow hhigh hbound
        rw [habs] at hbound
        obtain ⟨integer, part, hfloor, -, htext⟩ := radix_finite
          (dividesExactly_of_lt hlow (by omega)) negative magnitude fun integer hfloor _ ↦ by
            have hinteger : (integer : Rat) < 2 ^ 53 :=
              lt_of_le_of_lt (by exact_mod_cast hfloor ▸ Rat.floor_le magnitude.toRat) hbound
            exact_mod_cast hinteger
        obtain rfl := hwhole integer hfloor
        refine ⟨_, hsign ▸ htext, ?_⟩
        split
        · exact .inl rfl
        · exact .inr rfl

/-- Minus one tenth, as near as it can be, has fourteen hexadecimal places behind the point, and no
end in base 3. -/
theorem radix_positional_tenth :
    let tenth : Binary64 := .finite true ⟨7205759403792794, -56, by decide⟩
    tenth.isFinite = true ∧ 2 ≤ 3 ∧ 3 ≤ 36 ∧ |tenth.toRat| < 2 ^ 53 ∧
      (∃ fraction, radix tenth 16 = "-0.".toList ++ chars fraction ∧
        placesValue 16 fraction = |tenth.toRat|) ∧
      ∃ rest, radix tenth 3 = "-0".toList ++ rest ∧ (rest = [] ∨ rest.head? = some '.') := by
  intro tenth
  have hvalue : tenth.toRat = -(7205759403792794 / 72057594037927936) := by
    norm_num [tenth, Binary64.toRat, Magnitude.toRat, powerOfTwo_eq]
  have habs : |tenth.toRat| = 7205759403792794 / 72057594037927936 := by
    rw [hvalue, abs_neg, abs_of_pos (by norm_num)]
  have hsmall : |tenth.toRat| < 2 ^ 53 := by
    rw [habs]
    norm_num
  have hwhole : ⌊|tenth.toRat|⌋₊ = 0 := by
    rw [Nat.floor_eq_zero, habs]
    norm_num
  have hbelow : tenth.toRat < 0 := by
    rw [hvalue]
    norm_num
  have hzero : ∀ base, 2 ≤ base → Digits.ofNat base 0 = [0] := by
    intro base hbase
    rw [Digits.ofNat, dif_neg (by omega)]
  obtain ⟨hexact, hothers⟩ := @radix_positional tenth rfl
  obtain ⟨fraction, htext, -, hfraction⟩ := hexact 16 (by decide)
  obtain ⟨rest, hternary, hrest⟩ := hothers 3 (by decide) (by decide) hsmall
  rw [hwhole, if_pos hbelow, hzero 16 (by decide)] at htext
  rw [hwhole, if_pos hbelow, hzero 3 (by decide)] at hternary
  rw [hwhole, Nat.cast_zero, sub_zero] at hfraction
  obtain ⟨hplaces, -⟩ := hfraction.exact (7205759403792794 * 2 ^ 152) (by
    rw [habs]
    norm_num)
  have hne : fraction ≠ [] := by
    rintro rfl
    rw [placesValue_nil, habs] at hplaces
    norm_num at hplaces
  rw [if_neg hne] at htext
  exact ⟨rfl, by decide, by decide, hsmall, ⟨fraction, htext, hplaces⟩, rest, hternary, hrest⟩

end Numeral

end Numbering
