import Mathlib.Algebra.Order.Floor.Semiring
import Numbering.Proofs.Decimal.Bounds

/-!
# Rounding half a unit up

Keeping the leading digits of an expansion and rounding at the next one gives the digits of the
nearest natural number, half a unit going up, when the point is moved behind the digits that are
kept (`Decimal.roundedAt_roundHalfUp`). A one is carried out of the first place only when all the
digits that are kept are nines, so that zeros follow it. Either way the digits and the point that
are left denote the nearest multiple of a power of ten (`Decimal.roundHalfUp_nearest`).
-/

namespace Numbering

open Digits

/-! ## The nearest natural number -/

/-- The natural number nearest to a number that is not negative; one half goes up. -/
def nearestUp (number : Rat) : Nat := ⌊number + 1 / 2⌋₊

/-- Rounding with halves up keeps the order. -/
theorem nearestUp_mono {number other : Rat} (hle : number ≤ other) :
    nearestUp number ≤ nearestUp other :=
  Nat.floor_mono (by linarith)

/-- A fraction of one half and more rounds a whole number up, and a smaller one leaves it. -/
theorem nearestUp_natCast_add (whole : Nat) {fraction : Rat} (hnonneg : 0 ≤ fraction)
    (hone : fraction < 1) :
    nearestUp (whole + fraction) = if fraction < 1 / 2 then whole else whole + 1 := by
  unfold nearestUp
  rw [Nat.floor_eq_iff (by positivity)]
  split
  · constructor
    · linarith
    · linarith
  · push_cast
    constructor
    · linarith
    · linarith

/-- A whole number rounds to itself. -/
theorem nearestUp_natCast (whole : Nat) : nearestUp whole = whole := by
  have hexact := nearestUp_natCast_add whole le_rfl zero_lt_one
  rwa [add_zero, if_pos (by norm_num)] at hexact

/-- Rounding moves a number by at most one half. -/
theorem abs_nearestUp_sub_le {number : Rat} (hnonneg : 0 ≤ number) :
    |(nearestUp number : Rat) - number| ≤ 1 / 2 := by
  have hlow := Nat.floor_le (by linarith : 0 ≤ number + 1 / 2)
  have hhigh := Nat.lt_floor_add_one (number + 1 / 2)
  rw [abs_le]
  constructor
  · show -(1 / 2) ≤ (⌊number + 1 / 2⌋₊ : Rat) - number
    linarith
  · show (⌊number + 1 / 2⌋₊ : Rat) - number ≤ 1 / 2
    linarith

/-- Rounding to multiples of a unit moves a number by at most half a unit. -/
theorem abs_nearestUp_mul_sub_le {number unit : Rat} (hnonneg : 0 ≤ number) (hunit : 0 < unit) :
    |(nearestUp (number / unit) : Rat) * unit - number| ≤ unit / 2 := by
  have hnearest := abs_nearestUp_sub_le (div_nonneg hnonneg hunit.le)
  calc |(nearestUp (number / unit) : Rat) * unit - number|
      = |(nearestUp (number / unit) : Rat) - number / unit| * unit := by
        rw [← abs_of_pos hunit, ← abs_mul, abs_of_pos hunit, sub_mul, div_mul_cancel₀ _ hunit.ne']
    _ ≤ 1 / 2 * unit := mul_le_mul_of_nonneg_right hnearest hunit.le
    _ = unit / 2 := by ring

/-- Rounding does not fall below a natural number. -/
theorem le_nearestUp {number : Rat} {bound : Nat} (hbound : (bound : Rat) ≤ number) :
    bound ≤ nearestUp number :=
  (nearestUp_natCast bound).symm.trans_le (nearestUp_mono hbound)

/-- Less than one half rounds to zero. -/
theorem nearestUp_eq_zero {number : Rat} (hnonneg : 0 ≤ number) (hsmall : number < 1 / 2) :
    nearestUp number = 0 := by
  have hzero := nearestUp_natCast_add 0 hnonneg (by linarith)
  rwa [Nat.cast_zero, zero_add, if_pos hsmall] at hzero

/-- The integer below a number and one half is the nearest natural number. -/
theorem intCast_floor_add_half {number : Rat} (hnonneg : 0 ≤ number) :
    ((⌊number + 1 / 2⌋ : Int) : Rat) = nearestUp number :=
  (natCast_floor_eq_intCast_floor (by linarith)).symm

namespace Decimal

/-! ## Adding one -/

/-- A one is carried out of the first place only when all digits are nines. -/
theorem increment_of_carry {digits rest : List Nat}
    (hincrement : increment digits = (true, rest)) :
    rest = List.replicate digits.length 0 ∧ toNat 10 digits + 1 = 10 ^ digits.length := by
  induction digits generalizing rest with
  | nil =>
      cases hincrement
      exact ⟨rfl, rfl⟩
  | cons digit digits ih =>
      unfold increment at hincrement
      split at hincrement
      · rename_i others hothers
        obtain ⟨hzeros, hnines⟩ := ih hothers
        split at hincrement
        · rename_i hnine
          cases hincrement
          rw [toNat_cons, List.length_cons, Nat.pow_succ', hnine, hzeros]
          exact ⟨rfl, by omega⟩
        · cases hincrement
      · cases hincrement

/-- All digits from which a one is carried out of the first place are nines. -/
theorem eq_nines_of_carry {digits rest : List Nat}
    (hincrement : increment digits = (true, rest)) : digits = List.replicate digits.length 9 := by
  induction digits generalizing rest with
  | nil => rfl
  | cons digit digits ih =>
      unfold increment at hincrement
      split at hincrement
      · rename_i others hothers
        split at hincrement
        · rename_i hnine
          rw [List.length_cons, List.replicate_succ, ← ih hothers, hnine]
        · cases hincrement
      · cases hincrement

/-- Without a carry out of the first place the digits denote one more. -/
theorem toNat_increment {digits rest : List Nat}
    (hincrement : increment digits = (false, rest)) :
    toNat 10 rest = toNat 10 digits + 1 := by
  induction digits generalizing rest with
  | nil => cases hincrement
  | cons digit digits ih =>
      have hlength := length_increment digits
      unfold increment at hincrement
      split at hincrement
      · rename_i others hothers
        obtain ⟨hzeros, hnines⟩ := increment_of_carry hothers
        split at hincrement
        · cases hincrement
        · cases hincrement
          rw [toNat_cons, toNat_cons, hzeros, toNat_zeros, List.length_replicate, Nat.succ_mul]
          omega
      · rename_i others hothers
        cases hincrement
        rw [hothers] at hlength
        change others.length = digits.length at hlength
        rw [toNat_cons, toNat_cons, hlength, ih hothers]
        omega

/-- Adding one gives decimal digits again. -/
theorem lt_of_mem_increment {digits : List Nat} (hdigits : ∀ digit ∈ digits, digit < 10) :
    ∀ digit ∈ (increment digits).2, digit < 10 := by
  induction digits with
  | nil => simp [increment]
  | cons digit digits ih =>
      have hfirst : digit < 10 := hdigits digit (by simp)
      have hothers := ih fun other hother ↦ hdigits other (List.mem_cons_of_mem _ hother)
      unfold increment
      split
      · rename_i others hincrement
        rw [hincrement] at hothers
        split
        · exact List.forall_mem_cons.2 ⟨by omega, hothers⟩
        · exact List.forall_mem_cons.2 ⟨by omega, hothers⟩
      · rename_i others hincrement
        rw [hincrement] at hothers
        exact List.forall_mem_cons.2 ⟨hfirst, hothers⟩

/-! ## The digits that are kept -/

/-- Moving the point multiplies by a power of ten. -/
theorem toRat_shift (digits : List Nat) (point places : Int) :
    toRat ⟨digits, point + places⟩ = toRat ⟨digits, point⟩ * 10 ^ places := by
  have hexponent : point + places - (digits.length : Int) = point - digits.length + places := by
    omega
  unfold toRat
  dsimp only
  rw [hexponent, powerOfTen_eq, powerOfTen_eq, zpow_add₀ (by norm_num), mul_assoc]

/-- Digits behind others count from where those end. -/
theorem toRat_append (front back : List Nat) (point : Int) :
    toRat ⟨front ++ back, point⟩ =
      toRat ⟨front, point⟩ + toRat ⟨back, point - front.length⟩ := by
  have hfront : point - (front.length : Int) =
      point - front.length - back.length + back.length := by omega
  have hback : point - ((front ++ back).length : Int) = point - front.length - back.length := by
    rw [List.length_append]
    omega
  unfold toRat
  dsimp only
  rw [hback, hfront, powerOfTen_add, toNat_append, Int.add_sub_cancel]
  push_cast
  ring

/-- No digits have the value zero. -/
theorem toRat_nil (point : Int) : toRat ⟨[], point⟩ = 0 := zero_mul _

/-- With the point behind the leading digits these are the integer part, and the other digits are
the fraction. -/
theorem toRat_eq_leading_add (digits : List Nat) (count : Nat) :
    toRat ⟨digits, count⟩ =
      (toNat 10 (leading digits count) : Rat) + toRat ⟨digits.drop count, 0⟩ := by
  have hleading : toRat ⟨leading digits count, count⟩ = toNat 10 (leading digits count) := by
    unfold toRat
    dsimp only
    rw [length_leading, sub_self]
    exact mul_one _
  have hfraction : toRat ⟨digits.drop count, count - (digits.take count).length⟩ =
      toRat ⟨digits.drop count, 0⟩ := by
    rcases Nat.le_total count digits.length with hle | hle
    · rw [List.length_take, Nat.min_eq_left hle, sub_self]
    · rw [List.drop_eq_nil_of_le hle, toRat_nil, toRat_nil]
  conv_lhs => rw [← List.take_append_drop count digits]
  rw [toRat_append, hfraction, ← hleading, leading, toRat_append_zeros]

section Fraction

variable {digits : List Nat} (hdigits : ∀ digit ∈ digits, digit < 10)

include hdigits

/-- Digits behind the point are less than one. -/
theorem toRat_fraction_lt_one : toRat ⟨digits, 0⟩ < 1 :=
  (toRat_lt ⟨digits, 0⟩ hdigits).trans_eq (zpow_zero _)

/-- Digits behind the point are below one half when the first of them is below five. -/
theorem toRat_lt_half_iff : toRat ⟨digits, 0⟩ < 1 / 2 ↔ digits.headD 0 < 5 := by
  cases digits with
  | nil =>
      rw [toRat_nil]
      exact iff_of_true (by norm_num) (by decide)
  | cons digit digits =>
      have hfirst : toRat ⟨[digit], 0⟩ = (digit : Rat) / 10 := by
        show ((toNat 10 [digit] : Nat) : Rat) * powerOfTen (-1) = digit / 10
        rw [powerOfTen_eq, zpow_neg_one, ← div_eq_mul_inv]
        rw [toNat_singleton]
      have hothers : toRat ⟨digits, -1⟩ < 1 / 10 :=
        (toRat_lt ⟨digits, -1⟩ fun other hother ↦
          hdigits other (List.mem_cons_of_mem _ hother)).trans_eq (by norm_num)
      have hnonneg := toRat_nonneg ⟨digits, -1⟩
      have hsplit : toRat ⟨digit :: digits, 0⟩ = (digit : Rat) / 10 + toRat ⟨digits, -1⟩ := by
        rw [← List.singleton_append, toRat_append, hfirst]
        rfl
      rw [hsplit, List.headD_cons]
      constructor
      · intro hsmall
        have hdigit : (digit : Rat) < (5 : Nat) := by
          push_cast
          linarith
        exact_mod_cast hdigit
      · intro hsmall
        have hdigit : (digit : Rat) ≤ (4 : Nat) := by exact_mod_cast Nat.le_of_lt_succ hsmall
        push_cast at hdigit
        linarith

end Fraction

/-! ## Rounding -/

/-- An expansion with a number of digits kept: they denote the nearest natural number when the point
stands behind them. They are as many as are kept, or they are a one and zeros, which moves the
point. -/
structure RoundedAt (decimal : Decimal) (count : Nat) (rounded : Decimal) : Prop where
  value : toNat 10 rounded.digits = nearestUp (toRat ⟨decimal.digits, count⟩)
  digits : ∀ digit ∈ rounded.digits, digit < 10
  shape : rounded.digits.length = count ∧ rounded.point = decimal.point ∨
    rounded.digits = 1 :: List.replicate count 0 ∧ rounded.point = decimal.point + 1

/-- Rounding is correct at every place, also behind the last digit. -/
theorem roundedAt_roundHalfUp {decimal : Decimal} (hdigits : ∀ digit ∈ decimal.digits, digit < 10)
    (count : Nat) : RoundedAt decimal count (decimal.roundHalfUp count) := by
  have hback : ∀ digit ∈ decimal.digits.drop count, digit < 10 :=
    fun digit hdigit ↦ hdigits digit (List.mem_of_mem_drop hdigit)
  have hkept : ∀ digit ∈ leading decimal.digits count, digit < 10 := by
    intro digit hdigit
    rcases List.mem_append.1 hdigit with hfront | hzero
    · exact hdigits digit (List.mem_of_mem_take hfront)
    · rw [List.eq_of_mem_replicate hzero]
      omega
  have hnext : decimal.digits.getD count 0 = (decimal.digits.drop count).headD 0 := by
    rw [List.headD_eq_head?_getD, List.head?_drop, List.getD_eq_getElem?_getD]
  have hnearest := nearestUp_natCast_add (toNat 10 (leading decimal.digits count))
    (toRat_nonneg ⟨decimal.digits.drop count, 0⟩) (toRat_fraction_lt_one hback)
  rw [← toRat_eq_leading_add] at hnearest
  simp only [toRat_lt_half_iff hback, ← hnext] at hnearest
  have hlength := length_leading decimal.digits count
  have hincremented := length_increment (leading decimal.digits count)
  have hlow := lt_of_mem_increment hkept
  unfold roundHalfUp
  rw [if_neg (by omega), Int.toNat_natCast]
  dsimp only
  split
  · rename_i hdown
    rw [if_pos hdown] at hnearest
    exact ⟨hnearest.symm, hkept, .inl ⟨hlength, rfl⟩⟩
  · rename_i hup
    rw [if_neg hup] at hnearest
    split
    · rename_i zeros hcarry
      obtain ⟨rfl, hnines⟩ := increment_of_carry hcarry
      rw [hlength] at hnines ⊢
      refine ⟨?_, ?_, .inr ⟨rfl, rfl⟩⟩
      · show toNat 10 (1 :: List.replicate count 0) = _
        rw [hnearest, hnines, toNat_one_zeros]
      · intro digit hdigit
        rcases List.mem_cons.1 hdigit with rfl | hzero
        · omega
        · rw [List.eq_of_mem_replicate hzero]
          omega
    · rename_i digits hcarry
      rw [hcarry] at hincremented hlow
      exact ⟨(toNat_increment hcarry).trans hnearest.symm, hlow,
        .inl ⟨hincremented.trans hlength, rfl⟩⟩

/-- Rounding moves the point only when all the digits that are kept are nines, and the next one is
five or more. -/
theorem nines_of_point_roundHalfUp {decimal : Decimal} {count : Nat}
    (hpoint : (decimal.roundHalfUp count).point = decimal.point + 1) :
    decimal.digits.take count = List.replicate count 9 ∧ 5 ≤ decimal.digits.getD count 0 := by
  have hsame : decimal.point ≠ decimal.point + 1 := by omega
  unfold roundHalfUp at hpoint
  rw [if_neg (by omega), Int.toNat_natCast] at hpoint
  dsimp only at hpoint
  split at hpoint
  · exact absurd hpoint hsame
  · rename_i hup
    have hlength : count < decimal.digits.length := by
      by_contra hshort
      refine hup ?_
      rw [List.getD_eq_getElem?_getD, List.getElem?_eq_none (not_lt.1 hshort)]
      decide
    have hleading : leading decimal.digits count = decimal.digits.take count := by
      rw [leading, Nat.sub_eq_zero_of_le hlength.le, List.replicate_zero, List.append_nil]
    split at hpoint
    · rename_i zeros hcarry
      have hnines := eq_nines_of_carry hcarry
      rw [length_leading, hleading] at hnines
      exact ⟨hnines, by omega⟩
    · exact absurd hpoint hsame

/-- The value at the point where digits are kept, rounded to the nearest multiple of its unit. -/
theorem RoundedAt.toRat_eq {decimal rounded : Decimal} {count : Nat}
    (hrounded : RoundedAt decimal count rounded) :
    rounded.toRat = (⌊decimal.toRat * 10 ^ ((count : Int) - decimal.point) + 1 / 2⌋ : Int) *
      10 ^ (decimal.point - count) := by
  have hvalue : toRat ⟨decimal.digits, count⟩ =
      decimal.toRat * 10 ^ ((count : Int) - decimal.point) := by
    rw [← toRat_shift, add_sub_cancel]
  have hunit : rounded.point - rounded.digits.length = decimal.point - count := by
    rcases hrounded.shape with ⟨hlength, hpoint⟩ | ⟨hdigits, hpoint⟩
    · rw [hlength, hpoint]
    · rw [hdigits, hpoint, List.length_cons, List.length_replicate]
      omega
  rw [← hvalue, intCast_floor_add_half (toRat_nonneg _), ← hrounded.value, ← hunit, toRat,
    powerOfTen_eq]

/-- The value of a decimal is not negative in any place. -/
theorem scaled_nonneg (decimal : Decimal) (places : Int) : 0 ≤ decimal.toRat * 10 ^ places :=
  mul_nonneg (toRat_nonneg decimal) (zpow_nonneg (by norm_num) places)

/-- An expansion is below half a unit of a place in front of all its digits. -/
theorem scaled_lt_half {decimal : Decimal} (hdigits : ∀ digit ∈ decimal.digits, digit < 10)
    {keep : Int} (hkeep : keep < 0) :
    decimal.toRat * 10 ^ (keep - decimal.point) < 1 / 2 := by
  calc decimal.toRat * 10 ^ (keep - decimal.point)
      < 10 ^ decimal.point * 10 ^ (keep - decimal.point) :=
        mul_lt_mul_of_pos_right (toRat_lt decimal hdigits) (zpow_pos (by norm_num) _)
    _ = 10 ^ keep := by rw [← zpow_add₀ (by norm_num), add_sub_cancel]
    _ ≤ 10 ^ (-1 : Int) := zpow_le_zpow_right₀ (by norm_num) (by omega)
    _ < 1 / 2 := by norm_num

/-- Keeping a number of leading digits is rounding to the nearest multiple of the unit of the last
place that is kept, half a unit going up, also when more digits are kept than there are. As many
digits are left as are kept, and the point stays; or all of them were nines that round up, a one and
as many zeros are left, and the point moves by a place. When fewer than no digits are kept nothing
is left, which is right because the number is below the unit in front of its first digit. -/
theorem roundHalfUp_nearest (decimal : Decimal) (hdigits : ∀ digit ∈ decimal.digits, digit < 10)
    (keep : Int) :
    let rounded := decimal.roundHalfUp keep
    let nearest : Rat := (⌊decimal.toRat * 10 ^ (keep - decimal.point) + 1 / 2⌋ : Int) *
      10 ^ (decimal.point - keep)
    (0 ≤ keep → (∀ digit ∈ rounded.digits, digit < 10) ∧ rounded.toRat = nearest ∧
      ((rounded.digits.length : Int) = keep ∧ rounded.point = decimal.point ∨
        (decimal.digits.take keep.toNat = List.replicate keep.toNat 9 ∧
            5 ≤ decimal.digits.getD keep.toNat 0) ∧
          rounded.digits = 1 :: List.replicate keep.toNat 0 ∧
          rounded.point = decimal.point + 1)) ∧
      (keep < 0 → rounded = ⟨[], decimal.point⟩ ∧ decimal.toRat < 10 ^ decimal.point ∧
        rounded.toRat = nearest) := by
  intro rounded nearest
  constructor
  · intro hkeep
    obtain ⟨count, rfl⟩ := Int.eq_ofNat_of_zero_le hkeep
    have hrounded : RoundedAt decimal count rounded := roundedAt_roundHalfUp hdigits count
    refine ⟨hrounded.digits, hrounded.toRat_eq, ?_⟩
    rcases hrounded.shape with ⟨hlength, hpoint⟩ | ⟨hcarried, hpoint⟩
    · exact .inl ⟨congrArg _ hlength, hpoint⟩
    · exact .inr ⟨nines_of_point_roundHalfUp hpoint, hcarried, hpoint⟩
  · intro hkeep
    have hnothing : rounded = ⟨[], decimal.point⟩ := if_pos hkeep
    have hzero : nearest = 0 := by
      have hnonneg := scaled_nonneg decimal (keep - decimal.point)
      show (⌊_⌋ : Int) * (10 : Rat) ^ (decimal.point - keep) = 0
      rw [intCast_floor_add_half hnonneg,
        nearestUp_eq_zero hnonneg (scaled_lt_half hdigits hkeep), Nat.cast_zero, zero_mul]
    exact ⟨hnothing, toRat_lt decimal hdigits, by rw [hnothing, toRat_nil, hzero]⟩

/-- Nines that round up, and fewer than no digits. -/
theorem roundHalfUp_nearest_carry :
    (Decimal.mk [9, 9, 6] 1).roundHalfUp 2 = ⟨[1, 0, 0], 2⟩ ∧
      (Decimal.mk [1, 0, 0] 2).toRat = 10 ∧
      (Decimal.mk [9, 9, 6] 1).roundHalfUp (-1) = ⟨[], 1⟩ := by
  have hdigits : ∀ digit ∈ [9, 9, 6], digit < 10 := by decide
  have hkept : (Decimal.mk [9, 9, 6] 1).roundHalfUp 2 = ⟨[1, 0, 0], 2⟩ := by decide
  obtain ⟨-, hvalue, -⟩ := (roundHalfUp_nearest ⟨[9, 9, 6], 1⟩ hdigits 2).1 (by decide)
  obtain ⟨hnothing, -, -⟩ := (roundHalfUp_nearest ⟨[9, 9, 6], 1⟩ hdigits (-1)).2 (by decide)
  have hexact : (Decimal.mk [9, 9, 6] 1).toRat = 249 / 25 := by decide +kernel
  rw [hkept, hexact] at hvalue
  refine ⟨hkept, hvalue.trans ?_, hnothing⟩
  norm_num

end Decimal

end Numbering
