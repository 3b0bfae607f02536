import Numbering.Proofs.Binary64.Representable
import Numbering.Proofs.Decimal.HalfUp
import Numbering.Proofs.Numeral.PointText

/-!
# Fixed texts

Below `10 ^ 21` a number with a number of places after the point is the text of the nearest number
of units in the last of these places, half a unit going away from zero
(`Numeral.fixed_nearest`). The exact expansion of the number is rounded once, at a digit that
may stand in front of the first one, behind the last one, or anywhere between them.
-/

namespace Numbering

open Digits

namespace Decimal

/-- In units of a place behind the first digit, a magnitude is rounded to as many digits as there
are up to this place, or more. -/
theorem pow_le_nearestUp {magnitude : Magnitude} (hsignificand : magnitude.significand ≠ 0)
    {count : Nat} {shift : Int} (hcount : (ofMagnitude magnitude).point - 1 + shift = count) :
    10 ^ count ≤ nearestUp (magnitude.toRat * 10 ^ shift) := by
  apply le_nearestUp
  calc ((10 ^ count : Nat) : Rat) = 10 ^ ((ofMagnitude magnitude).point - 1 + shift) := by
        rw [hcount, zpow_natCast]
        exact Nat.cast_pow 10 _
    _ = 10 ^ ((ofMagnitude magnitude).point - 1) * 10 ^ shift := zpow_add₀ (by norm_num) _ _
    _ ≤ magnitude.toRat * 10 ^ shift :=
        mul_le_mul_of_nonneg_right (zpow_le_toRat_ofMagnitude hsignificand)
          (zpow_pos (by norm_num) _).le

/-- Rounding the exact expansion of a magnitude at some place after the point gives the digits of
the nearest number of units in that place. No zero stands in front of them where a digit in front of
the point stands before it. -/
theorem roundHalfUp_places (magnitude : Magnitude) (places : Nat) :
    let rounded := (ofMagnitude magnitude).roundHalfUp ((ofMagnitude magnitude).point + places)
    toNat 10 rounded.digits = nearestUp (magnitude.toRat * 10 ^ places) ∧
      (∀ digit ∈ rounded.digits, digit < 10) ∧
      (rounded.digits.length ≤ places + 1 ∨
        10 ^ (rounded.digits.length - 1) ≤ toNat 10 rounded.digits) := by
  intro rounded
  have hdigits : ∀ digit ∈ (ofMagnitude magnitude).digits, digit < 10 :=
    fun _ ↦ lt_of_mem_digits_ofMagnitude
  have hshift : toRat ⟨(ofMagnitude magnitude).digits, (ofMagnitude magnitude).point + places⟩ =
      magnitude.toRat * 10 ^ places := by
    rw [toRat_shift, zpow_natCast, ← toRat_ofMagnitude]
  rcases lt_or_ge ((ofMagnitude magnitude).point + places) 0 with hbefore | hbehind
  · -- The number is below a tenth of the unit, and nothing is kept.
    have hrounded : rounded = ⟨[], (ofMagnitude magnitude).point⟩ := if_pos hbefore
    have hsmall : magnitude.toRat * 10 ^ places < 1 / 2 := by
      calc magnitude.toRat * 10 ^ places
          < 10 ^ ((ofMagnitude magnitude).point + places) := hshift ▸ toRat_lt _ hdigits
        _ ≤ (10 : Rat) ^ (-1 : Int) := zpow_le_zpow_right₀ (by norm_num) (by omega)
        _ < 1 / 2 := by norm_num
    have hnonneg : 0 ≤ magnitude.toRat * 10 ^ places :=
      mul_nonneg magnitude.toRat_nonneg (by positivity)
    rw [hrounded, nearestUp_eq_zero hnonneg hsmall]
    exact ⟨rfl, by simp, .inl (Nat.zero_le _)⟩
  · obtain ⟨count, hcount⟩ := Int.eq_ofNat_of_zero_le hbehind
    have hround : RoundedAt (ofMagnitude magnitude) count rounded := by
      show RoundedAt _ count ((ofMagnitude magnitude).roundHalfUp _)
      rw [hcount]
      exact roundedAt_roundHalfUp hdigits count
    have hvalue : toNat 10 rounded.digits = nearestUp (magnitude.toRat * 10 ^ places) := by
      rw [hround.value, ← hshift, hcount]
    refine ⟨hvalue, hround.digits, ?_⟩
    obtain ⟨hlength, -⟩ | ⟨hcarry, -⟩ := hround.shape
    · rw [hlength]
      by_cases hsignificand : magnitude.significand = 0
      · left
        rw [ofMagnitude, if_pos hsignificand] at hcount
        change (1 : Int) + places = count at hcount
        omega
      · rcases Nat.eq_zero_or_pos count with hzero | hpos
        · left
          omega
        · right
          have hplace : (ofMagnitude magnitude).point - 1 + places = (count - 1 : Nat) := by omega
          have hlow := pow_le_nearestUp hsignificand hplace
          rwa [zpow_natCast, ← hvalue] at hlow
    · right
      rw [hcarry, toNat_one_zeros, List.length_cons, List.length_replicate, Nat.add_sub_cancel]

end Decimal

namespace Numeral

/-- The sign of a finite number is that of its value. -/
theorem sign_eq {number : Binary64} (hfinite : number.isFinite = true) :
    sign number = if number.toRat < 0 then ['-'] else [] := by
  cases number with
  | nan => cases hfinite
  | infinity negative => cases hfinite
  | finite negative magnitude =>
      have hnonneg := magnitude.toRat_nonneg
      cases negative with
      | false => exact (if_neg hnonneg.not_gt).symm
      | true =>
          by_cases hsignificand : magnitude.significand = 0
          · have hvalue := Magnitude.significand_eq_zero_iff.1 hsignificand
            simp [sign, Binary64.isBelowZero, Binary64.toRat, hsignificand, hvalue]
          · have hpos := Magnitude.toRat_pos hsignificand
            simp [sign, Binary64.isBelowZero, Binary64.toRat, hsignificand, hpos]

/-- The limit from which on a fixed text has no places is a number of its own. -/
theorem less_fixedLimit {number : Binary64} (hfinite : number.isFinite = true)
    (hsmall : |number.toRat| < 10 ^ 21) : number.abs.less fixedLimit = true := by
  have hrepresentable : IsRepresentable (1000000000000000000000 : Nat) :=
    isRepresentable_pow_ten (by decide : 21 ≤ 22)
  obtain ⟨limit, hlimit, hvalue⟩ := Binary64.exists_ofNat_eq hrepresentable
  cases number with
  | nan => cases hfinite
  | infinity negative => cases hfinite
  | finite negative magnitude =>
      rw [Binary64.abs_toRat_finite] at hsmall
      rw [fixedLimit, hlimit]
      show decide (magnitude.toRat < limit.toRat) = true
      rw [hvalue, decide_eq_true_eq]
      exact hsmall.trans_eq (by norm_num)

/-- A number below `10 ^ 21` with a number of places, at most one hundred of which are written, is
the nearest number of units in the last place, half a unit going away from zero. The sign is that of
the number itself, also where nothing but zeros is left of it; neither zero has a sign. -/
theorem fixed_nearest {number : Binary64} (hfinite : number.isFinite = true)
    (hsmall : |number.toRat| < 10 ^ 21) (places : Nat) :
    fixed number places =
      (if number.toRat < 0 then ['-'] else []) ++
        pointText (min places 100) (nearestUp (|number.toRat| * 10 ^ min places 100)) := by
  have hless := less_fixedLimit hfinite hsmall
  rw [← sign_eq hfinite]
  cases number with
  | nan => cases hfinite
  | infinity negative => cases hfinite
  | finite negative magnitude =>
      obtain ⟨hvalue, hdigits, hfirst⟩ :=
        Decimal.roundHalfUp_places magnitude (min places 100)
      unfold fixed
      dsimp only
      rw [if_pos hless, insertPoint_chars hdigits hfirst, hvalue, Binary64.abs_toRat_finite]

/-- A tie below zero: it goes away from zero, and the one that is carried is a digit of its own. -/
theorem fixed_nearest_carry :
    let tie : Binary64 := .finite true ⟨5348024557502464, -49, by decide⟩
    tie.isFinite = true ∧ |tie.toRat| < 10 ^ 21 ∧ tie.toRat = -19 / 2 ∧
      fixed tie 0 = "-10".toList := by
  intro tie
  have hsmall : |tie.toRat| < 10 ^ 21 := by decide +kernel
  exact ⟨rfl, hsmall, by decide +kernel, (fixed_nearest rfl hsmall 0).trans (by decide +kernel)⟩

end Numeral

end Numbering
