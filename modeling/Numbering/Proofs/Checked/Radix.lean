import Numbering.Proofs.Numeral.RadixDigits

/-!
# The division loop of a base ends

The digits in front of the point are found by division until nothing is left. Here the loop has no
result when it is stopped before that. It is never stopped, in any base from two on: a quotient is
rounded to at most half of the number, because half of an integer is representable, so that a number
below `2 ^ 1024` is used up after as many steps (`Checked.radix_eq`).
-/

namespace Numbering.Checked

open Digits Numeral

/-- Divide by the base until nothing is left, within a number of steps. -/
def integerDigits (base : Binary64) : Nat → Binary64 → List Nat → Option (List Nat)
  | 0, _, _ => none
  | limit + 1, number, found =>
      let found := (number.rem base).toInt.toNat :: found
      let quotient := (number.div base).truncate
      if quotient.less .one then some found else integerDigits base limit quotient found

/-- The text of a number in a base. -/
def radix (number : Binary64) (base : Nat) : Option (List Char) :=
  match special? number with
  | some text => some text
  | none => do
      let base := Binary64.ofNat base
      let whole := number.abs.truncate
      let found ← integerDigits base integerDigitLimit whole []
      let digits := fractionDigits base fractionDigitLimit (number.abs.sub whole)
      return sign number ++ chars found ++ if digits.isEmpty then [] else '.' :: chars digits

section Division

variable {base number : Nat} (hbase : 2 ≤ base) (hle : base ≤ 2 ^ 53)
  (hnumber : IsRepresentable number)

include hbase hle hnumber

/-- A quotient is at most half of the number. -/
theorem exists_quotient : ∃ quotient : Nat,
    ((Binary64.ofNat number).div (.ofNat base)).truncate = .ofNat quotient ∧
      IsRepresentable quotient ∧ 2 * quotient ≤ number := by
  have hpos : 0 < base := by omega
  have hhalf : IsRepresentable ((number : Rat) / (2 ^ 1 : Nat)) := hnumber.div_two_pow (by omega)
  have hnonneg : (0 : Rat) ≤ number / base := div_nonneg (Nat.cast_nonneg _) (Nat.cast_nonneg _)
  have hquotient : (number : Rat) / base ≤ number / (2 ^ 1 : Nat) :=
    div_le_div_of_nonneg_left (Nat.cast_nonneg _) (by norm_num) (by exact_mod_cast hbase)
  have hsmall : (number : Rat) / base < 2 ^ (1023 : Int) := by
    refine hquotient.trans_lt ?_
    rw [div_lt_iff₀ (by norm_num)]
    have hlarge : (number : Rat) < 2 ^ 1024 := by
      exact_mod_cast (isRepresentable_natCast_iff.1 hnumber).1
    exact hlarge.trans_eq (by rw [pow_succ]; rfl)
  obtain ⟨magnitude, hround⟩ := Binary64.exists_roundMagnitude? hnonneg hsmall
  have hmagnitude :=
    Binary64.toRat_le_of_roundMagnitude?_of_le hhalf hnonneg hquotient hround
  obtain ⟨whole, -, hfloor, hwhole, htruncate, -, -⟩ := exists_truncate_sub_eq magnitude
  refine ⟨whole, ?_, hwhole, ?_⟩
  · rw [Binary64.ofNat_div_ofNat hnumber (isRepresentable_of_le hle) hpos, Binary64.ofMagnitude,
      hround]
    exact htruncate
  · have hwholeLe : (whole : Rat) ≤ magnitude.toRat := by
      have hfloorLe := Rat.floor_le magnitude.toRat
      rw [hfloor] at hfloorLe
      exact_mod_cast hfloorLe
    have hbound : (whole : Rat) * 2 ≤ number := by
      rw [← le_div_iff₀ (by norm_num)]
      exact (hwholeLe.trans hmagnitude).trans_eq (by norm_num)
    rw [Nat.mul_comm]
    exact_mod_cast hbound

/-- The loop ends after as many steps as the number has bits. -/
theorem integerDigits_eq {limit : Nat} (hlimit : number < 2 ^ limit) (found : List Nat) :
    integerDigits (.ofNat base) (limit + 1) (.ofNat number) found =
      some (Numeral.integerDigits (.ofNat base) (limit + 1) (.ofNat number) found) := by
  induction limit generalizing number found with
  | zero =>
      obtain ⟨quotient, hquotient, hrepresentable, hhalf⟩ := exists_quotient hbase hle hnumber
      have hzero : quotient = 0 := by omega
      rw [integerDigits, Numeral.integerDigits, hquotient, Binary64.ofNat_less_one hrepresentable,
        decide_eq_true hzero]
      rfl
  | succ limit ih =>
      obtain ⟨quotient, hquotient, hrepresentable, hhalf⟩ := exists_quotient hbase hle hnumber
      have hsmall : quotient < 2 ^ limit := by
        rw [Nat.pow_succ'] at hlimit
        omega
      rw [integerDigits, Numeral.integerDigits, hquotient]
      split
      · rfl
      · exact ih hrepresentable hsmall _

end Division

/-- The checked text of a number in a base is that text. -/
theorem radix_eq (number : Binary64) {base : Nat} (hbase : 2 ≤ base) (hle : base ≤ 2 ^ 53) :
    radix number base = some (Numeral.radix number base) := by
  cases number with
  | nan => rfl
  | infinity negative =>
      cases negative with
      | true | false => rfl
  | finite negative magnitude =>
      obtain ⟨whole, part, -, hwhole, htruncate, -, -⟩ := exists_truncate_sub_eq magnitude
      have hlimit : whole < 2 ^ (integerDigitLimit - 1) := by
        refine (isRepresentable_natCast_iff.1 hwhole).1.trans ?_
        apply Nat.pow_lt_pow_right (by decide)
        decide
      have htruncate' : (Binary64.finite negative magnitude).abs.truncate = .ofNat whole :=
        htruncate
      have hdigits := integerDigits_eq hbase hle hwhole hlimit []
      unfold radix Numeral.radix
      dsimp only [special?]
      rw [htruncate']
      exact Option.bind_eq_some_iff.2 ⟨_, hdigits, rfl⟩

end Numbering.Checked
