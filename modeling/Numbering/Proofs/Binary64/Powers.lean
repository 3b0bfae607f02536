import Mathlib.Data.Int.Log
import Mathlib.Data.Rat.Floor
import Numbering.Binary64.Rounding

/-!
# Powers and the binary logarithm

The exact powers of two and ten are integer powers of rational numbers, and `floorLog2` is the
binary logarithm rounded down, so that the lemmas of the library about both apply.
-/

namespace Numbering

/-- The powers of two are those of the rational numbers. -/
theorem powerOfTwo_eq (exponent : Int) : powerOfTwo exponent = (2 : Rat) ^ exponent := by
  cases exponent with
  | ofNat exponent =>
      rw [powerOfTwo, Int.ofNat_eq_natCast, zpow_natCast]
      exact Nat.cast_pow 2 exponent
  | negSucc exponent =>
      rw [powerOfTwo, zpow_negSucc, Rat.mkRat_eq_div, Int.cast_one, one_div]
      exact congrArg Inv.inv (Nat.cast_pow 2 (exponent + 1))

/-- The powers of ten are those of the rational numbers. -/
theorem powerOfTen_eq (exponent : Int) : powerOfTen exponent = (10 : Rat) ^ exponent := by
  cases exponent with
  | ofNat exponent =>
      rw [powerOfTen, Int.ofNat_eq_natCast, zpow_natCast]
      exact Nat.cast_pow 10 exponent
  | negSucc exponent =>
      rw [powerOfTen, zpow_negSucc, Rat.mkRat_eq_div, Int.cast_one, one_div]
      exact congrArg Inv.inv (Nat.cast_pow 10 (exponent + 1))

/-- Powers of two are positive. -/
theorem powerOfTwo_pos (exponent : Int) : 0 < powerOfTwo exponent := by
  rw [powerOfTwo_eq]
  exact zpow_pos (by decide) exponent

/-- Powers of ten are positive. -/
theorem powerOfTen_pos (exponent : Int) : 0 < powerOfTen exponent := by
  rw [powerOfTen_eq]
  exact zpow_pos (by decide) exponent

/-- Moving the exponent by a number of places is multiplying by a power. -/
theorem powerOfTen_add (exponent : Int) (places : Nat) :
    powerOfTen (exponent + places) = (10 ^ places : Nat) * powerOfTen exponent := by
  rw [powerOfTen_eq, powerOfTen_eq, zpow_add₀ (by decide), zpow_natCast, Nat.cast_pow, mul_comm]
  rfl

/-- A power of ten that is not above one is not above the same power of two. -/
theorem powerOfTen_le_powerOfTwo {exponent : Int} (hexponent : exponent ≤ 0) :
    powerOfTen exponent ≤ powerOfTwo exponent := by
  obtain ⟨places, hplaces⟩ : ∃ places : Nat, exponent = -(places : Int) :=
    ⟨exponent.natAbs, by omega⟩
  rw [powerOfTen_eq, powerOfTwo_eq, hplaces, zpow_neg, zpow_neg, zpow_natCast, zpow_natCast]
  exact inv_anti₀ (pow_pos (by decide) places) (pow_le_pow_left₀ (by decide) (by decide) places)

/-- The logarithm is determined by the powers of two around a number. -/
theorem log_eq_of_bounds {number : Rat} {exponent : Int} (hlow : (2 : Rat) ^ exponent ≤ number)
    (hhigh : number < (2 : Rat) ^ (exponent + 1)) : Int.log 2 number = exponent := by
  have hpos : 0 < number := (zpow_pos (by decide) exponent).trans_le hlow
  apply le_antisymm
  · exact Int.lt_add_one_iff.1 ((Int.lt_zpow_iff_log_lt (by decide) hpos).1 hhigh)
  · exact (Int.zpow_le_iff_le_log (by decide) hpos).1 hlow

/-- A power of two with a split exponent is compared with a quotient by natural numbers. -/
theorem zpow_sub_le_div_iff {numerator denominator up down : Nat} (hpos : 0 < denominator) :
    (2 : Rat) ^ ((up : Int) - down) ≤ (numerator : Rat) / denominator ↔
      denominator * 2 ^ up ≤ numerator * 2 ^ down := by
  have hdenominator : (0 : Rat) < denominator := Nat.cast_pos.2 hpos
  rw [zpow_sub₀ (by decide), zpow_natCast, zpow_natCast,
    div_le_div_iff₀ (pow_pos (by decide) down) hdenominator, mul_comm]
  exact_mod_cast Iff.rfl

/-- The logarithm that rounding uses is the binary logarithm rounded down. -/
theorem floorLog2_eq {number : Rat} (hpos : 0 < number) : floorLog2 number = Int.log 2 number := by
  have hnum : number.num.natAbs ≠ 0 := Int.natAbs_ne_zero.2 (Rat.num_pos.2 hpos).ne'
  have hquotient : number = (number.num.natAbs : Rat) / number.den := by
    rw [Nat.cast_natAbs, abs_of_pos (Rat.num_pos.2 hpos), Rat.num_div_den]
  have hnumLow := Nat.log2_self_le hnum
  have hnumHigh := @Nat.lt_log2_self number.num.natAbs
  have hdenLow := Nat.log2_self_le number.den_nz
  have hdenHigh := @Nat.lt_log2_self number.den
  unfold floorLog2
  dsimp only
  generalize number.num.natAbs.log2 = up at *
  generalize number.den.log2 = down at *
  -- The bit lengths leave two exponents, and the comparison decides between them.
  split
  · rename_i hestimate
    refine (log_eq_of_bounds ?_ ?_).symm
    · rw [hquotient]
      exact (zpow_sub_le_div_iff number.den_pos).2 hestimate
    · have hsplit : (up : Int) - down + 1 = ((up + 1 : Nat) : Int) - down := by omega
      rw [hquotient, hsplit, ← not_le, zpow_sub_le_div_iff number.den_pos, not_le]
      calc number.num.natAbs * 2 ^ down < 2 ^ (up + 1) * 2 ^ down :=
            Nat.mul_lt_mul_of_pos_right hnumHigh (Nat.pow_pos (by decide))
        _ ≤ 2 ^ (up + 1) * number.den := Nat.mul_le_mul_left _ hdenLow
        _ = number.den * 2 ^ (up + 1) := Nat.mul_comm _ _
  · rename_i hestimate
    refine (log_eq_of_bounds ?_ ?_).symm
    · have hsplit : (up : Int) - down - 1 = (up : Int) - (down + 1 : Nat) := by omega
      rw [hquotient, hsplit, zpow_sub_le_div_iff number.den_pos]
      calc number.den * 2 ^ up ≤ 2 ^ (down + 1) * 2 ^ up := Nat.mul_le_mul_right _ hdenHigh.le
        _ ≤ 2 ^ (down + 1) * number.num.natAbs := Nat.mul_le_mul_left _ hnumLow
        _ = number.num.natAbs * 2 ^ (down + 1) := Nat.mul_comm _ _
    · rw [hquotient, Int.sub_add_cancel, ← not_le, zpow_sub_le_div_iff number.den_pos]
      exact hestimate

end Numbering
