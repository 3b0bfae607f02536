import Numbering.Decimal.Literal
import Numbering.Decimal.Shortest
import Numbering.Proofs.Binary64.Rounding
import Numbering.Proofs.Text.Digits

/-!
# Values of decimals

The exact expansion of a magnitude denotes its value, zeros at the end of an expansion do not
count, and the shortest expansion of a magnitude reads back (`Decimal.roundMagnitude?_shortest`).
Reading a decimal is one rounding of its value (`Binary64.ofDecimal_eq`), also where the power of
ten is never formed.
-/

namespace Numbering

namespace Decimal

/-! ## Expansions -/

/-- The digits of a scaled number have its value. -/
theorem toRat_ofScaled (value : Nat) (exponent : Int) :
    (ofScaled value exponent).toRat = (value : Rat) * powerOfTen exponent := by
  unfold ofScaled toRat
  dsimp only
  rw [Digits.toNat_ofNat, add_sub_cancel_left]

/-- The exact expansion of a magnitude denotes its value. -/
theorem toRat_ofMagnitude (magnitude : Magnitude) :
    (ofMagnitude magnitude).toRat = magnitude.toRat := by
  unfold ofMagnitude Magnitude.toRat
  split
  · rename_i hzero
    rw [hzero, Nat.cast_zero, zero_mul]
    exact (congrArg (· * _) Nat.cast_zero).trans (zero_mul _)
  · split
    · rename_i exponent hexponent
      rw [toRat_ofScaled, hexponent, powerOfTwo]
      exact (mul_one _).trans (Nat.cast_mul _ _)
    · rename_i exponent hexponent
      -- A power of five turns the power of two in the denominator into a power of ten.
      have hpower : ((Nat.pow 5 (exponent + 1) : Nat) : Rat) * powerOfTen (.negSucc exponent) =
          powerOfTwo (.negSucc exponent) := by
        rw [powerOfTen_eq, powerOfTwo_eq, zpow_negSucc, zpow_negSucc, Nat.pow_eq, Nat.cast_pow]
        have hten : (10 : Rat) ^ (exponent + 1) = 5 ^ (exponent + 1) * 2 ^ (exponent + 1) := by
          rw [← mul_pow]
          norm_num
        rw [hten, mul_inv, ← mul_assoc]
        exact (congrArg (· * _) (mul_inv_cancel₀ (pow_ne_zero _ (by decide)))).trans (one_mul _)
      rw [toRat_ofScaled, hexponent, Nat.cast_mul, mul_assoc, hpower]

/-- The exact expansion of a magnitude other than zero has the digits of a number other than
zero. -/
theorem exists_ofMagnitude_eq {magnitude : Magnitude} (hsignificand : magnitude.significand ≠ 0) :
    ∃ value exponent, 0 < value ∧ ofMagnitude magnitude = ofScaled value exponent := by
  have hpos := Nat.pos_of_ne_zero hsignificand
  unfold ofMagnitude
  rw [if_neg hsignificand]
  split
  · exact ⟨_, _, Nat.mul_pos hpos (Nat.pow_pos (by decide)), rfl⟩
  · exact ⟨_, _, Nat.mul_pos hpos (Nat.pow_pos (by decide)), rfl⟩

/-- Zeros at the end do not change what an expansion denotes. -/
theorem toRat_append_zeros (digits : List Nat) (point : Int) (count : Nat) :
    toRat ⟨digits ++ List.replicate count 0, point⟩ = toRat ⟨digits, point⟩ := by
  unfold toRat
  dsimp only
  have hlength : point - (digits.length : Int) =
      point - (digits ++ List.replicate count 0).length + count := by
    rw [List.length_append, List.length_replicate]
    omega
  rw [hlength, powerOfTen_add, Digits.toNat_append, Digits.toNat_zeros, List.length_replicate,
    Nat.add_zero, Nat.cast_mul, mul_assoc]

/-- Dropping the zeros at the end drops nothing else. -/
theorem eq_dropTrailingZeros_append (digits : List Nat) :
    ∃ count, digits = dropTrailingZeros digits ++ List.replicate count 0 := by
  have hsplit := List.takeWhile_append_dropWhile (p := (· = 0)) (l := digits.reverse)
  have hzeros : digits.reverse.takeWhile (· = 0) =
      List.replicate (digits.reverse.takeWhile (· = 0)).length 0 := by
    refine List.eq_replicate_iff.2 ⟨rfl, fun digit hdigit ↦ ?_⟩
    have htest := List.all_eq_true.1 List.all_takeWhile digit hdigit
    exact of_decide_eq_true htest
  refine ⟨(digits.reverse.takeWhile (· = 0)).length, ?_⟩
  have hreverse := congrArg List.reverse hsplit
  rw [List.reverse_append, List.reverse_reverse, hzeros, List.reverse_replicate] at hreverse
  exact hreverse.symm

/-- Further zeros at the end are dropped. -/
theorem dropTrailingZeros_append_zeros (digits : List Nat) (count : Nat) :
    dropTrailingZeros (digits ++ List.replicate count 0) = dropTrailingZeros digits := by
  unfold dropTrailingZeros
  rw [List.reverse_append, List.reverse_replicate, List.dropWhile_append_of_pos]
  intro digit hdigit
  rw [List.eq_of_mem_replicate hdigit]
  rfl

/-- No zero is left at the end. -/
theorem getLast?_dropTrailingZeros (digits : List Nat) :
    (dropTrailingZeros digits).getLast? ≠ some 0 := by
  unfold dropTrailingZeros
  rw [List.getLast?_reverse]
  intro hzero
  have hhead := List.head?_dropWhile_not (fun digit : Nat ↦ decide (digit = 0)) digits.reverse
  rw [hzero] at hhead
  simp at hhead

/-- Dropping zeros leaves no more digits. -/
theorem length_dropTrailingZeros_le (digits : List Nat) :
    (dropTrailingZeros digits).length ≤ digits.length := by
  obtain ⟨count, hdigits⟩ := eq_dropTrailingZeros_append digits
  have hlength := congrArg List.length hdigits
  rw [List.length_append] at hlength
  omega

/-- Dropping zeros at the end keeps the value. -/
theorem toRat_dropTrailingZeros (digits : List Nat) (point : Int) :
    toRat ⟨dropTrailingZeros digits, point⟩ = toRat ⟨digits, point⟩ := by
  obtain ⟨count, hdigits⟩ := eq_dropTrailingZeros_append digits
  conv_rhs => rw [hdigits]
  rw [toRat_append_zeros]

/-- Dropping zeros leaves none but the digits. -/
theorem mem_of_mem_dropTrailingZeros {digits : List Nat} {digit : Nat}
    (hdigit : digit ∈ dropTrailingZeros digits) : digit ∈ digits := by
  obtain ⟨count, hdigits⟩ := eq_dropTrailingZeros_append digits
  rw [hdigits]
  exact List.mem_append_left _ hdigit

/-! ## The shortest expansion -/

/-- What is found on a grid reads back. -/
theorem roundMagnitude?_of_nearestOnGrid? {halfway : HalfwayRule} {magnitude : Magnitude}
    {unit : Rat} {multiple : Nat}
    (hfound : nearestOnGrid? halfway magnitude unit = some multiple) :
    Binary64.roundMagnitude? ((multiple : Rat) * unit) = some magnitude := by
  have hreads : readsBack magnitude unit multiple = true := by
    unfold nearestOnGrid? at hfound
    dsimp only at hfound
    split at hfound
    · cases hfound
    · rename_i hbelow _
      cases hfound
      exact hbelow
    · rename_i _ habove
      cases hfound
      exact habove
    · rename_i hbelow habove
      -- With both neighbours at hand, every branch chooses one of the two.
      have heither : multiple = (magnitude.toRat / unit).floor.toNat ∨
          multiple = (magnitude.toRat / unit).floor.toNat + 1 := by
        grind
      rcases heither with rfl | rfl
      · exact hbelow
      · exact habove
  exact of_decide_eq_true hreads

/-- The shortest expansion is one that was found on a grid, or else the exact one, when nothing was
found on any grid. -/
theorem shortest_cases (halfway : HalfwayRule) (magnitude : Magnitude) :
    (shortest halfway magnitude = ofMagnitude magnitude ∧ ∀ count < 17,
      nearestOnGrid? halfway magnitude
        (powerOfTen ((ofMagnitude magnitude).point - (count + 1 : Nat))) = none) ∨
      ∃ multiple exponent,
        nearestOnGrid? halfway magnitude (powerOfTen exponent) = some multiple ∧
        shortest halfway magnitude =
          ⟨dropTrailingZeros (ofScaled multiple exponent).digits,
            (ofScaled multiple exponent).point⟩ := by
  unfold shortest
  dsimp only
  cases hfound : (List.range 17).findSome? fun count ↦
      (nearestOnGrid? halfway magnitude
        (powerOfTen ((ofMagnitude magnitude).point - (count + 1 : Nat)))).map fun multiple ↦
          (⟨dropTrailingZeros
              (ofScaled multiple ((ofMagnitude magnitude).point - (count + 1 : Nat))).digits,
            (ofScaled multiple ((ofMagnitude magnitude).point - (count + 1 : Nat))).point⟩ :
              Decimal) with
  | none =>
      refine Or.inl ⟨rfl, fun count hcount ↦ ?_⟩
      exact Option.map_eq_none_iff.1
        (List.findSome?_eq_none_iff.1 hfound count (List.mem_range.2 hcount))
  | some decimal =>
      obtain ⟨count, -, hcount⟩ := List.exists_of_findSome?_eq_some hfound
      obtain ⟨multiple, hmultiple, rfl⟩ := Option.map_eq_some_iff.1 hcount
      exact Or.inr ⟨multiple, _, hmultiple, rfl⟩

/-- The shortest expansion reads back. -/
theorem roundMagnitude?_shortest (halfway : HalfwayRule) (magnitude : Magnitude) :
    Binary64.roundMagnitude? (shortest halfway magnitude).toRat = some magnitude := by
  obtain ⟨hexact, -⟩ | ⟨multiple, exponent, hfound, hshortest⟩ := shortest_cases halfway magnitude
  · rw [hexact, toRat_ofMagnitude, Binary64.roundMagnitude?_toRat]
  · rw [hshortest, toRat_dropTrailingZeros]
    exact (congrArg _ (toRat_ofScaled multiple exponent)).trans
      (roundMagnitude?_of_nearestOnGrid? hfound)

/-- The digits of a scaled number are below ten. -/
theorem lt_of_mem_digits_ofScaled {value digit : Nat} {exponent : Int}
    (hdigit : digit ∈ (ofScaled value exponent).digits) : digit < 10 :=
  Digits.lt_of_mem_ofNat (by decide) hdigit

/-- The digits of a magnitude are below ten. -/
theorem lt_of_mem_digits_ofMagnitude {magnitude : Magnitude} {digit : Nat}
    (hdigit : digit ∈ (ofMagnitude magnitude).digits) : digit < 10 := by
  unfold ofMagnitude at hdigit
  split at hdigit
  · rw [List.mem_singleton.1 hdigit]
    decide
  · split at hdigit
    · exact lt_of_mem_digits_ofScaled hdigit
    · exact lt_of_mem_digits_ofScaled hdigit

/-- The digits of the shortest expansion are decimal digits. -/
theorem lt_of_mem_digits_shortest {halfway : HalfwayRule} {magnitude : Magnitude} {digit : Nat}
    (hdigit : digit ∈ (shortest halfway magnitude).digits) : digit < 10 := by
  obtain ⟨hexact, -⟩ | ⟨multiple, exponent, -, hshortest⟩ := shortest_cases halfway magnitude
  · rw [hexact] at hdigit
    exact lt_of_mem_digits_ofMagnitude hdigit
  · rw [hshortest] at hdigit
    exact lt_of_mem_digits_ofScaled (mem_of_mem_dropTrailingZeros hdigit)

/-- An expansion that reads back as a magnitude other than zero has a digit. -/
theorem ne_nil_of_roundMagnitude? {decimal : Decimal} {magnitude : Magnitude}
    (hsignificand : magnitude.significand ≠ 0)
    (hround : Binary64.roundMagnitude? decimal.toRat = some magnitude) : decimal.digits ≠ [] := by
  intro hnil
  have hzero : decimal.toRat = 0 := by
    rw [toRat, hnil]
    exact (congrArg (· * _) Nat.cast_zero).trans (zero_mul _)
  exact (Binary64.pos_of_roundMagnitude? hzero.ge hsignificand hround).ne' hzero

/-- A magnitude other than zero has shortest digits. -/
theorem digits_shortest_ne_nil {halfway : HalfwayRule} {magnitude : Magnitude}
    (hsignificand : magnitude.significand ≠ 0) : (shortest halfway magnitude).digits ≠ [] :=
  ne_nil_of_roundMagnitude? hsignificand (roundMagnitude?_shortest halfway magnitude)

end Decimal

namespace Binary64

/-! ## Reading a decimal -/

/-- Reading a decimal is rounding its value. -/
theorem ofDecimal_eq (negative : Bool) (significand : Nat) (exponent : Int) :
    ofDecimal negative significand exponent =
      ofMagnitude negative ((significand : Rat) * powerOfTen exponent) := by
  unfold ofDecimal
  split
  · rename_i hzero
    rw [hzero, Nat.cast_zero, zero_mul]
    rfl
  · rename_i hzero
    have hone : (1 : Rat) ≤ significand := by
      exact_mod_cast Nat.one_le_iff_ne_zero.2 hzero
    -- Where the power is not formed, bounds on it show what rounding would give.
    split
    · rename_i hlarge
      have hbound : (2 : Rat) ^ (1024 : Int) ≤ (significand : Rat) * powerOfTen exponent := by
        calc (2 : Rat) ^ (1024 : Int) ≤ 2 ^ ((3 : Int) * 400) :=
              zpow_le_zpow_right₀ (by norm_num) (by norm_num)
          _ = (2 ^ (3 : Int)) ^ (400 : Int) := zpow_mul _ _ _
          _ ≤ 10 ^ (400 : Int) := zpow_le_zpow_left₀ (by norm_num) (by norm_num) (by norm_num)
          _ ≤ 10 ^ exponent := zpow_le_zpow_right₀ (by norm_num) hlarge.le
          _ = powerOfTen exponent := (powerOfTen_eq exponent).symm
          _ ≤ (significand : Rat) * powerOfTen exponent :=
            le_mul_of_one_le_left (powerOfTen_pos exponent).le hone
      unfold ofMagnitude
      rw [roundMagnitude?_of_large hbound]
    · split
      · rename_i hsmall
        have hbits : (significand : Rat) < 2 ^ ((significand.log2 : Int) + 1) := by
          exact_mod_cast @Nat.lt_log2_self significand
        have hbound : (significand : Rat) * powerOfTen exponent < 2 ^ (-1075 : Int) := by
          calc (significand : Rat) * powerOfTen exponent
              ≤ (significand : Rat) * powerOfTwo exponent :=
                mul_le_mul_of_nonneg_left (powerOfTen_le_powerOfTwo (by omega)) (Nat.cast_nonneg _)
            _ < 2 ^ ((significand.log2 : Int) + 1) * powerOfTwo exponent :=
                mul_lt_mul_of_pos_right hbits (powerOfTwo_pos exponent)
            _ = 2 ^ ((significand.log2 : Int) + 1 + exponent) := by
                rw [powerOfTwo_eq, zpow_add₀ (by decide) (_ + 1)]
            _ ≤ 2 ^ (-1075 : Int) := zpow_le_zpow_right₀ (by norm_num) (by omega)
        have hnonneg : 0 ≤ (significand : Rat) * powerOfTen exponent :=
          mul_nonneg (Nat.cast_nonneg _) (powerOfTen_pos exponent).le
        unfold ofMagnitude
        rw [roundMagnitude?_of_small hnonneg hbound]
        rfl
      · rfl

end Binary64

end Numbering
