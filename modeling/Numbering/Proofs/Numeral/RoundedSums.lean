import Numbering.Proofs.Binary64.Scaling
import Numbering.Proofs.Numeral.DigitReading

/-!
# Sums of digits beyond `2 ^ 53`

Adding up digits rounds at every digit. In a base that is a power of two only the digit with which
the number gets more than 53 bits makes a difference: what follows is below half a unit of the last
place and counts as zeros (`Numeral.accumulate_append`). So the sum is the number nearest to what
the digits denote, unless the digits up to this one are halfway between two numbers, the lower of
which is even, and the others would have decided (`Numeral.accumulate_eq_ofNat_iff`). In base ten
every number below `2 ^ 54 + 9` is added up to the nearest one (`Numeral.accumulate_decimal`).
-/

namespace Numbering

open Digits

namespace Numeral

/-- One more digit is one more product and one more sum. -/
theorem accumulate_append_singleton {base : Nat} {digits : List Nat} (hne : digits ≠ [])
    (digit : Nat) :
    accumulate base (digits ++ [digit]) =
      ((accumulate base digits).mul (.ofNat base)).add (.ofNat digit) := by
  unfold accumulate
  rw [if_neg (by simp), if_neg (by simpa using hne), List.foldl_append]
  rfl

/-- The digits with which a number reaches a bound: those in front of the first digit with which it
does, this digit, and those behind it. -/
theorem exists_reaching {base bound : Nat} {digits : List Nat} (hpos : 0 < bound)
    (hvalue : bound ≤ toNat base digits) :
    ∃ front digit back, digits = front ++ digit :: back ∧ toNat base front < bound ∧
      bound ≤ toNat base (front ++ [digit]) := by
  induction digits using List.reverseRecOn with
  | nil => exact absurd hvalue hpos.not_ge
  | append_singleton digits last ih =>
      by_cases hbefore : bound ≤ toNat base digits
      · obtain ⟨front, digit, back, rfl, hfront, hreached⟩ := ih hbefore
        exact ⟨front, digit, back ++ [last], by simp, hfront, hreached⟩
      · exact ⟨digits, last, [], rfl, Nat.lt_of_not_le hbefore, hvalue⟩

/-! ## Bases that are powers of two -/

/-- The number is halfway between two neighbouring numbers of 53 bits with a number of zeros behind
them, and the lower one is even. -/
def IsEvenTie (number : Nat) : Prop :=
  ∃ units bits, 2 ^ 52 ≤ units ∧ units < 2 ^ 53 ∧ units % 2 = 0 ∧
    number = units * 2 ^ (bits + 1) + 2 ^ bits

/-- The digits up to the one with which the number has more than 53 bits are a tie that is rounded
down, and there are other digits than zeros behind them. -/
def DropsTie (base : Nat) (digits : List Nat) : Prop :=
  ∃ front digit back, digits = front ++ digit :: back ∧ toNat base front < 2 ^ 53 ∧
    IsEvenTie (toNat base (front ++ [digit])) ∧ toNat base back ≠ 0

section PowerOfTwo

variable {places : Nat} (hplaces : places ≤ 53)

include hplaces

/-- A digit is a number of the format. -/
theorem isRepresentable_digit {digit : Nat} (hdigit : digit < 2 ^ places) : IsRepresentable digit :=
  isRepresentable_of_le (hdigit.le.trans (Nat.pow_le_pow_right (by decide) hplaces))

/-- The digit with which a number gets more than 53 bits is the first one that is rounded. -/
theorem accumulate_reaching {front : List Nat} {digit : Nat} (hdigit : digit < 2 ^ places)
    (hfront : toNat (2 ^ places) front < 2 ^ 53) :
    accumulate (2 ^ places) (front ++ [digit]) =
      .ofNat (toNat (2 ^ places) (front ++ [digit])) := by
  have hpos : 0 < 2 ^ places := Nat.pow_pos (by decide)
  have hbase : 2 ^ places ≤ 2 ^ 53 := Nat.pow_le_pow_right (by decide) hplaces
  by_cases hne : front = []
  · subst hne
    refine accumulate_of_le (by simp) hpos hbase ?_
    rw [List.nil_append, toNat_singleton]
    exact hdigit.le.trans hbase
  · have hproduct : IsRepresentable (toNat (2 ^ places) front * 2 ^ places : Nat) := by
      refine isRepresentable_natCast_iff.2 ⟨?_, _, places, hfront, rfl⟩
      calc toNat (2 ^ places) front * 2 ^ places < 2 ^ 53 * 2 ^ places :=
            Nat.mul_lt_mul_of_pos_right hfront hpos
        _ = 2 ^ (53 + places) := (Nat.pow_add _ _ _).symm
        _ ≤ 2 ^ 1024 := by
            apply Nat.pow_le_pow_right (by decide)
            omega
    rw [accumulate_append_singleton hne, accumulate_of_le hne hpos hbase hfront.le,
      Binary64.ofNat_mul_two_pow _ hplaces,
      Binary64.ofNat_add_ofNat hproduct (isRepresentable_digit hplaces hdigit),
      toNat_append_singleton]

/-- Digits behind a number with more than 53 bits count as zeros. -/
theorem accumulate_append {front back : List Nat} (hfront : 2 ^ 53 ≤ toNat (2 ^ places) front)
    (hexact : accumulate (2 ^ places) front = .ofNat (toNat (2 ^ places) front))
    (hback : ∀ digit ∈ back, digit < 2 ^ places) :
    accumulate (2 ^ places) (front ++ back) =
      .ofNat (toNat (2 ^ places) front * 2 ^ (places * back.length)) := by
  have hne : front ≠ [] := by
    rintro rfl
    exact absurd hfront (by show ¬2 ^ 53 ≤ 0; decide)
  induction back using List.reverseRecOn with
  | nil => simpa using hexact
  | append_singleton back last ih =>
      have hlast : last < 2 ^ places := hback last (by simp)
      have hbefore := ih fun digit hdigit ↦ hback digit (by simp [hdigit])
      -- The product is far above the digit, whatever has been rounded before.
      have hproduct : 2 ^ 53 * 2 ^ places ≤
          toNat (2 ^ places) front * 2 ^ (places * back.length) * 2 ^ places := by
        refine Nat.mul_le_mul_right _ (hfront.trans ?_)
        exact Nat.le_mul_of_pos_right _ (Nat.pow_pos (by decide))
      rw [← List.append_assoc, accumulate_append_singleton (by simp [hne]), hbefore,
        Binary64.ofNat_mul_two_pow _ hplaces,
        Binary64.ofNat_add_of_small hproduct hlast (isRepresentable_digit hplaces hlast),
        Nat.mul_assoc, ← Nat.pow_add, List.length_append, List.length_singleton, Nat.mul_succ]

/-- Once a number has more than 53 bits, its sum is the nearest number to it unless a tie decides
against the digits that follow. -/
theorem accumulate_eq_ofNat_iff_of_units {front back : List Nat} {digit units bits tail : Nat}
    (hdigits : ∀ other ∈ front ++ digit :: back, other < 2 ^ places)
    (hfront : toNat (2 ^ places) front < 2 ^ 53) (hlow : 2 ^ 52 ≤ units) (hhigh : units < 2 ^ 53)
    (htail : tail < 2 ^ (bits + 1))
    (hvalue : toNat (2 ^ places) (front ++ [digit]) = units * 2 ^ (bits + 1) + tail) :
    accumulate (2 ^ places) (front ++ digit :: back) =
        .ofNat (toNat (2 ^ places) (front ++ digit :: back)) ↔
      (toNat (2 ^ places) (front ++ digit :: back) < 2 ^ 1024 →
        ¬(tail = 2 ^ bits ∧ units % 2 = 0 ∧ toNat (2 ^ places) back ≠ 0)) := by
  have hsplit : front ++ digit :: back = (front ++ [digit]) ++ back := by simp
  have hback : ∀ other ∈ back, other < 2 ^ places :=
    fun other hother ↦ hdigits other (by simp [hother])
  have hrest : toNat (2 ^ places) back < 2 ^ (places * back.length) := by
    rw [Nat.pow_mul]
    exact toNat_lt hback
  have hreached : 2 ^ 53 ≤ toNat (2 ^ places) (front ++ [digit]) := by
    have hdouble : units * 2 ≤ units * 2 ^ (bits + 1) := by
      rw [Nat.pow_succ', ← Nat.mul_assoc]
      exact Nat.le_mul_of_pos_right _ (Nat.pow_pos (by decide))
    omega
  rw [hsplit, accumulate_append hplaces hreached
    (accumulate_reaching hplaces (hdigits digit (by simp)) hfront) hback,
    toNat_append _ _ back, ← Nat.pow_mul, hvalue]
  exact Binary64.ofNat_mul_eq_iff hlow hhigh htail hrest

/-- The digits in a base that is a power of two add up to the number nearest to what they denote,
unless they drop what decides a tie. The infinity is the nearest number in any case. -/
theorem accumulate_eq_ofNat_iff {digits : List Nat} (hne : digits ≠ [])
    (hdigits : ∀ digit ∈ digits, digit < 2 ^ places) :
    accumulate (2 ^ places) digits = .ofNat (toNat (2 ^ places) digits) ↔
      (toNat (2 ^ places) digits < 2 ^ 1024 → ¬DropsTie (2 ^ places) digits) := by
  constructor
  · intro hsum hrange htie
    obtain ⟨front, digit, back, rfl, hfront, htie, hrest⟩ := htie
    obtain ⟨units, bits, hlow, hhigh, heven, hvalue⟩ := htie
    have htail : 2 ^ bits < 2 ^ (bits + 1) := Nat.pow_lt_pow_right (by decide) (by omega)
    have hiff := accumulate_eq_ofNat_iff_of_units hplaces hdigits hfront hlow hhigh htail hvalue
    exact hiff.1 hsum hrange ⟨rfl, heven, hrest⟩
  · intro htie
    have hpos : 0 < 2 ^ places := Nat.pow_pos (by decide)
    have hbase : 2 ^ places ≤ 2 ^ 53 := Nat.pow_le_pow_right (by decide) hplaces
    by_cases hvalue : 2 ^ 53 ≤ toNat (2 ^ places) digits
    · obtain ⟨front, digit, back, rfl, hfront, hreached⟩ := exists_reaching (by decide) hvalue
      obtain ⟨units, bits, tail, hlow, hhigh, htail, hunits⟩ := Binary64.exists_units_eq hreached
      refine (accumulate_eq_ofNat_iff_of_units hplaces hdigits hfront hlow hhigh htail hunits).2 ?_
      rintro hrange ⟨rfl, heven, hrest⟩
      exact htie hrange
        ⟨front, digit, back, rfl, hfront, ⟨units, bits, hlow, hhigh, heven, hunits⟩, hrest⟩
    · exact accumulate_of_le hne hpos hbase (Nat.le_of_not_le hvalue)

end PowerOfTwo

/-! ## Base ten -/

/-- One more decimal digit is added without an error as long as the number stays below
`2 ^ 54 + 9`. -/
theorem mul_ten_add {number last : Nat} (hlast : last < 10)
    (hsum : number * 10 + last < 2 ^ 54 + 9) :
    ((Binary64.ofNat number).mul (.ofNat 10)).add (.ofNat last) = .ofNat (number * 10 + last) := by
  by_cases hproduct : ∃ significand bits, significand < 2 ^ 53 ∧ bits < 3 ∧
      number * 10 = significand * 2 ^ bits
  · obtain ⟨significand, bits, hbits, hsmall, hvalue⟩ := hproduct
    have hexact : IsRepresentable (number * 10 : Nat) := by
      refine isRepresentable_natCast_iff.2 ⟨?_, significand, bits, hbits, hvalue⟩
      calc number * 10 < 2 ^ 55 := by omega
        _ ≤ 2 ^ 1024 := by
            apply Nat.pow_le_pow_right (by decide)
            omega
    rw [Binary64.ofNat_mul_ofNat (isRepresentable_of_le (by omega))
        (isRepresentable_of_le (by decide)),
      Binary64.ofNat_add_ofNat hexact (isRepresentable_of_le (by omega))]
  · -- An odd number times ten is a tie above `2 ^ 54`; there is one such number.
    have hone : number = 1801439850948199 := by
      have hlarge : 2 ^ 53 ≤ number * 5 := Nat.le_of_not_lt fun hsmall ↦
        hproduct ⟨number * 5, 1, hsmall, by decide, by omega⟩
      have hodd : number % 2 ≠ 0 := fun heven ↦
        hproduct ⟨number / 2 * 5, 2, by omega, by decide, by omega⟩
      omega
    subst hone
    have hcases : last = 0 ∨ last = 1 ∨ last = 2 := by omega
    rcases hcases with rfl | rfl | rfl
    · decide +kernel
    · decide +kernel
    · decide +kernel

/-- Decimal digits of a number up to `2 ^ 54 + 8` add up to the number nearest to it. -/
theorem accumulate_decimal {digits : List Nat} (hne : digits ≠ [])
    (hdigits : ∀ digit ∈ digits, digit < 10) (hvalue : toNat 10 digits < 2 ^ 54 + 9) :
    accumulate 10 digits = .ofNat (toNat 10 digits) := by
  cases digits using List.reverseRecOn with
  | nil => exact absurd rfl hne
  | append_singleton front last =>
      by_cases hfront : front = []
      · subst hfront
        have hlast := hdigits last (by simp)
        refine accumulate_of_le (by simp) (by decide) (by decide) ?_
        rw [List.nil_append, toNat_singleton]
        omega
      · rw [toNat_append_singleton] at hvalue ⊢
        have hbefore : accumulate 10 front = .ofNat (toNat 10 front) :=
          accumulate_of_le hfront (by decide) (by decide) (by omega)
        rw [accumulate_append_singleton hfront, hbefore]
        exact mul_ten_add (hdigits last (by simp)) hvalue

end Numeral

end Numbering
