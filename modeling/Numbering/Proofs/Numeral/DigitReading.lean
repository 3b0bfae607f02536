import Numbering.Numeral.Reading
import Numbering.Proofs.Binary64.Representable
import Numbering.Proofs.Text.Digits

/-!
# Reading digits

The readers find the digits of a text by their characters, a run of them at the front
(`Numeral.leadingDigits_append`) or the text as a whole (`Numeral.allDigits?_eq_some`), and add them
up in binary64 arithmetic. No step of this is rounded as long as every front of the digits is
representable (`Numeral.accumulate_eq_ofNat`).
-/

namespace Numbering

namespace Digits

/-- The codes of the characters that may stand for a digit. -/
theorem toNat_of_value? {base digit : Nat} {char : Char} (hvalue : value? base char = some digit) :
    48 ≤ char.toNat ∧ char.toNat ≤ 57 ∨ 97 ≤ char.toNat ∧ char.toNat ≤ 122 ∨
      65 ≤ char.toNat ∧ char.toNat ≤ 90 := by
  unfold value? at hvalue
  dsimp only at hvalue
  split at hvalue
  · exact .inl ‹_›
  · split at hvalue
    · exact .inr (.inl ‹_›)
    · split at hvalue
      · exact .inr (.inr ‹_›)
      · cases hvalue

/-- The value of a digit is below the base. -/
theorem lt_of_value? {base digit : Nat} {char : Char} (hvalue : value? base char = some digit) :
    digit < base := by
  unfold value? at hvalue
  exact of_decide_eq_true (Option.filter_eq_some_iff.1 hvalue).2

end Digits

open Digits

namespace Numeral

/-! ## Characters -/

/-- The characters stand for digits of a base, one for each. -/
def IsDigitText (base : Nat) (text : List Char) (digits : List Nat) : Prop :=
  List.Forall₂ (fun char digit ↦ value? base char = some digit) text digits

section Characters

variable {base : Nat} {text : List Char} {digits : List Nat}

/-- Digits may be spelled in any way that is read back. -/
theorem isDigitText_map {spell : Nat → Char}
    (hspell : ∀ digit ∈ digits, value? base (spell digit) = some digit) :
    IsDigitText base (digits.map spell) digits :=
  List.forall₂_map_left_iff.2 (List.forall₂_same.2 hspell)

variable (htext : IsDigitText base text digits)

include htext

/-- Every character of a text of digits has a value. -/
theorem IsDigitText.exists_value? :
    ∀ char ∈ text, ∃ digit, value? base char = some digit := by
  induction htext with
  | nil => simp
  | cons hvalue _ ih => exact List.forall_mem_cons.2 ⟨⟨_, hvalue⟩, ih⟩

/-- The values of a text of digits are below the base. -/
theorem IsDigitText.lt : ∀ digit ∈ digits, digit < base := by
  induction htext with
  | nil => simp
  | cons hvalue _ ih => exact List.forall_mem_cons.2 ⟨lt_of_value? hvalue, ih⟩

/-- A text of digits only is read as these digits. -/
theorem allDigits?_eq_some : allDigits? base text = some digits := by
  induction htext with
  | nil => rfl
  | cons hvalue _ ih => rw [allDigits?, hvalue, ih]

/-- The digits at the front of a text end where no digit follows. -/
theorem leadingDigits_append {rest : List Char}
    (hstop : ∀ char ∈ rest.head?, value? base char = none) :
    leadingDigits base (text ++ rest) = digits := by
  induction htext with
  | nil =>
      cases rest with
      | nil => rfl
      | cons char rest => rw [List.nil_append, leadingDigits, hstop char (by simp)]
  | cons hvalue _ ih =>
      rw [List.cons_append, leadingDigits, hvalue]
      exact congrArg _ ih

end Characters

/-! ## Sums -/

/-- Adding up digits does not round when no front of them and no product on the way does. -/
theorem accumulate_eq_ofNat {base : Nat} {digits : List Nat} (hne : digits ≠ [])
    (hbase : IsRepresentable base)
    (hfront : ∀ (front : List Nat) (digit : Nat) (back : List Nat),
      digits = front ++ digit :: back → IsRepresentable digit ∧
        IsRepresentable (toNat base front) ∧ IsRepresentable (toNat base front * base : Nat)) :
    accumulate base digits = .ofNat (toNat base digits) := by
  unfold accumulate
  rw [if_neg (by simpa using hne)]
  clear hne
  induction digits using List.reverseRecOn with
  | nil => rfl
  | append_singleton digits last ih =>
      have hbefore := ih fun front digit back hsplit ↦
        hfront front digit (back ++ [last]) (by rw [hsplit]; simp)
      obtain ⟨hlast, hvalue, hproduct⟩ := hfront digits last [] rfl
      rw [List.foldl_append, hbefore, List.foldl_cons, List.foldl_nil,
        Binary64.ofNat_mul_ofNat hvalue hbase, Binary64.ofNat_add_ofNat hproduct hlast,
        toNat_append_singleton]

/-- Digits of a number up to `2 ^ 53` are added up exactly, in any base. -/
theorem accumulate_of_le {base : Nat} {digits : List Nat} (hne : digits ≠ []) (hpos : 0 < base)
    (hbase : base ≤ 2 ^ 53) (hvalue : toNat base digits ≤ 2 ^ 53) :
    accumulate base digits = .ofNat (toNat base digits) := by
  refine accumulate_eq_ofNat hne (isRepresentable_of_le hbase) ?_
  rintro front digit back rfl
  rw [toNat_append, toNat_cons, List.length_cons, Nat.pow_succ'] at hvalue
  have hone : 1 ≤ base ^ back.length := Nat.one_le_pow _ _ hpos
  have hdigit : digit ≤ digit * base ^ back.length := Nat.le_mul_of_pos_right _ hone
  have hproduct : toNat base front * base ≤ toNat base front * (base * base ^ back.length) :=
    Nat.mul_le_mul_left _ (Nat.le_mul_of_pos_right _ hone)
  have hfront : toNat base front ≤ toNat base front * base := Nat.le_mul_of_pos_right _ hpos
  exact ⟨isRepresentable_of_le (by omega), isRepresentable_of_le (by omega),
    isRepresentable_of_le (by omega)⟩

/-- The digits of a representable number are added up exactly when the base is a power of two. -/
theorem accumulate_ofNat {places number : Nat} (hplaces : 1 ≤ places) (hsmall : places ≤ 53)
    (hnumber : IsRepresentable number) :
    accumulate (2 ^ places) (Digits.ofNat (2 ^ places) number) = .ofNat number := by
  have hbase : 2 ≤ 2 ^ places := Nat.le_self_pow (by omega) 2
  have hrepresentable : IsRepresentable (2 ^ places : Nat) :=
    isRepresentable_of_le (Nat.pow_le_pow_right (by decide) hsmall)
  conv_rhs => rw [← toNat_ofNat (2 ^ places) number]
  refine accumulate_eq_ofNat (ofNat_ne_nil _ _) hrepresentable fun front digit back hsplit ↦ ?_
  have hdigits : ∀ other ∈ digit :: back, other < 2 ^ places := fun other hother ↦
    lt_of_mem_ofNat hbase (hsplit ▸ List.mem_append_right front hother)
  -- Every front is what division leaves of the number, and the product clears the bits again.
  have hfront : toNat (2 ^ places) front = number / 2 ^ (places * back.length) / 2 ^ places := by
    rw [toNat_front hdigits (by omega), ← hsplit, toNat_ofNat, List.length_cons, Nat.pow_succ,
      Nat.div_div_eq_div_mul, ← Nat.pow_mul]
  have hshifted := hnumber.shiftRight (places * back.length)
  rw [hfront]
  exact ⟨isRepresentable_of_le ((hdigits digit (by simp)).le.trans
      (Nat.pow_le_pow_right (by decide) hsmall)),
    hshifted.shiftRight places, hshifted.clearLow places⟩

end Numeral

end Numbering
