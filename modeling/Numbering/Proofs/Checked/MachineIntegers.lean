import Mathlib.Algebra.Order.Ring.Int
import Numbering.Proofs.Text.ByteOffsets
import Numbering.Proofs.Text.Digits

/-!
# Steps on machine integers

Lengths and offsets are machine integers without a sign, exponents are shorter ones with a sign, and
digits are bytes. `index?`, `signed?` and `byte?` are the values that such integers can have: a
result out of range is none. In the same way `Text.splitAt?` cuts a text only inside its bounds and
between two characters. A computation that is made of these steps is checked: it gives a result
precisely when every step has one. Main fact: a text in characters of one byte can be cut everywhere
(`Checked.splitAt?_of_ascii`).
-/

namespace Numbering.Checked

open Digits Text

/-- A signed integer of 32 bits. -/
def signed? (number : Int) : Option Int :=
  if -2 ^ 31 ≤ number ∧ number < 2 ^ 31 then some number else none

/-- A length or an offset: an unsigned integer of 64 bits. -/
def index? (number : Int) : Option Nat :=
  if 0 ≤ number ∧ number < 2 ^ 64 then some number.toNat else none

/-- An unsigned integer of 8 bits. -/
def byte? (number : Nat) : Option Nat := if number < 2 ^ 8 then some number else none

/-- A number in the range of a signed integer is stored. -/
theorem signed?_eq {number : Int} (hlow : -2 ^ 31 ≤ number) (hhigh : number < 2 ^ 31) :
    signed? number = some number := if_pos ⟨hlow, hhigh⟩

/-- A number in the range of an index is stored. -/
theorem index?_eq_toNat {number : Int} (hlow : 0 ≤ number) (hhigh : number < 2 ^ 64) :
    index? number = some number.toNat := if_pos ⟨hlow, hhigh⟩

/-- A natural number in the range of an index is stored. -/
theorem index?_natCast {number : Nat} (hhigh : number < 2 ^ 64) : index? number = some number :=
  index?_eq_toNat (Int.natCast_nonneg number) (by exact_mod_cast hhigh)

/-- A number in the range of a byte is stored. -/
theorem byte?_eq {number : Nat} (hhigh : number < 2 ^ 8) : byte? number = some number :=
  if_pos hhigh

/-! ## Texts in characters of one byte -/

section Ascii

variable {chars : List Char} (hascii : ∀ char ∈ chars, char.utf8Size = 1)

include hascii

/-- Where every character is one byte, a text has as many bytes as characters. -/
theorem byteLength_of_ascii : byteLength chars = chars.length := by
  induction chars with
  | nil => rfl
  | cons char chars ih =>
      rw [byteLength, hascii char List.mem_cons_self,
        ih fun other hother ↦ hascii other (List.mem_cons_of_mem _ hother), List.length_cons,
        Nat.add_comm]

/-- Every offset up to the end lies between two characters of one byte. -/
theorem splitAt?_of_ascii {offset : Nat} (hoffset : offset ≤ chars.length) :
    splitAt? offset chars = some (chars.take offset, chars.drop offset) := by
  have hfront : byteLength (chars.take offset) = offset := by
    rw [byteLength_of_ascii fun char hchar ↦ hascii char (List.mem_of_mem_take hchar),
      List.length_take_of_le hoffset]
  calc splitAt? offset chars
      = splitAt? (byteLength (chars.take offset)) (chars.take offset ++ chars.drop offset) := by
        rw [hfront, List.take_append_drop]
    _ = some (chars.take offset, chars.drop offset) := splitAt?_append _ _

end Ascii

/-- A digit is one byte. -/
theorem utf8Size_character (digit : Nat) : (character digit).utf8Size = 1 := by
  by_cases hdigit : digit < 36
  · have hall : ∀ other : Fin 36, (character other).utf8Size = 1 := by decide
    exact hall ⟨digit, hdigit⟩
  · have hzero : character digit = '0' := by
      rw [character, if_neg (by omega), if_neg hdigit]
    rw [hzero]
    rfl

/-- The characters of digits are one byte each. -/
theorem utf8Size_of_mem_chars {digits : List Nat} :
    ∀ char ∈ chars digits, char.utf8Size = 1 := by
  intro char hchar
  obtain ⟨digit, -, rfl⟩ := List.mem_map.1 hchar
  exact utf8Size_character digit

/-! ## Front and back of a text -/

/-- The bytes of a text are at least as many as its characters. -/
theorem length_le_byteLength (chars : List Char) : chars.length ≤ byteLength chars := by
  induction chars with
  | nil => exact Nat.le_refl 0
  | cons char chars ih =>
      have hpos := Char.utf8Size_pos char
      rw [byteLength, List.length_cons]
      omega

/-- The part of a text in front of an offset. -/
def before? (offset : Nat) (chars : List Char) : Option (List Char) :=
  (splitAt? offset chars).map Prod.fst

/-- The part of a text behind an offset. -/
def behind? (offset : Nat) (chars : List Char) : Option (List Char) :=
  (splitAt? offset chars).map Prod.snd

/-- A text is cut behind any front of it. -/
theorem before?_append (front back : List Char) :
    before? (byteLength front) (front ++ back) = some front := by
  rw [before?, splitAt?_append]
  rfl

/-- Behind any front of a text is the rest of it. -/
theorem behind?_append (front back : List Char) :
    behind? (byteLength front) (front ++ back) = some back := by
  rw [behind?, splitAt?_append]
  rfl

end Numbering.Checked
