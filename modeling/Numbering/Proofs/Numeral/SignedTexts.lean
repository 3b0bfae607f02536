import Numbering.Proofs.Numeral.Significant

/-!
# The sign of a number text

Five of the texts of a number consist of its sign and of the text of the number without its sign,
which has no sign in front (`Numeral.IsSignedText`): what is rounded, how many digits there are and
which notation is chosen do not depend on the sign. The sign is that of the number, also where the
text shows nothing but zeros, and neither zero has one.
-/

namespace Numbering

open Literal

namespace Numeral

/-- The text does not start with a sign. -/
def IsUnsigned (text : List Char) : Prop := text.head? ≠ some '+' ∧ text.head? ≠ some '-'

/-- A way to write numbers that puts the sign of a number in front of the text of the number without
its sign. -/
structure IsSignedText (write : Binary64 → List Char) : Prop where
  split : ∀ number : Binary64, write number = sign number ++ write number.abs
  unsigned : ∀ number : Binary64, IsUnsigned (write number.abs)

/-- A literal starts with a digit or a point. -/
theorem isUnsigned_of_denotes {text : List Char} {value : Rat} (htext : Denotes text value) :
    IsUnsigned text := by
  obtain ⟨significand, exponent, hspelling, -⟩ := htext
  obtain ⟨first, rest, rfl, hfirst⟩ := hspelling.eq_cons
  have hsign : ∀ mark : Char, ¬(Digits.IsDigit mark ∨ mark = '.') →
      (first :: rest).head? ≠ some mark := by
    intro mark hmark hhead
    obtain rfl : first = mark := Option.some.inj hhead
    exact hmark hfirst
  exact ⟨hsign '+' (by decide), hsign '-' (by decide)⟩

/-- It is enough that a finite number is written as a literal behind its sign. -/
theorem IsSignedText.of_finite {write : Binary64 → List Char}
    (hnan : write .nan = "NaN".toList)
    (hinfinity : ∀ negative, write (.infinity negative) = (special? (.infinity negative)).getD [])
    (hfinite : ∀ magnitude, ∃ text value, Denotes text value ∧ ∀ negative,
      write (.finite negative magnitude) = sign (.finite negative magnitude) ++ text) :
    IsSignedText write where
  split number := by
    cases number with
    | nan => rfl
    | infinity negative =>
        rw [Binary64.abs, hinfinity, hinfinity]
        cases negative with
        | true => rfl
        | false => rfl
    | finite negative magnitude =>
        obtain ⟨text, -, -, htext⟩ := hfinite magnitude
        rw [Binary64.abs, htext, htext]
        rfl
  unsigned number := by
    cases number with
    | nan =>
        rw [Binary64.abs, hnan]
        exact ⟨by decide, by decide⟩
    | infinity negative =>
        rw [Binary64.abs, hinfinity]
        exact ⟨by decide, by decide⟩
    | finite negative magnitude =>
        obtain ⟨text, value, hdenotes, htext⟩ := hfinite magnitude
        rw [Binary64.abs, htext]
        exact isUnsigned_of_denotes hdenotes

/-! ## The five texts -/

/-- The plain text of a finite number is its sign and a text that does not depend on the sign. -/
theorem exists_denotes_plain (magnitude : Magnitude) :
    ∃ text value, Denotes text value ∧ ∀ negative,
      plain (.finite negative magnitude) = sign (.finite negative magnitude) ++ text := by
  by_cases hsignificand : magnitude.significand = 0
  · refine ⟨_, _, denotes_zero.1, fun negative ↦ ?_⟩
    rw [sign_zero hsignificand]
    exact if_pos hsignificand
  · have hne : (shortestDigits magnitude).digits ≠ [] := Decimal.digits_shortest_ne_nil hsignificand
    have hdenotes := denotes_layout hne fun _ ↦ Decimal.lt_of_mem_digits_shortest
    exact ⟨_, _, hdenotes, fun negative ↦ if_neg hsignificand⟩

/-- Plain texts are signed. -/
theorem isSignedText_plain : IsSignedText plain :=
  .of_finite rfl (fun _ ↦ rfl) exists_denotes_plain

/-- Shortest exponential texts are signed. -/
theorem isSignedText_shortestExponential : IsSignedText shortestExponential := by
  refine .of_finite rfl (fun _ ↦ rfl) fun magnitude ↦ ?_
  by_cases hsignificand : magnitude.significand = 0
  · refine ⟨_, _, denotes_zero.2, fun negative ↦ ?_⟩
    rw [sign_zero hsignificand]
    exact if_pos hsignificand
  · have hne : (shortestDigits magnitude).digits ≠ [] := Decimal.digits_shortest_ne_nil hsignificand
    have hdenotes := denotes_scientific hne (fun _ ↦ Decimal.lt_of_mem_digits_shortest)
      (shortestDigits magnitude).point
    exact ⟨_, _, hdenotes, fun negative ↦ if_neg hsignificand⟩

/-- Exponential texts are signed, with any number of places. -/
theorem isSignedText_exponential (places : Nat) : IsSignedText (exponential · places) :=
  .of_finite rfl (fun _ ↦ rfl) fun magnitude ↦
    ⟨_, _, denotes_pointText_append _ _ (exponentPart_eq _ ▸ exponentSpelling_exponentPart _),
      (exponential_eq_pointText · magnitude places)⟩

/-- From `10 ^ 21` on a number is written as its plain text. -/
theorem isSignedText_fixed (places : Nat) : IsSignedText (fixed · places) := by
  refine .of_finite rfl (fun _ ↦ rfl) fun magnitude ↦ ?_
  cases hless : (Binary64.finite false magnitude).less fixedLimit with
  | true =>
      obtain ⟨-, hdigits, hfirst⟩ := Decimal.roundHalfUp_places magnitude (min places 100)
      have htext := insertPoint_chars hdigits hfirst
      exact ⟨_, _, htext ▸ denotes_pointText _ _, fun negative ↦ if_pos hless⟩
  | false =>
      obtain ⟨text, value, hdenotes, htext⟩ := exists_denotes_plain magnitude
      refine ⟨text, value, hdenotes, fun negative ↦ ?_⟩
      rw [← htext]
      exact if_neg (hless ▸ Bool.false_ne_true)

/-- Texts of significant digits are signed, with any number of digits. -/
theorem isSignedText_precise (count : Nat) : IsSignedText (precise · count) := by
  obtain ⟨places, hcount⟩ : ∃ places, max 1 (min count 100) = places + 1 :=
    ⟨max 1 (min count 100) - 1, by omega⟩
  exact .of_finite rfl (fun _ ↦ rfl) fun magnitude ↦ ⟨_, _, denotes_significantText _ _ _,
    fun negative ↦
      precise_eq_significantText negative hcount (significantDigits_first magnitude places)⟩

end Numeral

end Numbering
