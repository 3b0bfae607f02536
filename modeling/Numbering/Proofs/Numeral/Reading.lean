import Numbering.Numeral.Reading
import Numbering.Proofs.Decimal.Literal
import Numbering.Proofs.Decimal.Value

/-!
# Reading decimal literals

A signed decimal literal is read alike by the reader that wants a whole number and by the one that
takes a literal at the front (`Numeral.readNumber_of_denotes`, `Numeral.readDecimal_of_denotes`):
it has no blanks to cut off, and no letter that could introduce another base.
-/

namespace Numbering

open Digits Text Literal

namespace Text

variable {chars : List Char}

/-- A text without blanks is not trimmed. -/
theorem trimStart_eq_self (hchars : ∀ char ∈ chars, isBlank char = false) :
    trimStart chars = chars := by
  cases chars with
  | nil => rfl
  | cons char chars => exact List.dropWhile_cons_of_neg (by simp [hchars char (by simp)])

/-- A text without blanks is not cut. -/
theorem trim_eq_self (hchars : ∀ char ∈ chars, isBlank char = false) : trim chars = chars := by
  have hreverse : ∀ char ∈ chars.reverse, isBlank char = false :=
    fun char hchar ↦ hchars char (List.mem_reverse.1 hchar)
  unfold trim trimEnd
  rw [trimStart_eq_self hchars]
  exact (congrArg List.reverse (trimStart_eq_self hreverse)).trans (List.reverse_reverse chars)

section Blanks

variable {front back : List Char} (hfront : ∀ char ∈ front, isBlank char = true)

include hfront

/-- Blanks in front of another character are cut off. -/
theorem trimStart_append (hchars : StopsRun isBlank chars) : trimStart (front ++ chars) = chars :=
  dropWhile_run hfront hchars

/-- Blanks at either end of a text without blanks are cut off. -/
theorem trim_append (hne : chars ≠ []) (hchars : ∀ char ∈ chars, isBlank char = false)
    (hback : ∀ char ∈ back, isBlank char = true) : trim (front ++ (chars ++ back)) = chars := by
  have hreverse : ∀ char ∈ back.reverse, isBlank char = true :=
    fun char hchar ↦ hback char (List.mem_reverse.1 hchar)
  have hstop : StopsRun isBlank (chars ++ back) := by
    obtain ⟨first, rest, rfl⟩ := List.exists_cons_of_ne_nil hne
    exact stopsRun_cons.2 (hchars first (by simp))
  have hstop' : StopsRun isBlank chars.reverse :=
    fun char hchar ↦ hchars char (List.mem_reverse.1 (List.mem_of_mem_head? hchar))
  unfold trim trimEnd
  rw [trimStart_append hfront hstop, List.reverse_append, dropWhile_run hreverse hstop',
    List.reverse_reverse]

end Blanks

end Text

namespace Literal

/-- No character of a literal is a blank. -/
theorem IsLiteralChar.isBlank_eq_false {char : Char} (hchar : IsLiteralChar char) :
    isBlank char = false := by
  rcases hchar with hdigit | hsign
  · obtain ⟨hlow, hhigh⟩ := isDigit_iff_toNat.1 hdigit
    simp only [isBlank, Bool.or_eq_false_iff, Bool.and_eq_false_iff, decide_eq_false_iff_not,
      beq_eq_false_iff_ne]
    omega
  · have hall : ['.', 'e', 'E', '+', '-'].all (fun other ↦ !isBlank other) = true := by decide
    simpa using List.all_eq_true.1 hall char hsign

/-- A sign is a character of literals. -/
theorem isLiteralChar_of_mem_signText {negative : Bool} {char : Char}
    (hchar : char ∈ signText negative) : IsLiteralChar char := by
  cases negative with
  | true =>
      rw [List.mem_singleton.1 hchar]
      decide
  | false => cases hchar

/-- The text is an unsigned decimal literal for a number. -/
def Denotes (text : List Char) (value : Rat) : Prop :=
  ∃ significand exponent, Spelling significand exponent text ∧
    (significand : Rat) * powerOfTen exponent = value

/-- A text denotes one number at most. -/
theorem Denotes.unique {text : List Char} {first second : Rat}
    (hfirst : Denotes text first) (hsecond : Denotes text second) : first = second := by
  obtain ⟨significand, exponent, hspelling, rfl⟩ := hfirst
  obtain ⟨other, otherExponent, hother, rfl⟩ := hsecond
  have hsame := (takeDecimal?_of_spelling hspelling).symm.trans (takeDecimal?_of_spelling hother)
  cases hsame
  rfl

end Literal

namespace Numeral

/-- A text in the characters of literals is a number only if it is a decimal literal. -/
theorem readNumber_eq_read? {text : List Char} (hne : text ≠ [])
    (hchars : ∀ char ∈ text, IsLiteralChar char) :
    readNumber text = (Literal.read? text).getD .nan := by
  have hletter : ∀ {letter : Char} {digits : List Char}, ¬ IsLiteralChar letter →
      text ≠ '0' :: letter :: digits := by
    rintro letter digits hletter rfl
    exact hletter (hchars letter (by simp))
  unfold readNumber
  rw [Text.trim_eq_self fun char hchar ↦ (hchars char hchar).isBlank_eq_false]
  split
  · exact absurd rfl hne
  · exact absurd rfl (hletter (by decide))
  · exact absurd rfl (hletter (by decide))
  · exact absurd rfl (hletter (by decide))
  · exact absurd rfl (hletter (by decide))
  · exact absurd rfl (hletter (by decide))
  · exact absurd rfl (hletter (by decide))
  · rfl

section Denotes

variable {text : List Char} {value : Rat} (htext : Denotes text value) (negative : Bool)

include htext

/-- A text that denotes a value, with its sign, consists of characters of literals. -/
theorem isLiteralChar_of_denotes :
    ∀ char ∈ signText negative ++ text, IsLiteralChar char := by
  obtain ⟨significand, exponent, hspelling, -⟩ := htext
  intro char hchar
  rcases List.mem_append.1 hchar with hchar | hchar
  · exact isLiteralChar_of_mem_signText hchar
  · exact hspelling.isLiteralChar hchar

/-- A signed literal as a whole is read as the number nearest to what it denotes. -/
theorem readNumber_of_denotes :
    readNumber (signText negative ++ text) = Binary64.ofMagnitude negative value := by
  have hchars := isLiteralChar_of_denotes htext negative
  obtain ⟨significand, exponent, hspelling, rfl⟩ := htext
  have hne : signText negative ++ text ≠ [] := by
    obtain ⟨first, rest, rfl, -⟩ := hspelling.eq_cons
    simp
  rw [readNumber_eq_read? hne hchars, read?_of_spelling hspelling negative, Option.getD_some,
    Binary64.ofDecimal_eq]

/-- A signed literal is read as the number nearest to what it denotes also as a front part. -/
theorem readDecimal_of_denotes :
    readDecimal (signText negative ++ text) = Binary64.ofMagnitude negative value := by
  have hchars := isLiteralChar_of_denotes htext negative
  obtain ⟨significand, exponent, hspelling, rfl⟩ := htext
  unfold readDecimal
  rw [Text.trimStart_eq_self fun char hchar ↦ (hchars char hchar).isBlank_eq_false,
    scan?_of_spelling hspelling negative]
  exact Binary64.ofDecimal_eq negative significand exponent

end Denotes

/-- Rounding does not depend on the sign. -/
theorem withSign_ofMagnitude (negative : Bool) (value : Rat) :
    withSign negative (Binary64.ofMagnitude false value) = Binary64.ofMagnitude negative value := by
  unfold Binary64.ofMagnitude
  cases Binary64.roundMagnitude? value <;> cases negative <;> rfl

end Numeral

end Numbering
