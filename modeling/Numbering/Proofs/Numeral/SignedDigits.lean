import Numbering.Proofs.Numeral.DigitReading
import Numbering.Proofs.Numeral.Reading

/-!
# Digits behind blanks and a sign

The readers of integers cut off blanks and a sign. The digits behind them are found and added up,
whatever follows: decimal digits (`Numeral.readInteger_digits`), and hexadecimal digits behind their
mark (`Numeral.readIntegerOrHex_hex`). The reader that wants a text as a whole to be a number cuts
off the blanks at either end and adds up the digits behind the letter of their base
(`Numeral.readNumber_letter`).
-/

namespace Numbering

/-! ## Characters -/

namespace Digits

section Characters

variable {base digit : Nat} {char : Char} (hvalue : value? base char = some digit)

include hvalue

/-- A digit is no blank. -/
theorem isBlank_of_value? : Text.isBlank char = false := by
  have hcode := toNat_of_value? hvalue
  simp only [Text.isBlank, Bool.or_eq_false_iff, Bool.and_eq_false_iff, decide_eq_false_iff_not,
    beq_eq_false_iff_ne]
  omega

/-- A digit is no sign. -/
theorem ne_sign_of_value? : char ≠ '-' ∧ char ≠ '+' := by
  have hcode := toNat_of_value? hvalue
  constructor
  · rintro rfl
    exact absurd hcode (by decide)
  · rintro rfl
    exact absurd hcode (by decide)

end Characters

end Digits

namespace Literal

/-- The text is a sign or nothing, and the flag says whether it is a minus sign. -/
inductive IsSign : List Char → Bool → Prop where
  | absent : IsSign [] false
  | plus : IsSign ['+'] false
  | minus : IsSign ['-'] true

/-- A sign in front of something else is taken. -/
theorem IsSign.takeSign {sign rest : List Char} {negative : Bool} {first : Char}
    (hsign : IsSign sign negative) (hfirst : first ≠ '-' ∧ first ≠ '+') :
    takeSign (sign ++ first :: rest) = (negative, first :: rest) := by
  cases hsign with
  | absent => exact takeSign_of_ne hfirst.1 hfirst.2
  | plus => rfl
  | minus => rfl

/-- A sign is no blank. -/
theorem IsSign.isBlank {sign : List Char} {negative : Bool} (hsign : IsSign sign negative) :
    ∀ char ∈ sign, Text.isBlank char = false := by
  cases hsign with
  | absent => exact List.forall_mem_nil _
  | plus => exact List.forall_mem_singleton.2 (by decide)
  | minus => exact List.forall_mem_singleton.2 (by decide)

/-- The sign of a literal is one of these. -/
theorem isSign_signText (negative : Bool) : IsSign (signText negative) negative := by
  cases negative with
  | true => exact .minus
  | false => exact .absent

end Literal

open Digits Literal

namespace Numeral

/-- There are no blanks in a text of digits. -/
theorem IsDigitText.isBlank {base : Nat} {text : List Char} {digits : List Nat}
    (htext : IsDigitText base text digits) : ∀ char ∈ text, Text.isBlank char = false := by
  intro char hchar
  obtain ⟨digit, hvalue⟩ := htext.exists_value? char hchar
  exact isBlank_of_value? hvalue

section Front

variable {blanks sign rest : List Char} {negative : Bool} {first : Char}
  (hblanks : ∀ char ∈ blanks, Text.isBlank char = true) (hsign : IsSign sign negative)

include hblanks hsign

/-- Blanks and a sign are cut off in front of a character that is neither. -/
theorem takeSign_trimStart (hblank : Text.isBlank first = false)
    (hfirst : first ≠ '-' ∧ first ≠ '+') :
    takeSign (Text.trimStart (blanks ++ (sign ++ first :: rest))) = (negative, first :: rest) := by
  have hstop : Text.StopsRun Text.isBlank (sign ++ first :: rest) :=
    Text.StopsRun.append (fun char hchar ↦ hsign.isBlank char (List.mem_of_mem_head? hchar))
      (Text.stopsRun_cons.2 hblank)
  rw [Text.trimStart_append hblanks hstop, hsign.takeSign hfirst]

variable {run : List Char} {digits : List Nat} (hne : digits ≠ [])

include hne

/-- Blanks and a sign in front of digits are taken off. -/
theorem takeSign_trimStart_digits {base : Nat} (hrun : IsDigitText base run digits) :
    takeSign (Text.trimStart (blanks ++ (sign ++ (run ++ rest)))) = (negative, run ++ rest) := by
  cases hrun with
  | nil => exact absurd rfl hne
  | cons hvalue _ =>
      exact takeSign_trimStart hblanks hsign (isBlank_of_value? hvalue) (ne_sign_of_value? hvalue)

/-- The decimal digits at the front of a text, behind blanks and a sign, are added up. -/
theorem readInteger_digits (hrun : IsDigitText 10 run digits)
    (hstop : ∀ char ∈ rest.head?, value? 10 char = none) :
    readInteger (blanks ++ (sign ++ (run ++ rest))) = withSign negative (accumulate 10 digits) := by
  unfold readInteger
  rw [takeSign_trimStart_digits hblanks hsign hne hrun]
  dsimp only
  rw [leadingDigits_append hrun hstop]

/-- So they are by the reader that looks for the mark of hexadecimal digits, if it is missing. -/
theorem readIntegerOrHex_decimal (hrun : IsDigitText 10 run digits)
    (hstop : ∀ char ∈ rest.head?, value? 10 char = none)
    (hmark : (run ++ rest).take 2 ≠ ['0', 'x'] ∧ (run ++ rest).take 2 ≠ ['0', 'X']) :
    readIntegerOrHex (blanks ++ (sign ++ (run ++ rest))) =
      withSign negative (accumulate 10 digits) := by
  unfold readIntegerOrHex
  rw [takeSign_trimStart_digits hblanks hsign hne hrun]
  dsimp only
  split
  · rename_i heq
    rw [heq] at hmark
    exact absurd rfl hmark.1
  · rename_i heq
    rw [heq] at hmark
    exact absurd rfl hmark.2
  · rw [leadingDigits_append hrun hstop]

omit hne in
/-- Hexadecimal digits are added up behind blanks, a sign and their mark. -/
theorem readIntegerOrHex_hex {letter : Char} (hletter : letter = 'x' ∨ letter = 'X')
    (hrun : IsDigitText 16 run digits) (hstop : ∀ char ∈ rest.head?, value? 16 char = none) :
    readIntegerOrHex (blanks ++ (sign ++ '0' :: letter :: (run ++ rest))) =
      withSign negative (accumulate 16 digits) := by
  unfold readIntegerOrHex
  rw [takeSign_trimStart hblanks hsign (by decide) (by decide)]
  rcases hletter with rfl | rfl
  · show withSign negative (accumulate 16 (leadingDigits 16 (run ++ rest))) = _
    rw [leadingDigits_append hrun hstop]
  · show withSign negative (accumulate 16 (leadingDigits 16 (run ++ rest))) = _
    rw [leadingDigits_append hrun hstop]

end Front

/-! ## Whole numbers -/

/-- Digits behind the letter of their base are added up. -/
theorem readNumber_letter {base : Nat} {letter : Char} {front run back : List Char}
    {digits : List Nat} (hfront : ∀ char ∈ front, Text.isBlank char = true)
    (hletter : (letter, base) ∈ [('x', 16), ('X', 16), ('o', 8), ('O', 8), ('b', 2), ('B', 2)])
    (hrun : IsDigitText base run digits) (hback : ∀ char ∈ back, Text.isBlank char = true) :
    readNumber (front ++ ('0' :: letter :: run ++ back)) = accumulate base digits := by
  simp only [List.mem_cons, List.not_mem_nil, or_false, Prod.mk.injEq] at hletter
  have hmark : Text.isBlank letter = false := by
    rcases hletter with h | h | h | h | h | h <;> rw [h.1] <;> decide
  have htext : ∀ char ∈ '0' :: letter :: run, Text.isBlank char = false :=
    List.forall_mem_cons.2 ⟨by decide, List.forall_mem_cons.2 ⟨hmark, hrun.isBlank⟩⟩
  have hread : readDigits base run = accumulate base digits := by
    rw [readDigits, allDigits?_eq_some hrun]
  unfold readNumber
  rw [Text.trim_append hfront (by simp) htext hback]
  rcases hletter with ⟨rfl, rfl⟩ | ⟨rfl, rfl⟩ | ⟨rfl, rfl⟩ | ⟨rfl, rfl⟩ | ⟨rfl, rfl⟩ |
    ⟨rfl, rfl⟩ <;> exact hread

end Numeral

end Numbering
