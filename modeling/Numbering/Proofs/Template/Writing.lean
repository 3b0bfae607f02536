import Numbering.Proofs.Text.Runs
import Numbering.Template.Parsing

/-!
# Placeholders as they are written

`Placeholder.text` writes the parts of a placeholder in their order, and `Placeholder.WellFormed`
says which parts may be written. In a well-formed placeholder what follows a part cannot be taken
for more of that part, or for a part that is left out: the lemmas on `fromSign`, `fromPadding` and
the other remainders say what the text can go on with from each part on.
-/

namespace Numbering

open Text Digits

/-- A reference as it is written. -/
def WrittenReference.text : WrittenReference → List Char
  | .absent => []
  | .position digits => digits ++ ['$']
  | .field chars => '(' :: chars ++ [')']

/-- A position is a run of digits that does not start with a zero, and a field is a nonempty text
without a closing parenthesis. -/
def WrittenReference.WellFormed : WrittenReference → Prop
  | .absent => True
  | .position digits => IsRun digits ∧ digits.head? ≠ some '0'
  | .field chars => chars ≠ [] ∧ ')' ∉ chars

/-- A pad as it is written. -/
def Padding.text : Padding → List Char
  | .zero => ['0']
  | .custom char => ['\'', char]

namespace Placeholder

/-- A flag as it is written. -/
def flagText (flag : Char) (given : Bool) : List Char := if given then [flag] else []

/-- A pad that may be absent as it is written. -/
def paddingText : Option Padding → List Char
  | none => []
  | some padding => padding.text

/-- A precision that may be absent as it is written. -/
def precisionText : Option (List Char) → List Char
  | none => []
  | some digits => '.' :: digits

/-- A placeholder as it is written after its percent sign. -/
def text (placeholder : Placeholder) : List Char :=
  placeholder.reference.text ++ (flagText '+' placeholder.forceSign ++
    (paddingText placeholder.padding ++ (flagText '-' placeholder.leftAlign ++
      (placeholder.width.getD [] ++ (precisionText placeholder.precision ++
        [placeholder.conversion.letter])))))

/-- The parts can be written so that they are read back: runs of digits are nonempty, a dollar
sign is no pad, and a zero in the place of the pad does not belong to the width. -/
structure WellFormed (placeholder : Placeholder) : Prop where
  reference : placeholder.reference.WellFormed
  padding : placeholder.padding ≠ some (.custom '$')
  width : ∀ digits ∈ placeholder.width, IsRun digits
  precision : ∀ digits ∈ placeholder.precision, IsRun digits
  zero : placeholder.padding = none →
    (flagText '-' placeholder.leftAlign ++ placeholder.width.getD []).head? ≠ some '0'

/-! ## What a part begins with -/

section Stops

variable {test : Char → Bool} {rest : List Char}

/-- A flag does not go on with a run that it is no part of. -/
theorem stopsRun_flagText {flag : Char} (given : Bool) (hflag : test flag = false) :
    StopsRun test (flagText flag given) := by
  cases given with
  | false => simp [flagText]
  | true => simpa [flagText] using hflag

/-- A padding does not go on with a run that zeros and apostrophes are no part of. -/
theorem stopsRun_paddingText (padding : Option Padding) (hzero : test '0' = false)
    (hquote : test '\'' = false) : StopsRun test (paddingText padding) := by
  cases padding with
  | none => simp [paddingText]
  | some padding =>
      cases padding with
      | zero => simpa [paddingText, Padding.text] using hzero
      | custom char => simpa [paddingText, Padding.text] using hquote

/-- A precision does not go on with a run that the point is no part of. -/
theorem stopsRun_precisionText (precision : Option (List Char)) (hpoint : test '.' = false) :
    StopsRun test (precisionText precision) := by
  cases precision with
  | none => simp [precisionText]
  | some digits => simpa [precisionText] using hpoint

/-- A width does not go on with a run that digits are no part of. -/
theorem stopsRun_width {width : Option (List Char)} (hwidth : ∀ digits ∈ width, IsRun digits)
    (hdigit : ∀ char, IsDigit char → test char = false) : StopsRun test (width.getD []) := by
  cases width with
  | none => simp
  | some digits =>
      intro char hchar
      exact hdigit char ((hwidth digits rfl).isDigit char (List.mem_of_mem_head? hchar))

/-- The conversion letters are neither digits nor signs of the other parts. -/
theorem letter_ne (conversion : Conversion) :
    isDecimal conversion.letter = false ∧ conversion.letter ≠ '.' ∧ conversion.letter ≠ '-' ∧
      conversion.letter ≠ '\'' ∧ conversion.letter ≠ '+' ∧ conversion.letter ≠ '(' ∧
      conversion.letter ≠ '$' ∧ conversion.letter ≠ '0' ∧ conversion.letter ≠ '%' := by
  cases conversion <;> decide

end Stops

/-- No position can be read at the front of the text: the first character after its digits is no
dollar sign. -/
def StopsPosition (chars : List Char) : Prop :=
  StopsRun (· = '$') (chars.dropWhile isDecimal)

/-- Digits in front do not make a position. -/
theorem StopsPosition.append {digits rest : List Char} (hrest : StopsPosition rest)
    (hdigits : ∀ char ∈ digits, isDecimal char = true) : StopsPosition (digits ++ rest) := by
  unfold StopsPosition
  rwa [List.dropWhile_append_of_pos hdigits]

/-- Without digits in front there is only the dollar sign to rule out. -/
theorem StopsPosition.of_stopsRun {chars : List Char} (hdigit : StopsRun isDecimal chars)
    (hdollar : StopsRun (· = '$') chars) : StopsPosition chars := by
  unfold StopsPosition
  cases chars with
  | nil => exact hdollar
  | cons char chars => rwa [List.dropWhile_cons_of_neg (by simpa using hdigit)]

/-! ## What is left from each part on -/

section Remainders

variable (placeholder : Placeholder) (rest : List Char)

/-- The text from the precision on. -/
def fromPrecision : List Char :=
  precisionText placeholder.precision ++ placeholder.conversion.letter :: rest

/-- The text from the width on. -/
def fromWidth : List Char := placeholder.width.getD [] ++ placeholder.fromPrecision rest

/-- The text from the alignment on. -/
def fromAlignment : List Char :=
  flagText '-' placeholder.leftAlign ++ placeholder.fromWidth rest

/-- The text from the pad on. -/
def fromPadding : List Char :=
  paddingText placeholder.padding ++ placeholder.fromAlignment rest

/-- The text from the sign on. -/
def fromSign : List Char := flagText '+' placeholder.forceSign ++ placeholder.fromPadding rest

/-- The text of a placeholder is its reference and what comes from the sign on. -/
theorem text_append : placeholder.text ++ rest =
    placeholder.reference.text ++ placeholder.fromSign rest := by
  simp [text, fromSign, fromPadding, fromAlignment, fromWidth, fromPrecision]

variable {placeholder}

/-- What comes from the precision on stops a run that it does not start with. -/
theorem stopsRun_fromPrecision {test : Char → Bool}
    (hletter : test placeholder.conversion.letter = false) (hpoint : test '.' = false) :
    StopsRun test (placeholder.fromPrecision rest) :=
  (stopsRun_precisionText _ hpoint).append (stopsRun_cons.2 hletter)

namespace WellFormed

variable (hformed : placeholder.WellFormed)

include hformed

/-- What comes from the width on stops a run that it does not start with. -/
theorem stopsRun_fromWidth {test : Char → Bool}
    (hletter : test placeholder.conversion.letter = false) (hpoint : test '.' = false)
    (hdigit : ∀ char, IsDigit char → test char = false) :
    StopsRun test (placeholder.fromWidth rest) :=
  (stopsRun_width hformed.width hdigit).append (stopsRun_fromPrecision rest hletter hpoint)

/-- What comes from the padding on stops a run that it does not start with. -/
theorem stopsRun_fromPadding {test : Char → Bool}
    (hletter : test placeholder.conversion.letter = false) (hpoint : test '.' = false)
    (hdigit : ∀ char, IsDigit char → test char = false) (hminus : test '-' = false)
    (hquote : test '\'' = false) : StopsRun test (placeholder.fromPadding rest) :=
  (stopsRun_paddingText _ (hdigit '0' (by decide)) hquote).append
    ((stopsRun_flagText _ hminus).append
      (hformed.stopsRun_fromWidth rest hletter hpoint hdigit))

/-- Where no pad is written, none can be read. -/
theorem stopsPadding (hpadding : placeholder.padding = none) :
    StopsRun (fun char ↦ char = '0' ∨ char = '\'') (placeholder.fromAlignment rest) := by
  have hletter := letter_ne placeholder.conversion
  have hlate : StopsRun (fun char ↦ char = '0' ∨ char = '\'') (placeholder.fromPrecision rest) :=
    stopsRun_fromPrecision rest (by simp [hletter]) (by decide)
  have hzero := hformed.zero hpadding
  unfold fromAlignment
  cases halign : placeholder.leftAlign with
  | true => simp [flagText]
  | false =>
      rw [halign] at hzero
      unfold flagText fromWidth
      cases hwidth : placeholder.width with
      | none => exact hlate
      | some digits =>
          cases digits with
          | nil => exact hlate
          | cons first others =>
              have hdigit := (hformed.width _ hwidth).isDigit first (by simp)
              have hfirst : first ≠ '0' := by simpa [flagText, hwidth] using hzero
              simp [hfirst, hdigit.ne (by decide : ¬ IsDigit '\'')]

/-- Where no position is written, none can be read. -/
theorem stopsPosition : StopsPosition (placeholder.fromSign rest) := by
  have hletter := letter_ne placeholder.conversion
  -- From the back to the front: digits may be put in front, and anything else stops a position.
  have hprecision : StopsPosition (placeholder.fromPrecision rest) :=
    .of_stopsRun (stopsRun_fromPrecision rest hletter.1 (by decide))
      (stopsRun_fromPrecision rest (by simp [hletter]) (by decide))
  have hwidth : StopsPosition (placeholder.fromWidth rest) := by
    refine hprecision.append fun char hmem ↦ ?_
    cases hdigits : placeholder.width with
    | none => simp [hdigits] at hmem
    | some digits =>
        rw [hdigits, Option.getD_some] at hmem
        exact (hformed.width _ hdigits).isDecimal char hmem
  have halign : StopsPosition (placeholder.fromAlignment rest) := by
    unfold fromAlignment
    cases placeholder.leftAlign with
    | false => exact hwidth
    | true => exact .of_stopsRun (by simp [flagText]; decide) (by simp [flagText])
  have hpadding : StopsPosition (placeholder.fromPadding rest) := by
    unfold fromPadding
    cases placeholder.padding with
    | none => exact halign
    | some padding =>
        cases padding with
        | zero => exact halign.append (by simp [paddingText, Padding.text]; decide)
        | custom char =>
            exact .of_stopsRun (by simp [paddingText, Padding.text]; decide)
              (by simp [paddingText, Padding.text])
  unfold fromSign
  cases placeholder.forceSign with
  | false => exact hpadding
  | true => exact .of_stopsRun (by simp [flagText]; decide) (by simp [flagText])

/-- The writing of a placeholder has a first character, which is no percent sign. -/
theorem text_eq_cons : ∃ first others, first ≠ '%' ∧ placeholder.text = first :: others := by
  have hletter := letter_ne placeholder.conversion
  have hreference : StopsRun (· = '%') placeholder.reference.text := by
    have hformed := hformed.reference
    cases hwritten : placeholder.reference with
    | absent => simp [WrittenReference.text]
    | field chars => simp [WrittenReference.text]
    | position digits =>
        rw [hwritten] at hformed
        refine StopsRun.append (fun char hchar ↦ ?_) (by simp)
        have hdigit := hformed.1.isDigit char (List.mem_of_mem_head? hchar)
        simpa using hdigit.ne (by decide)
  have hsign : StopsRun (· = '%') (placeholder.fromSign []) := by
    refine (stopsRun_flagText _ (by decide)).append ?_
    refine hformed.stopsRun_fromPadding [] (by simp [hletter]) (by decide) (fun char hchar ↦ ?_)
      (by decide) (by decide)
    simpa using hchar.ne (by decide)
  have hstop := hreference.append hsign
  rw [← text_append, List.append_nil] at hstop
  cases htext : placeholder.text with
  | nil => simp [text] at htext
  | cons first others =>
      rw [htext] at hstop
      exact ⟨first, others, by simpa using hstop, rfl⟩

end WellFormed

end Remainders

end Placeholder

end Numbering
