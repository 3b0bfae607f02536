import Numbering.Json.Writing
import Numbering.Proofs.Numeral.IntegerPart
import Numbering.Proofs.Template.ConversionTexts

/-!
# Numbers and their plain texts as arguments

A string that is the plain text of a number stands for this number, up to the sign of a zero
(`Numeral.read_plain`), also where a conversion takes the decimal or the integer at the front of it
(`Value.decimalArgument_plainText`, `Value.integerArgument_plainText`). So a directive writes the
number and the text alike.
-/

namespace Numbering

open Literal

namespace Numeral

/-- The plain text of a finite number is a signed literal for it; a zero has no sign there. -/
theorem denotes_plain {number : Binary64} (hfinite : number.isFinite = true) :
    ∃ negative text value, plain number = signText negative ++ text ∧ Denotes text value ∧
      Binary64.ofMagnitude negative value = number.withoutZeroSign := by
  cases number with
  | nan => cases hfinite
  | infinity negative => cases hfinite
  | finite negative magnitude =>
      by_cases hsignificand : magnitude.significand = 0
      · have hzero : (Binary64.finite negative magnitude).withoutZeroSign =
            Binary64.ofMagnitude false 0 := if_pos (by simpa [Binary64.isZero] using hsignificand)
        exact ⟨false, ['0'], 0, if_pos hsignificand, denotes_zero.1, hzero.symm⟩
      · refine ⟨negative, _, _, plain_finite hsignificand negative,
          denotes_layout (Decimal.digits_shortest_ne_nil hsignificand)
            fun _ ↦ Decimal.lt_of_mem_digits_shortest, ?_⟩
        rw [Binary64.withoutZeroSign_finite hsignificand]
        exact ofMagnitude_shortestDigits negative magnitude

/-- The plain text of a number is read as the number, as a whole and from the front. -/
theorem read_plain (number : Binary64) :
    readNumber (plain number) = number.withoutZeroSign ∧
      readDecimal (plain number) = number.withoutZeroSign := by
  by_cases hfinite : number.isFinite = true
  · obtain ⟨negative, text, value, htext, hdenotes, hvalue⟩ := denotes_plain hfinite
    rw [htext, ← hvalue]
    exact ⟨readNumber_of_denotes hdenotes negative, readDecimal_of_denotes hdenotes negative⟩
  · cases number with
    | nan => decide
    | infinity negative => cases negative <;> decide
    | finite _ _ => exact absurd rfl hfinite

end Numeral

namespace Binary64

/-- The number is zero, or off zero by at least a millionth and by at most `2 ^ 53`. -/
def IsModerate (number : Binary64) : Prop :=
  number.isZero = true ∨
    Magnitude.millionth.toRat ≤ |number.toRat| ∧ |number.toRat| ≤ 2 ^ 53

/-- A number off zero is finite when its size is bounded from below. -/
theorem IsModerate.cases_finite {number : Binary64} (hnumber : number.IsModerate) :
    (∃ negative, number = signedZero negative) ∨
      ∃ negative magnitude, number = finite negative magnitude ∧
        Magnitude.millionth.toRat ≤ magnitude.toRat ∧ magnitude.toRat ≤ 2 ^ 53 := by
  obtain hzero | ⟨hlow, hle⟩ := hnumber
  · exact .inl (exists_signedZero_of_isZero hzero)
  · have hpos : 0 < Magnitude.millionth.toRat := Magnitude.toRat_pos (by decide)
    cases number with
    | nan => exact absurd (hlow.trans_eq abs_zero) hpos.not_ge
    | infinity _ => exact absurd (hlow.trans_eq abs_zero) hpos.not_ge
    | finite negative magnitude =>
        rw [abs_toRat_finite] at hlow hle
        exact .inr ⟨negative, magnitude, rfl, hlow, hle⟩

/-- A moderate number is a number. -/
theorem IsModerate.isNaN_eq_false {number : Binary64} (hnumber : number.IsModerate) :
    number.isNaN = false := by
  obtain ⟨_, rfl⟩ | ⟨_, _, rfl, -⟩ := hnumber.cases_finite
  · rfl
  · rfl

/-- The sign of a zero is dropped once. -/
theorem withoutZeroSign_idem (number : Binary64) :
    number.withoutZeroSign.withoutZeroSign = number.withoutZeroSign :=
  apply_withoutZeroSign withoutZeroSign rfl number

end Binary64

namespace Value

/-- The plain text of a number as a string. -/
def plainText (number : Binary64) : Value := .string (String.ofList (Numeral.plain number))

variable {number : Binary64}

/-- The plain text of a number stands for it, up to the sign of a zero. -/
theorem toNumber_plainText (number : Binary64) :
    (plainText number).toNumber = number.withoutZeroSign := by
  rw [plainText, toNumber, String.toList_ofList]
  exact (Numeral.read_plain number).1

/-- As an argument, the plain text of a number stands for it, up to the sign of a zero. -/
theorem decimalArgument_plainText (number : Binary64) :
    (plainText number).decimalArgument = number.withoutZeroSign := by
  rw [plainText, decimalArgument, text, String.toList_ofList]
  · exact (Numeral.read_plain number).2
  · simp

/-- The integer in front of the point of the text is the number without its fraction. -/
theorem integerArgument_plainText (hnumber : number.IsModerate) :
    (plainText number).integerArgument.withoutZeroSign =
      (Value.number number).integerArgument.withoutZeroSign := by
  have htext : (plainText number).integerArgument = Numeral.readInteger (Numeral.plain number) := by
    rw [plainText, integerArgument, text, String.toList_ofList]
    simp
  rw [htext]
  obtain ⟨negative, rfl⟩ | ⟨negative, magnitude, rfl, hlow, hle⟩ := hnumber.cases_finite
  · rw [Numeral.readInteger_plain_signedZero, integerArgument,
      (Binary64.hasValue_signedZero negative).truncate]
    rfl
  · rw [Numeral.readInteger_plain negative hlow hle]
    rfl

end Value

namespace Conversion

variable {number : Binary64}

/-- The conversions to decimals and to text make one text of a number and of its plain text. -/
theorem textOf_plainText [Json.Writer] {conversion : Conversion}
    (hconversion : conversion ∈ [exponential, fixed, general, text]) (precision : Option Nat)
    (number : Binary64) :
    conversion.textOf precision (.number number) =
      conversion.textOf precision (.plainText number) := by
  have hread : conversion.readsDecimal = true ∨ conversion = .text := by
    revert hconversion
    cases conversion <;> decide
  obtain hdecimal | rfl := hread
  · refine textOf_of_decimalArgument hdecimal ?_ precision
    rw [Value.decimalArgument_plainText, Binary64.withoutZeroSign_idem]
    rfl
  · rfl

/-- The conversions to integers make one text of a moderate number and of its plain text. -/
theorem textOf_plainText_of_isModerate [Json.Writer] {conversion : Conversion}
    (hconversion : conversion ∈ [binary, character, decimal, integer, unsigned, hex, upperHex])
    (precision : Option Nat) (hnumber : number.IsModerate) :
    conversion.textOf precision (.number number) =
      conversion.textOf precision (.plainText number) := by
  have hread : conversion.readsInteger = true := by
    revert hconversion
    cases conversion <;> decide
  exact textOf_of_integerArgument hread (Value.integerArgument_plainText hnumber).symm precision

end Conversion

namespace Directive

variable {directive : Directive} {number : Binary64}

/-- A directive writes a number and its plain text alike, if their texts under its conversion are
equal: it takes both of them, and they are on one side of zero. -/
theorem format_plainText [Json.Writer] (hnumber : number.isNaN = false)
    (htext : directive.conversion.textOf directive.precision (.number number) =
      directive.conversion.textOf directive.precision (.plainText number)) :
    directive.format (.number number) = directive.format (.plainText number) := by
  have hside : (Value.number number).toNumber.isAtLeastZero =
      (Value.plainText number).toNumber.isAtLeastZero := by
    rw [Value.toNumber_plainText]
    exact (Binary64.apply_withoutZeroSign Binary64.isAtLeastZero rfl number).symm
  have hnan : (Value.plainText number).toNumber.isNaN = false := by
    rw [Value.toNumber_plainText]
    exact (Binary64.apply_withoutZeroSign Binary64.isNaN rfl number).trans hnumber
  have haccepts : directive.accepts (.number number) = true := by
    simp [accepts, Value.isNumber]
  have haccepts' : directive.accepts (.plainText number) = true := by
    simp [accepts, hnan]
  have hforced := directive.forced_eq_self (rfl : (Value.number number).isDelayed = false)
  have hforced' := directive.forced_eq_self (rfl : (Value.plainText number).isDelayed = false)
  apply format_congr
  · rwa [hforced]
  · rwa [hforced']
  · rwa [hforced, hforced']
  · rwa [hforced, hforced']

/-- A number and its plain text are written alike by the conversions to decimals and to text,
whatever the number is, and by the conversions to integers when the number is zero or its size is
from a millionth to `2 ^ 53`. A NaN is excepted. -/
theorem render_number_or_plain_text [Json.Writer] {arguments texts : List Value} {taken : Nat}
    (hnumber : directive.resolve arguments taken = .ok (.number number))
    (htext : directive.resolve texts taken =
      .ok (.string (String.ofList (Numeral.plain number))))
    (hconversion :
      directive.conversion ∈ [.exponential, .fixed, .general, .text] ∧ number.isNaN = false ∨
      directive.conversion ∈
          [.binary, .character, .decimal, .integer, .unsigned, .hex, .upperHex] ∧
        number.IsModerate) :
    directive.render arguments taken = directive.render texts taken := by
  have hformat : directive.format (.number number) = directive.format (.plainText number) := by
    obtain ⟨hmem, hnan⟩ | ⟨hmem, hmoderate⟩ := hconversion
    · exact format_plainText hnan (Conversion.textOf_plainText hmem _ number)
    · exact format_plainText hmoderate.isNaN_eq_false
        (Conversion.textOf_plainText_of_isModerate hmem _ hmoderate)
  unfold render
  rw [hnumber, htext]
  split
  · rfl
  · exact hformat

/-- A negative fraction: its integer is negative zero, and so is the one in front of its point. -/
theorem render_number_or_plain_text_half :
    letI := Json.Writer.shortest
    let half : Binary64 := .finite true ⟨4503599627370496, -53, by decide⟩
    let padded : Directive := ⟨.next, false, some .zero, false, some 5, none, .decimal⟩
    half.IsModerate ∧ Numeral.plain half = "-0.5".toList ∧
      padded.render [.number half] 0 =
        padded.render [.string (String.ofList (Numeral.plain half))] 0 := by
  intro half padded
  let := Json.Writer.shortest
  have hmoderate : half.IsModerate := .inr (by decide +kernel)
  exact ⟨hmoderate, by decide +kernel,
    render_number_or_plain_text rfl rfl (.inr ⟨by decide, hmoderate⟩)⟩

end Directive

end Numbering
