import Numbering.Proofs.Numeral.Points
import Numbering.Proofs.NumberingPass.Override

/-!
# Settings written as a line

The fields of a line are what stands between its colons, and the plain texts of numbers have no
colon. So a line that is made of a format and the plain texts of a start and a step is read as these
settings, whatever follows a third colon, when the numbers are integers up to `2 ^ 53` or fractions
from a millionth on (`Override.parse_settings_texts`): an integer shows no point and is read as an
integer, a fraction shows one and is read as a decimal.
-/

namespace Numbering

namespace Binary64

variable {number : Binary64}

/-- The sign of a zero makes no difference to the value of a number. -/
theorem equals_withoutZeroSign (hfinite : number.isFinite = true) :
    number.withoutZeroSign.equals number = true := by
  unfold withoutZeroSign
  split
  · rename_i hzero
    obtain ⟨negative, rfl⟩ := exists_signedZero_of_isZero hzero
    cases negative <;> decide +kernel
  · rw [equals_self]
    cases number with
    | nan => cases hfinite
    | infinity negative => rfl
    | finite negative magnitude => rfl

/-- Every number but the negative zero keeps its sign. -/
theorem withoutZeroSign_eq_self (hnumber : number ≠ .signedZero true) :
    number.withoutZeroSign = number := by
  unfold withoutZeroSign
  split
  · rename_i hzero
    obtain ⟨negative, rfl⟩ := exists_signedZero_of_isZero hzero
    cases negative with
    | true => exact absurd rfl hnumber
    | false => rfl
  · rfl

end Binary64

namespace Override

/-! ## Fields -/

section Fields

variable {front chars : List Char}

/-- The fields are the pieces between colons. -/
theorem fields_eq_splitOn (chars : List Char) : fields chars = chars.splitOn ':' := by
  induction chars with
  | nil => rfl
  | cons char chars ih =>
      rw [fields, ih, List.splitOn_cons_eq_if_modifyHead]
      by_cases hcolon : char = ':'
      · rw [if_pos hcolon, if_pos (beq_iff_eq.2 hcolon)]
      · rw [if_neg hcolon, if_neg (beq_iff_eq.not.2 hcolon)]
        cases hfields : chars.splitOn ':' with
        | nil => exact absurd hfields (List.splitOn_ne_nil _ _)
        | cons first rest => rfl

/-- A field ends at the next colon. -/
theorem fields_append (hfront : ':' ∉ front) (back : List Char) :
    fields (front ++ ':' :: back) = front :: fields back := by
  rw [fields_eq_splitOn, fields_eq_splitOn, List.splitOn_append_cons_self_of_not_mem hfront]

/-- The characters of two texts with a colon between them. -/
theorem toList_append_colon (front back : String) :
    (front ++ (":" ++ back)).toList = front.toList ++ ':' :: back.toList := by
  rw [String.toList_append, String.toList_append]
  rfl

/-- A text without a colon is one field. -/
theorem fields_of_not_mem (hchars : ':' ∉ chars) : fields chars = [chars] := by
  rw [fields_eq_splitOn, List.splitOn_eq_singleton hchars]

end Fields

/-! ## Numbers -/

section Numbers

variable {number : Binary64}

/-- There is no colon in the plain text of a finite number. -/
theorem colon_not_mem_plain (hfinite : number.isFinite = true) : ':' ∉ Numeral.plain number :=
  fun hcolon ↦ absurd (Numeral.isLiteralChar_of_mem_plain hfinite ':' hcolon) (by decide)

/-- The field with the plain text of a number is read as the number. -/
theorem readField_plain (hnumber : number.IsOrdinary) :
    readField (Numeral.plain number) = number.withoutZeroSign := by
  unfold readField
  split
  · exact (Numeral.read_plain number).2
  · rename_i hpoint
    rw [List.contains_iff_mem] at hpoint
    obtain ⟨value, hvalue, hbound⟩ | ⟨hfinite, hfraction, hlow⟩ := hnumber
    · exact Numeral.readIntegerOrHex_plain hvalue hbound
    · cases number with
      | nan => cases hfinite
      | infinity negative => cases hfinite
      | finite negative magnitude =>
          rw [Binary64.abs_toRat_finite] at hlow
          exact absurd (Numeral.point_mem_plain negative hlow (of_decide_eq_false hfraction)) hpoint

end Numbers

/-! ## Lines -/

section Lines

variable {format : String} {start step : Binary64}

/-- The text of a number in a line. -/
def numberText (number : Binary64) : String := String.ofList (Numeral.plain number)

/-- The characters of the text of a number are those of its plain text. -/
theorem toList_numberText (number : Binary64) :
    (numberText number).toList = Numeral.plain number :=
  String.toList_ofList

/-- What a line is read as is settled by its format and by the fields behind it. -/
theorem parse_append_colon (hsign : '%' ∈ format.toList) (hcolon : ':' ∉ format.toList)
    (rest : String) : parse (format ++ (":" ++ rest)) =
      .ok (some (settingsOf (format.toList :: fields rest.toList))) := by
  have hline : '%' ∈ (format ++ (":" ++ rest)).toList := by
    rw [toList_append_colon]
    exact List.mem_append_left _ hsign
  rw [parse_of_mem hline, toList_append_colon, fields_append hcolon]

/-- The field of a number ends at the next colon, and the one at the end is the last. -/
theorem fields_numberText (hstart : start.isFinite = true) :
    (∀ rest : String, fields (numberText start ++ (":" ++ rest)).toList =
        Numeral.plain start :: fields rest.toList) ∧
      fields (numberText start).toList = [Numeral.plain start] := by
  have hcolon := colon_not_mem_plain hstart
  refine ⟨fun rest ↦ ?_, ?_⟩
  · rw [toList_append_colon, toList_numberText, fields_append hcolon]
  · rw [toList_numberText, fields_of_not_mem hcolon]

/-- A line that is made of settings is read as these settings. The format contains a percent sign
and no colon, and the start and the step are integers up to `2 ^ 53` or fractions off zero by at
least a millionth; then the plain texts of both behind the format, between colons, give back the
format, the start and the step, and so they do with anything behind one more colon. Without a step
the step is one, and without both numbers the start is zero. Only a negative zero comes back as the
other zero, which is equal to it. -/
theorem parse_settings_texts (hsign : '%' ∈ format.toList) (hcolon : ':' ∉ format.toList)
    (hstart : start.IsOrdinary) (hstep : step.IsOrdinary) (more : String) :
    parse (format ++ ":" ++ numberText start ++ ":" ++ numberText step) =
        .ok (some ⟨format, start.withoutZeroSign, step.withoutZeroSign⟩) ∧
      parse (format ++ ":" ++ numberText start ++ ":" ++ numberText step ++ ":" ++ more) =
        .ok (some ⟨format, start.withoutZeroSign, step.withoutZeroSign⟩) ∧
      parse (format ++ ":" ++ numberText start) =
        .ok (some ⟨format, start.withoutZeroSign, .one⟩) ∧
      parse format = .ok (some ⟨format, .zero, .one⟩) ∧
      ∀ number ∈ [start, step], number.withoutZeroSign.equals number = true ∧
        (number ≠ .signedZero true → number.withoutZeroSign = number) := by
  obtain ⟨hstartField, hstartLast⟩ := fields_numberText hstart.isFinite
  obtain ⟨hstepField, hstepLast⟩ := fields_numberText hstep.isFinite
  refine ⟨?_, ?_, ?_, ?_, ?_⟩
  · simp only [String.append_assoc]
    rw [parse_append_colon hsign hcolon, hstartField, hstepLast]
    simp [settingsOf, readField_plain hstart, readField_plain hstep]
  · simp only [String.append_assoc]
    rw [parse_append_colon hsign hcolon, hstartField, hstepField]
    simp [settingsOf, readField_plain hstart, readField_plain hstep]
  · simp only [String.append_assoc]
    rw [parse_append_colon hsign hcolon, hstartLast]
    simp [settingsOf, readField_plain hstart, Settings.standard]
  · rw [parse_of_mem hsign, fields_of_not_mem hcolon]
    simp [settingsOf, Settings.standard]
  · intro number hnumber
    have hfinite : number.isFinite = true := by
      rcases List.mem_pair.1 hnumber with rfl | rfl
      · exact hstart.isFinite
      · exact hstep.isFinite
    exact ⟨Binary64.equals_withoutZeroSign hfinite, Binary64.withoutZeroSign_eq_self⟩

/-- A negative fraction and the first integer that is not told apart from the next one. -/
theorem parse_settings_texts_half :
    let half : Binary64 := .finite true ⟨4503599627370496, -53, by decide⟩
    numberText half = "-0.5" ∧
      parse ("%x" ++ ":" ++ numberText half ++ ":" ++ numberText (.ofNat (2 ^ 53)) ++ ":" ++ "%") =
        .ok (some ⟨"%x", half, .ofNat (2 ^ 53)⟩) := by
  intro half
  have hhalf : half.IsOrdinary := .inr ⟨rfl, by decide +kernel, by decide +kernel⟩
  have hlimit : (Binary64.ofNat (2 ^ 53)).IsOrdinary :=
    .inl ⟨_, Binary64.hasValue_ofNat (Nat.le_refl _), Nat.le_refl _⟩
  obtain ⟨-, hparse, -, -, hsame⟩ :=
    parse_settings_texts (by decide : '%' ∈ "%x".toList) (by decide) hhalf hlimit "%"
  rw [(hsame half (by simp)).2 (by decide),
    (hsame (.ofNat (2 ^ 53)) (by simp)).2 (by decide +kernel)] at hparse
  exact ⟨by decide +kernel, hparse⟩

end Lines

end Override

end Numbering
