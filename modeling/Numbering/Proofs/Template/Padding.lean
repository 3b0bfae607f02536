import Numbering.Json.Writing
import Numbering.Proofs.Template.ConversionTexts

/-!
# Filling up to a width

What a directive writes for an argument does not depend on its width (`Directive.written`). The
width adds filling to it, all of it in one place (`Directive.format_eq`): behind the text, in front
of it, or behind the sign that the directive writes itself. So a directive with a width fails where
the same directive without one fails, and adds nothing but filling where that one writes a text
(`Directive.render_width`).
-/

namespace Numbering

/-- A text filled up to a width with a character, in front of all but so many of its characters. -/
def filledUp (filling : Char) (width place : Nat) (text : List Char) : List Char :=
  text.take place ++ List.replicate (width - text.length) filling ++ text.drop place

/-- Each text of a table is as many copies of its character as its index says. -/
theorem toList_getElem_paddingTable {char : Char} {table : Array String}
    (htable : paddingTable? char = some table) {count : Nat} (hinside : count < table.size) :
    table[count].toList = List.replicate count char := by
  unfold paddingTable? at htable
  split at htable
  · cases htable
    have hall : ∀ index (hindex : index < 8), #["", "0", "00", "000", "0000", "00000", "000000",
        "0000000"][index].toList = List.replicate index '0' := by decide
    exact hall count hinside
  · cases htable
    have hall : ∀ index (hindex : index < 8), #["", " ", "  ", "   ", "    ", "     ", "      ",
        "       "][index].toList = List.replicate index ' ' := by decide
    exact hall count hinside
  · cases htable
    have hall : ∀ index (hindex : index < 8), #["", "_", "__", "___", "____", "_____", "______",
        "_______"][index].toList = List.replicate index '_' := by decide
    exact hall count hinside
  · cases htable

/-- A padding is so many copies of its character, whether or not it comes from a table. -/
theorem paddingText_eq (char : Char) (count : Nat) :
    paddingText char count = List.replicate count char := by
  unfold paddingText
  cases htable : paddingTable? char with
  | none => rfl
  | some table =>
      dsimp only
      split
      · exact toList_getElem_paddingTable htable _
      · rfl

/-- Nothing is added to a text that is wide enough. -/
theorem filledUp_of_le {width : Nat} {text : List Char} (hwidth : width ≤ text.length)
    (filling : Char) (place : Nat) : filledUp filling width place text = text := by
  rw [filledUp, Nat.sub_eq_zero_of_le hwidth, List.replicate_zero, List.append_nil,
    List.take_append_drop]

namespace Directive

/-- The directive writes a sign of its own for a value: one that it is asked for, or that of a value
that is not zero or above. -/
def writesSign (directive : Directive) (value : Value) : Bool :=
  directive.conversion.isSigned && (!value.toNumber.isAtLeastZero || directive.forceSign)

/-- The sign that a directive writes for a value, if it writes one. -/
def signOf (value : Value) : Char := if value.toNumber.isAtLeastZero then '+' else '-'

/-- What a directive writes for an argument with a text, without any filling. -/
def written (directive : Directive) (value : Value) (text : String) : List Char :=
  let signed := directive.signed (directive.forced value) text.toList
  signed.1 ++ signed.2

/-- How many characters of a text for an argument stand in front of its filling. -/
def fillingPlace (directive : Directive) (value : Value) (text : List Char) : Nat :=
  if directive.leftAlign then text.length
  else if directive.paddingChar = '0' ∧ directive.writesSign (directive.forced value) then 1
  else 0

/-- The first part of a signed text is the sign that the directive writes. -/
theorem signed_fst (directive : Directive) (value : Value) (text : List Char) :
    (directive.signed value text).1 =
      if directive.writesSign value then [signOf value] else [] := by
  unfold signed writesSign signOf
  dsimp only
  split
  · rfl
  · rfl

/-- The sign of a directive is the first character that it writes. -/
theorem written_eq_cons {directive : Directive} {value : Value}
    (hsign : directive.writesSign (directive.forced value) = true) (text : String) :
    ∃ rest, directive.written value text = signOf (directive.forced value) :: rest := by
  unfold written
  dsimp only
  rw [signed_fst, if_pos hsign]
  exact ⟨_, rfl⟩

/-- Sign, text and filling together: sign and text, and the filling in one place. -/
theorem padded_eq (directive : Directive) (sign text : List Char) :
    directive.padded sign text = filledUp directive.paddingChar (directive.width.getD 0)
      (if directive.leftAlign then (sign ++ text).length
        else if directive.paddingChar = '0' then sign.length else 0) (sign ++ text) := by
  unfold padded filledUp
  dsimp only
  rw [paddingText_eq, List.length_append]
  split
  · rw [← List.length_append, List.take_length, List.drop_length, List.append_nil]
  · split
    · rw [List.take_left, List.drop_left]
    · exact List.append_assoc _ sign text

/-- A text that is no JSON text is written with its sign and filled up. -/
theorem fieldOf_eq {directive : Directive} (hconversion : directive.conversion ≠ .json)
    (value : Value) (text : String) :
    directive.fieldOf (directive.forced value) text = String.ofList
      (filledUp directive.paddingChar (directive.width.getD 0)
        (directive.fillingPlace value (directive.written value text))
        (directive.written value text)) := by
  have hplace : (if directive.paddingChar = '0' then
      (directive.signed (directive.forced value) text.toList).1.length else 0) =
        if directive.paddingChar = '0' ∧ directive.writesSign (directive.forced value) then 1
        else 0 := by
    rw [signed_fst]
    cases directive.writesSign (directive.forced value) with
    | true => simp
    | false => simp
  unfold written fieldOf
  dsimp only
  rw [if_neg hconversion, padded_eq, hplace]
  rfl

/-- A JSON text takes no sign and is not filled up. -/
theorem fieldOf_json {directive : Directive} (hconversion : directive.conversion = .json)
    (value : Value) (text : String) : directive.fieldOf value text = text :=
  if_pos hconversion

section Format

variable [Json.Writer]

/-- An argument that is taken is written with its text, if it has one. -/
theorem format_eq {directive : Directive} {value : Value}
    (haccepts : directive.accepts (directive.forced value) = true) :
    directive.format value =
      (directive.conversion.textOf directive.precision (directive.forced value)).map
        (directive.fieldOf (directive.forced value)) := by
  unfold forced at haccepts ⊢
  unfold format
  dsimp only
  rw [if_pos haccepts]

/-- Every number is taken by a directive. -/
theorem format_number (directive : Directive) (number : Binary64) :
    directive.format (.number number) =
      (directive.conversion.textOf directive.precision (.number number)).map
        (directive.fieldOf (.number number)) := by
  have haccepts : directive.accepts (.number number) = true := by simp [accepts, Value.isNumber]
  have hforced := directive.forced_eq_self (rfl : (Value.number number).isDelayed = false)
  rw [format_eq (hforced.symm ▸ haccepts), hforced]

/-- The text of a number is written with its sign and filled up. -/
theorem format_number_of_textOf {directive : Directive} (hconversion : directive.conversion ≠ .json)
    {number : Binary64} {text : String}
    (htext : directive.conversion.textOf directive.precision (.number number) = .ok text) :
    directive.format (.number number) =
      let signed := directive.signed (.number number) text.toList
      .ok (String.ofList (directive.padded signed.1 signed.2)) := by
  rw [format_number, htext]
  exact congrArg Except.ok (if_neg hconversion)

/-- A conversion that is not signed leaves the text of a number as it is. -/
theorem format_number_of_not_isSigned {directive : Directive}
    (hsigned : directive.conversion.isSigned = false) (hconversion : directive.conversion ≠ .json)
    {number : Binary64} {text : String}
    (htext : directive.conversion.textOf directive.precision (.number number) = .ok text) :
    directive.format (.number number) = .ok (String.ofList (directive.padded [] text.toList)) := by
  have hplain : directive.signed (.number number) text.toList = ([], text.toList) := by
    rw [signed, hsigned, Bool.false_and]
    rfl
  rw [format_number_of_textOf hconversion htext, hplain]

end Format

/-- Sign and text stand alone without a width. -/
theorem padded_of_width_none {directive : Directive} (hwidth : directive.width = none)
    (sign text : List Char) : directive.padded sign text = sign ++ text := by
  rw [padded_eq, hwidth]
  exact filledUp_of_le (Nat.zero_le _) _ _

/-- The directive with another width, or with none. -/
def withWidth (directive : Directive) (width : Option Nat) : Directive :=
  { directive with width := width }

/-- The text of an argument filled up to a width. A JSON text stays as it is. -/
def fill (directive : Directive) (width : Nat) (value : Value) (text : String) : String :=
  if directive.conversion = .json then text
  else String.ofList (filledUp directive.paddingChar width
    (directive.fillingPlace value text.toList) text.toList)

/-- A text that is wide enough is not filled up. -/
theorem fill_of_le (directive : Directive) {width : Nat} (value : Value) {text : String}
    (hwidth : width ≤ text.length) : directive.fill width value text = text := by
  unfold fill
  split
  · rfl
  · rw [filledUp_of_le hwidth, String.ofList_toList]

/-- Without a width there is no filling. -/
theorem fieldOf_withWidth_none {directive : Directive} (hconversion : directive.conversion ≠ .json)
    (value : Value) (text : String) :
    (directive.withWidth none).fieldOf (directive.forced value) text =
      String.ofList (directive.written value text) :=
  (@fieldOf_eq (directive.withWidth none) hconversion value text).trans
    (congrArg String.ofList (filledUp_of_le (Nat.zero_le _) _ _))

/-- With a width a text is written as it is without one, and filled up. -/
theorem fieldOf_withWidth (directive : Directive) (width : Nat) (value : Value) (text : String) :
    (directive.withWidth (some width)).fieldOf (directive.forced value) text =
      directive.fill width value
        ((directive.withWidth none).fieldOf (directive.forced value) text) := by
  by_cases hconversion : directive.conversion = .json
  · have hplain : (directive.withWidth none).conversion = .json := hconversion
    have hwide : (directive.withWidth (some width)).conversion = .json := hconversion
    rw [fieldOf_json hplain, fieldOf_json hwide, fill, if_pos hconversion]
  · have hwide : (directive.withWidth (some width)).fieldOf (directive.forced value) text =
        String.ofList (filledUp directive.paddingChar width
          (directive.fillingPlace value (directive.written value text))
          (directive.written value text)) :=
      @fieldOf_eq (directive.withWidth (some width)) hconversion value text
    rw [fieldOf_withWidth_none hconversion, hwide, fill, if_neg hconversion, String.toList_ofList]

section Width

variable [Json.Writer] {directive : Directive} {value : Value}

/-- An argument is refused with any width. -/
theorem format_withWidth_of_not_accepts (width : Option Nat)
    (haccepts : directive.accepts (directive.forced value) = false) :
    (directive.withWidth width).format value =
      .error (.typeMismatch (directive.forced value).kind) :=
  @format_of_not_accepts (directive.withWidth width) value _ haccepts

/-- With any width an argument that is taken is written with its text, if it has one. -/
theorem format_withWidth (width : Option Nat)
    (haccepts : directive.accepts (directive.forced value) = true) :
    (directive.withWidth width).format value =
      (directive.conversion.textOf directive.precision (directive.forced value)).map
        ((directive.withWidth width).fieldOf (directive.forced value)) :=
  @format_eq _ (directive.withWidth width) value haccepts

/-- With a width an argument is written, or refused, as it is without one, and the text is filled
up. -/
theorem format_width (directive : Directive) (width : Nat) (value : Value) :
    (directive.withWidth (some width)).format value =
      ((directive.withWidth none).format value).map (directive.fill width value) := by
  cases haccepts : directive.accepts (directive.forced value) with
  | false =>
      rw [format_withWidth_of_not_accepts none haccepts, format_withWidth_of_not_accepts _ haccepts]
      rfl
  | true =>
      rw [format_withWidth none haccepts, format_withWidth _ haccepts]
      cases directive.conversion.textOf directive.precision (directive.forced value) with
      | error error => rfl
      | ok text => exact congrArg Except.ok (fieldOf_withWidth directive width value text)

/-- A text that is not a JSON text starts with the sign that the directive writes. -/
theorem eq_cons_of_format {text : String}
    (hformat : (directive.withWidth none).format value = .ok text)
    (hconversion : directive.conversion ≠ .json)
    (hsign : directive.writesSign (directive.forced value) = true) :
    ∃ rest, text.toList = signOf (directive.forced value) :: rest := by
  cases haccepts : directive.accepts (directive.forced value) with
  | false =>
      rw [format_withWidth_of_not_accepts none haccepts] at hformat
      cases hformat
  | true =>
      rw [format_withWidth none haccepts] at hformat
      cases hbody : directive.conversion.textOf directive.precision (directive.forced value) with
      | error error =>
          rw [hbody] at hformat
          cases hformat
      | ok body =>
          rw [hbody] at hformat
          obtain rfl := Except.ok.inj hformat
          rw [fieldOf_withWidth_none hconversion, String.toList_ofList]
          exact written_eq_cons hsign body

end Width

section Render

variable [Json.Writer] {directive : Directive} {arguments : List Value} {taken : Nat}
  (hwidth : directive.width.getD 0 ≤ widthLimit)

include hwidth

/-- With a width up to the limit, what is written is the argument that is found. -/
theorem render_of_ok {value : Value} (hresolve : directive.resolve arguments taken = .ok value) :
    directive.render arguments taken = directive.format value := by
  unfold render
  rw [if_neg (Nat.not_lt.2 hwidth), hresolve]

/-- With a width up to the limit, an argument that is not found is the error. -/
theorem render_of_error {error : RenderError}
    (hresolve : directive.resolve arguments taken = .error error) :
    directive.render arguments taken = .error error := by
  unfold render
  rw [if_neg (Nat.not_lt.2 hwidth), hresolve]

end Render

/-- A directive with a width above the limit fails, whatever the arguments. With any other width it
fails as it does without one, and where that one writes a text, it writes the same text with
filling up to the width in one place: behind the text if it is aligned to the left; else behind the
first character if zeros are filled in and this character is a sign that the directive writes
itself; else in front of the text. A JSON text, or one that is wide enough, stays as it is. -/
theorem render_width [Json.Writer] (directive : Directive) (width : Nat) (arguments : List Value)
    (taken : Nat) :
    let plain := directive.withWidth none
    let wide := directive.withWidth (some width)
    (widthLimit < width → wide.render arguments taken = .error (.widthTooLarge width)) ∧
    (width ≤ widthLimit →
      (∀ error, wide.render arguments taken = .error error ↔
        plain.render arguments taken = .error error) ∧
      ∀ text, plain.render arguments taken = .ok text →
        ∃ value, directive.resolve arguments taken = .ok value ∧
          wide.render arguments taken = .ok (if directive.conversion = .json then text
            else String.ofList (filledUp directive.paddingChar width
              (directive.fillingPlace value text.toList) text.toList)) ∧
          (width ≤ text.length → wide.render arguments taken = .ok text) ∧
          (directive.conversion ≠ .json → directive.writesSign (directive.forced value) = true →
            ∃ rest, text.toList = signOf (directive.forced value) :: rest)) := by
  intro plain wide
  constructor
  · intro hwidth
    exact if_pos hwidth
  · intro hwidth
    have hnone : plain.width.getD 0 ≤ widthLimit := Nat.zero_le _
    have hsome : wide.width.getD 0 ≤ widthLimit := hwidth
    cases hresolve : directive.resolve arguments taken with
    | error error =>
        have hplain : plain.render arguments taken = .error error := render_of_error hnone hresolve
        have hwide : wide.render arguments taken = .error error := render_of_error hsome hresolve
        rw [hplain, hwide]
        exact ⟨fun _ ↦ Iff.rfl, nofun⟩
    | ok value =>
        have hplain : plain.render arguments taken = plain.format value :=
          render_of_ok hnone hresolve
        have hwide : wide.render arguments taken = wide.format value :=
          render_of_ok hsome hresolve
        have hformat : wide.format value = (plain.format value).map (directive.fill width value) :=
          format_width directive width value
        rw [hplain, hwide, hformat]
        cases htext : plain.format value with
        | error error => exact ⟨fun _ ↦ Iff.rfl, nofun⟩
        | ok text =>
            refine ⟨fun error ↦ iff_of_false nofun nofun, ?_⟩
            intro written hwritten
            cases hwritten
            exact ⟨value, rfl, rfl, fun hwidth ↦ congrArg Except.ok (fill_of_le _ value hwidth),
              eq_cons_of_format htext⟩

/-- Zeros go between the sign of a number and its digits, and another character goes in front. -/
theorem render_width_negative :
    letI := Json.Writer.shortest
    let zeros : Directive := ⟨.next, false, some .zero, false, none, none, .decimal⟩
    let stars : Directive := ⟨.next, false, some (.custom '*'), false, none, none, .decimal⟩
    let arguments : List Value := [.number (Binary64.ofNat 42).neg]
    5 ≤ widthLimit ∧ (zeros.withWidth none).render arguments 0 = .ok "-42" ∧
      (zeros.withWidth (some 5)).render arguments 0 = .ok "-0042" ∧
      (stars.withWidth none).render arguments 0 = .ok "-42" ∧
      (stars.withWidth (some 5)).render arguments 0 = .ok "**-42" := by
  intro zeros stars arguments
  let := Json.Writer.shortest
  have hlimit : 5 ≤ widthLimit := by decide
  have hzeros : (zeros.withWidth none).render arguments 0 = .ok "-42" := by decide +kernel
  have hstars : (stars.withWidth none).render arguments 0 = .ok "-42" := by decide +kernel
  obtain ⟨value, hvalue, hwide, -⟩ :=
    ((render_width zeros 5 arguments 0).2 hlimit).2 "-42" hzeros
  obtain ⟨other, hother, hwide', -⟩ :=
    ((render_width stars 5 arguments 0).2 hlimit).2 "-42" hstars
  cases hvalue
  cases hother
  exact ⟨hlimit, hzeros, hwide.trans (by decide +kernel), hstars, hwide'.trans (by decide +kernel)⟩

end Directive

end Numbering
