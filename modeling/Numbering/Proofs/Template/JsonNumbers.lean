import Numbering.Proofs.Json.NumberWriters
import Numbering.Proofs.Numeral.PlainLayout
import Numbering.Proofs.Template.Padding

/-!
# Numbers in rendered JSON

The JSON conversion writes a number, alone or anywhere in a container, as it is written in plain
text exactly when the number is an integer below `2 ^ 53` or the library writes it so
(`Directive.render_json_numbers`). A library that shows a point or an exponent in each of its texts
never does for an integer from `2 ^ 53` up to `10 ^ 21`, of which the plain text has digits only.
The width and the other options of the directive do not matter, and the precision is the
indentation.
-/

namespace Numbering

open Digits Literal Json

namespace Json

/-- A character of a literal does not stand behind a value. -/
theorem isTokenChar_of_isLiteralChar {char : Char} (hchar : IsLiteralChar char) :
    isTokenChar char = true := by
  by_contra hother
  simp only [isTokenChar, isSpace, Bool.not_eq_true, Bool.not_eq_false', Bool.or_eq_true,
    decide_eq_true_eq] at hother
  rcases hother with (((((rfl | rfl) | rfl) | rfl) | rfl) | rfl) | rfl <;>
    exact absurd hchar (by decide)

/-- Nor does a character of null. -/
theorem isTokenChar_of_mem_null {char : Char} (hchar : char ∈ "null".toList) :
    isTokenChar char = true :=
  List.all_eq_true.1 (rfl : "null".toList.all isTokenChar = true) char hchar

/-- The characters of a token are those of literals. -/
theorem isLiteralChar_of_numberSpelling {token : NumberToken} {text : List Char}
    (hspelling : NumberSpelling token text) : ∀ char ∈ text, IsLiteralChar char := by
  obtain ⟨negative, hne, hdigits, hlead, hpoint, hmark⟩ := hspelling
  intro char hchar
  rcases List.mem_append.1 hchar with hsign | hchar
  · exact isLiteralChar_of_mem_signText hsign
  rcases List.mem_append.1 hchar with hwhole | hchar
  · exact .inl (isDigit_of_mem_chars hdigits hwhole)
  rcases List.mem_append.1 hchar with hfraction | hmarked
  · cases hpoint with
    | absent => cases hfraction
    | point hsome hplaces =>
        rcases List.mem_cons.1 hfraction with rfl | hplace
        · exact .inr List.mem_cons_self
        · exact .inl (isDigit_of_mem_chars hplaces hplace)
  · exact hmark.isLiteralChar hmarked

/-- In every text that the library writes for a finite number there is a point or an exponent. -/
def Writer.MarksFloats [Writer] : Prop :=
  ∀ (number : Binary64) (text : List Char), number.isFinite = true →
    isSmallInteger number = false → Writer.float number = .ok text →
    '.' ∈ text ∨ 'e' ∈ text ∨ 'E' ∈ text

/-- The positional layout shows the point of a whole number. -/
theorem point_mem_positionalWithPoint (decimal : Decimal) :
    '.' ∈ Numeral.positionalWithPoint decimal := by
  have hlength : (chars decimal.digits).length = decimal.digits.length := List.length_map _
  unfold Numeral.positionalWithPoint Numeral.positional
  dsimp only
  rw [hlength]
  split
  · exact List.mem_append_right _ List.mem_cons_self
  · split
    · exact List.mem_append_right _ List.mem_cons_self
    · exact List.mem_cons_of_mem _ List.mem_cons_self

/-- The scientific layout has an exponent. -/
theorem e_mem_scientific (digits : List Char) (exponent : Int) :
    'e' ∈ Numeral.scientific digits exponent := by
  refine List.mem_append_right _ ?_
  cases exponent <;> exact List.mem_cons_self

/-- The shortest digits are written with a point or an exponent. -/
theorem Writer.marksFloats_shortest :
    letI := Writer.shortest
    Writer.MarksFloats := by
  intro number text hfinite _ htext
  obtain rfl := Except.ok.inj htext
  cases number with
  | nan => cases hfinite
  | infinity _ => cases hfinite
  | finite negative magnitude =>
      unfold Numeral.floating
      dsimp only
      split
      · exact .inl (List.mem_append_right _ (point_mem_positionalWithPoint _))
      · exact .inr (.inl (List.mem_append_right _ (e_mem_scientific _ _)))

/-- The plain text of an integer from `2 ^ 53` up to `10 ^ 21` shows neither a point nor an
exponent, so that the library writes it in another way. -/
theorem Writer.MarksFloats.float_ne_plain [Writer] (hwriter : Writer.MarksFloats)
    {number : Binary64} (hinteger : number.isInteger = true) (hlarge : 2 ^ 53 ≤ |number.toRat|)
    (hbound : |number.toRat| < 10 ^ 21) :
    isSmallInteger number = false ∧ Writer.float number ≠ .ok (Numeral.plain number) := by
  have hvalue := hasValue_of_isInteger hinteger
  have hsmall : isSmallInteger number = false := by
    cases number with
    | nan => cases hinteger
    | infinity _ => cases hinteger
    | finite negative magnitude =>
        rw [Bool.eq_false_iff, Ne, isSmallInteger_finite_iff, not_and, not_lt]
        rw [Binary64.abs_toRat_finite] at hlarge
        exact fun _ ↦ hlarge
  refine ⟨hsmall, fun htext ↦ ?_⟩
  obtain ⟨digits, hrun, hplain⟩ :=
    Numeral.exists_isRun_plain hvalue.isFinite hvalue.toRat hbound
  have hdigits : ∀ char ∈ Numeral.plain number, char = '-' ∨ IsDigit char := by
    intro char hchar
    rw [hplain] at hchar
    rcases List.mem_append.1 hchar with hsign | hdigit
    · split at hsign
      · exact .inl (List.mem_singleton.1 hsign)
      · cases hsign
    · exact .inr (hrun.isDigit char hdigit)
  rcases hwriter number _ hvalue.isFinite hsmall htext with hpoint | hlower | hupper
  · exact absurd (hdigits _ hpoint) (by decide)
  · exact absurd (hdigits _ hlower) (by decide)
  · exact absurd (hdigits _ hupper) (by decide)

end Json

namespace Numeral

/-- The plain text of a finite number, and null for the other ones. -/
def plainOrNull (number : Binary64) : List Char :=
  if number.isFinite then plain number else "null".toList

/-- A small integer is written in JSON as in plain text. -/
theorem integer_eq_plain {number : Binary64} (hsmall : isSmallInteger number = true) :
    integer number = plain number := by
  rw [integer_eq, plain_of_hasValue (hasValue_of_isSmallInteger hsmall)
    (natAbs_toInt_le_of_isSmallInteger hsmall), toList_toString]
  by_cases hbelow : number.toInt < 0
  · rw [decide_eq_true hbelow, if_pos hbelow]
    rfl
  · rw [decide_eq_false hbelow, if_neg hbelow]
    rfl

/-- A finite number is plain in JSON when it is a small integer or the library writes it so. -/
theorem number_eq_plain_iff [Writer] {amount : Binary64} (hfinite : amount.isFinite = true) :
    number amount = .ok (plain amount) ↔
      isSmallInteger amount = true ∨ Writer.float amount = .ok (plain amount) := by
  rw [number, if_pos hfinite]
  cases hsmall : isSmallInteger amount with
  | true => exact iff_of_true (congrArg Except.ok (integer_eq_plain hsmall)) (.inl rfl)
  | false => exact (or_iff_right Bool.false_ne_true).symm

/-- Any number is plain or null in JSON when it is plain or not finite. -/
theorem number_eq_plainOrNull_iff [Writer] (amount : Binary64) :
    number amount = .ok (plainOrNull amount) ↔ (amount.isFinite = true →
      isSmallInteger amount = true ∨ Writer.float amount = .ok (plain amount)) := by
  unfold plainOrNull
  cases hfinite : amount.isFinite with
  | true =>
      rw [if_pos rfl, number_eq_plain_iff hfinite]
      exact ⟨fun hplain _ ↦ hplain, fun hplain ↦ hplain rfl⟩
  | false =>
      rw [if_neg Bool.false_ne_true]
      exact iff_of_true (number_of_isFinite_eq_false hfinite) fun h ↦ nomatch h

/-- A library that writes what reads back writes tokens. -/
theorem writesTokens_writtenOrNull [Writer] (hwriter : Writer.ReadsBack) :
    Value.WritesTokens Value.writtenOrNull := by
  intro amount char hchar
  cases hfinite : amount.isFinite with
  | true =>
      obtain ⟨text, htext, token, hspelling, -⟩ := hwriter.exists_spells hfinite
      rw [Value.writtenOrNull, htext] at hchar
      exact isTokenChar_of_isLiteralChar (isLiteralChar_of_numberSpelling hspelling char hchar)
  | false =>
      rw [Value.writtenOrNull, number_of_isFinite_eq_false hfinite] at hchar
      exact isTokenChar_of_mem_null hchar

/-- Plain texts are tokens. -/
theorem writesTokens_plainOrNull : Value.WritesTokens plainOrNull := by
  intro number char hchar
  unfold plainOrNull at hchar
  split at hchar
  · rename_i hfinite
    exact isTokenChar_of_isLiteralChar (isLiteralChar_of_mem_plain hfinite char hchar)
  · exact isTokenChar_of_mem_null hchar

end Numeral

namespace Directive

variable [Json.Writer] {directive : Directive} {arguments : List Value} {taken : Nat}
  {value : Value}

/-- What the JSON conversion renders, as long as the library writes it. -/
theorem render_json (hjson : directive.conversion = .json)
    (hwidth : directive.width.getD 0 ≤ widthLimit)
    (hvalue : directive.resolve arguments taken = .ok value) :
    directive.render arguments taken =
      (value.force.jsonAt (min (directive.precision.getD 0) 10) 0).mapError .json := by
  have haccepts : directive.accepts (directive.forced value) = true := by
    rw [accepts, hjson]
    rfl
  have hforced : directive.forced value = value.force := by
    rw [forced, hjson]
    rfl
  rw [render_of_ok hwidth hvalue, format_eq haccepts, hforced, hjson]
  show ((value.force.json (directive.precision.getD 0)).mapError RenderError.json).map
    (directive.fieldOf value.force) = _
  rw [Value.json]
  cases value.force.jsonAt (min (directive.precision.getD 0) 10) 0 with
  | error message => rfl
  | ok text => exact congrArg Except.ok (fieldOf_json hjson _ text)

/-- What the JSON conversion renders to is the text of a value. -/
theorem render_json_eq_ok_iff (hjson : directive.conversion = .json)
    (hwidth : directive.width.getD 0 ≤ widthLimit)
    (hvalue : directive.resolve arguments taken = .ok value) {text : String} :
    directive.render arguments taken = .ok text ↔
      value.force.jsonAt (min (directive.precision.getD 0) 10) 0 = .ok text := by
  rw [render_json hjson hwidth hvalue]
  cases value.force.jsonAt (min (directive.precision.getD 0) 10) 0 with
  | error message => exact iff_of_false nofun nofun
  | ok written => exact ⟨fun hsame ↦ by cases hsame; rfl, fun hsame ↦ by cases hsame; rfl⟩

/-- Without a precision and a width, the text conversion writes a number in plain text. -/
theorem format_text_number {textual : Directive} (htext : textual.conversion = .text)
    (hprecision : textual.precision = none) (hwidth : textual.width = none) (number : Binary64) :
    textual.format (.number number) = .ok (String.ofList (Numeral.plain number)) := by
  have hsigned : textual.conversion.isSigned = false := by rw [htext]; rfl
  have hconversion : textual.conversion ≠ .json := by rw [htext]; decide
  have hplain : textual.conversion.textOf textual.precision (.number number) =
      .ok (String.ofList (Numeral.plain number)) := by
    rw [htext, hprecision]
    rfl
  rw [format_number_of_not_isSigned hsigned hconversion hplain, padded_of_width_none hwidth,
    List.nil_append, String.toList_ofList]

/-- A number is rendered by the text conversion in plain text, and by the JSON conversion in the
same way exactly if it is an integer below `2 ^ 53` or the library writes it so. Any other value is
rendered by the JSON conversion with all its numbers in plain text exactly if each of them is such a
number. With a library that shows a point or an exponent in all its texts, no integer from `2 ^ 53`
up to `10 ^ 21` is, alone or anywhere in a container. -/
theorem render_json_numbers {textual : Directive} (hreadsBack : Json.Writer.ReadsBack)
    (hmarked : Json.Writer.MarksFloats) (hjson : directive.conversion = .json)
    (hwidth : directive.width.getD 0 ≤ widthLimit)
    (hvalue : directive.resolve arguments taken = .ok value)
    (htext : textual.conversion = .text) (hprecision : textual.precision = none)
    (hnone : textual.width = none) :
    (∀ number, value = .number number →
      textual.format value = .ok (String.ofList (Numeral.plain number)) ∧
      (number.isFinite = true →
        (directive.render arguments taken = textual.format value ↔
          Json.isSmallInteger number = true ∨
            Json.Writer.float number = .ok (Numeral.plain number)))) ∧
    (directive.render arguments taken =
        .ok (value.force.jsonWith Numeral.plainOrNull (min (directive.precision.getD 0) 10) 0) ↔
      ∀ number, .number number ∈ value.force.parts → number.isFinite = true →
        Json.isSmallInteger number = true ∨
          Json.Writer.float number = .ok (Numeral.plain number)) ∧
    ∀ number, .number number ∈ value.force.parts → number.isInteger = true →
      2 ^ 53 ≤ |number.toRat| → |number.toRat| < 10 ^ 21 →
        directive.render arguments taken ≠
          .ok (value.force.jsonWith Numeral.plainOrNull (min (directive.precision.getD 0) 10)
            0) := by
  have hall : directive.render arguments taken =
        .ok (value.force.jsonWith Numeral.plainOrNull (min (directive.precision.getD 0) 10) 0) ↔
      ∀ number, .number number ∈ value.force.parts → number.isFinite = true →
        Json.isSmallInteger number = true ∨
          Json.Writer.float number = .ok (Numeral.plain number) := by
    rw [render_json_eq_ok_iff hjson hwidth hvalue, Value.jsonAt_eq_jsonWith_iff
      (Numeral.writesTokens_writtenOrNull hreadsBack) Numeral.writesTokens_plainOrNull]
    exact forall₂_congr fun number _ ↦ Numeral.number_eq_plainOrNull_iff number
  refine ⟨?_, hall, ?_⟩
  · rintro number rfl
    have hplain := format_text_number htext hprecision hnone number
    refine ⟨hplain, fun hfinite ↦ ?_⟩
    rw [hplain, render_json_eq_ok_iff hjson hwidth hvalue, ← Numeral.number_eq_plain_iff hfinite]
    show (Json.number number).map String.ofList = _ ↔ _
    cases Json.number number with
    | error message => exact iff_of_false nofun nofun
    | ok written =>
        rw [Except.map, Except.ok.injEq, Except.ok.injEq]
        exact ⟨fun hsame ↦ String.ofList_injective hsame, congrArg String.ofList⟩
  · intro number hnumber hinteger hlarge hbound hrender
    obtain ⟨hsmall, hfloat⟩ := hmarked.float_ne_plain hinteger hlarge hbound
    rcases hall.1 hrender number hnumber (Json.hasValue_of_isInteger hinteger).isFinite with
      hwritten | hwritten
    · rw [hsmall] at hwritten
      cases hwritten
    · exact hfloat hwritten

omit [Json.Writer] in
/-- An array with a fraction, a number with an exponent and an infinity, one item on a line, and one
with the first integer that is not written as such. -/
theorem render_json_numbers_array :
    letI := Json.Writer.shortest
    let directive : Directive := ⟨.position 2, true, some .zero, false, some 40, some 1, .json⟩
    let textual : Directive := ⟨.next, false, none, false, none, none, .text⟩
    let value : Value := .array [.number (.ofDecimal true 25 (-2)), .number (.ofDecimal false 1 21),
      .object [("limit", .number (.infinity true))]]
    let large : Value := .array [.number (.ofNat (2 ^ 53))]
    (Json.Writer.ReadsBack ∧ Json.Writer.MarksFloats ∧ directive.conversion = .json ∧
      directive.width.getD 0 ≤ widthLimit ∧ directive.resolve [.null, value] 7 = .ok value ∧
      textual.conversion = .text ∧ textual.precision = none ∧ textual.width = none) ∧
    directive.render [.null, value] 7 = .ok (value.jsonWith Numeral.plainOrNull 1 0) ∧
    directive.render [.null, large] 7 ≠ .ok (large.jsonWith Numeral.plainOrNull 1 0) := by
  intro directive textual value large
  let := Json.Writer.shortest
  have hreadsBack := Json.Writer.readsBack_shortest
  have hmarked := Json.Writer.marksFloats_shortest
  have hwidth : directive.width.getD 0 ≤ widthLimit := by decide
  refine ⟨⟨hreadsBack, hmarked, rfl, hwidth, rfl, rfl, rfl, rfl⟩, ?_, ?_⟩
  · obtain ⟨-, hall, -⟩ := @render_json_numbers _ directive [.null, value] 7 value textual
      hreadsBack hmarked rfl hwidth rfl rfl rfl rfl
    refine hall.2 fun number hnumber hfinite ↦ .inr ?_
    simp only [value, Value.force, Value.parts, Value.partsOfItems, Value.partsOfEntries,
      List.cons_append, List.nil_append, List.mem_cons, List.not_mem_nil, reduceCtorEq,
      Value.number.injEq, false_or, or_false] at hnumber
    rcases hnumber with rfl | rfl | rfl
    · decide +kernel
    · decide +kernel
    · cases hfinite
  · obtain ⟨-, -, hlarge⟩ := @render_json_numbers _ directive [.null, large] 7 large textual
      hreadsBack hmarked rfl hwidth rfl rfl rfl rfl
    have hvalue : (Binary64.ofNat (2 ^ 53)).toRat = 2 ^ 53 := by decide +kernel
    exact hlarge (.ofNat (2 ^ 53)) (by simp [large, Value.force, Value.parts, Value.partsOfItems])
      (by decide +kernel) (by rw [hvalue]; norm_num) (by rw [hvalue]; norm_num)

omit [Json.Writer] in
/-- From `2 ^ 53` on the JSON text of an integer has a fraction, alone and in an array, and the
plain text has none. -/
theorem render_json_numbers_differ :
    letI := Json.Writer.shortest
    let directive : Directive := ⟨.next, false, none, false, none, none, .json⟩
    let textual : Directive := ⟨.next, false, none, false, none, none, .text⟩
    let large : Value := .number (.ofNat (2 ^ 53))
    directive.render [large] 0 = .ok "9007199254740992.0" ∧
      directive.render [.array [large]] 0 = .ok "[9007199254740992.0]" ∧
      textual.render [large] 0 = .ok "9007199254740992" := by
  decide +kernel

end Directive

end Numbering
