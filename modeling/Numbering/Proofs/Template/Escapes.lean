import Numbering.Json.Writing
import Numbering.Proofs.Template.Concatenation

/-!
# Escaped texts

Doubling every percent sign of a text gives a template without directives that renders to the text
(`exists_parse_escape`). Conversely a template without directives renders to its literal text, which
is its source with the doubled percent signs made single again, and the source is that text escaped
(`Decomposition.escapedChars_literalText`). So escaping is exact in both directions
(`render_escaped_text`).
-/

namespace Numbering

namespace Template

/-! ## Doubling and halving percent signs -/

/-- A percent sign is written twice and any other character once. -/
def escapedChar (char : Char) : List Char := if char = '%' then ['%', '%'] else [char]

/-- The characters of a text with every percent sign doubled. -/
def escapedChars (chars : List Char) : List Char := chars.flatMap escapedChar

/-- The characters of a text with every two percent signs in a row made one, from the left. -/
def unescapedChars : List Char → List Char
  | '%' :: '%' :: rest => '%' :: unescapedChars rest
  | char :: rest => char :: unescapedChars rest
  | [] => []

/-- A text with every percent sign doubled. -/
def escape (text : String) : String := String.ofList (escapedChars text.toList)

/-- A text with every two percent signs in a row made one, from the left. -/
def unescape (text : String) : String := String.ofList (unescapedChars text.toList)

/-- A text is escaped part by part. -/
@[simp] theorem escapedChars_append (front back : List Char) :
    escapedChars (front ++ back) = escapedChars front ++ escapedChars back :=
  List.flatMap_append

/-- Any other character than a percent sign stands for itself. -/
theorem unescapedChars_cons {char : Char} (hchar : char ≠ '%') (rest : List Char) :
    unescapedChars (char :: rest) = char :: unescapedChars rest := by
  rw [unescapedChars]
  exact fun _ heq _ ↦ absurd heq hchar

/-- Halving undoes doubling. -/
theorem unescapedChars_escapedChars (chars : List Char) :
    unescapedChars (escapedChars chars) = chars := by
  induction chars with
  | nil => rfl
  | cons char chars ih =>
      rw [escapedChars, List.flatMap_cons, ← escapedChars, escapedChar]
      split
      · rename_i hpercent
        subst hpercent
        show '%' :: unescapedChars (escapedChars chars) = '%' :: chars
        rw [ih]
      · rename_i hother
        show unescapedChars (char :: escapedChars chars) = char :: chars
        rw [unescapedChars_cons hother, ih]

/-- A text without percent signs stays as it is. -/
theorem escapedChars_of_not_mem {chars : List Char} (hnone : '%' ∉ chars) :
    escapedChars chars = chars := by
  induction chars with
  | nil => rfl
  | cons char chars ih =>
      rw [List.mem_cons, not_or] at hnone
      rw [escapedChars, List.flatMap_cons, ← escapedChars, ih hnone.2, escapedChar,
        if_neg (Ne.symm hnone.1), List.singleton_append]

/-! ## Literal text -/

/-- The text of the segments that are no directives. -/
def literalText : List Segment → String
  | [] => ""
  | .literal text :: segments => text ++ literalText segments
  | .directive _ :: segments => literalText segments

/-- The literal text of segments is put together part by part. -/
theorem literalText_append (first second : List Segment) :
    literalText (first ++ second) = literalText first ++ literalText second := by
  induction first with
  | nil => exact String.empty_append.symm
  | cons segment first ih =>
      cases segment with
      | literal text =>
          rw [List.cons_append, literalText, literalText, ih, String.append_assoc]
      | directive directive => rw [List.cons_append, literalText, literalText, ih]

/-- Segments that are put together have the same text. -/
theorem Joined.literalText {first second whole : List Segment}
    (hjoined : Joined first second whole) :
    Template.literalText whole = Template.literalText first ++ Template.literalText second := by
  cases hjoined with
  | apart => exact literalText_append first second
  | fused front text other back =>
      simp only [literalText_append, Template.literalText, String.append_assoc, String.append_empty]

/-- Without directives all that is rendered is the literal text. -/
theorem renderSegments_of_directivesOf_eq_nil [Json.Writer] {segments : List Segment}
    (hsegments : directivesOf segments = []) (arguments : List Value) (taken : Nat) :
    renderSegments arguments taken segments = .ok (literalText segments) := by
  induction segments with
  | nil => rfl
  | cons segment segments ih =>
      cases segment with
      | literal text =>
          rw [directivesOf_literal] at hsegments
          rw [renderSegments_literal, ih hsegments]
          rfl
      | directive directive => simp at hsegments

/-- Without directives no references are mixed. -/
theorem unmixed_of_directivesOf_eq_nil {segments : List Segment}
    (hsegments : directivesOf segments = []) : Unmixed segments := by
  rintro ⟨⟨directive, path, hmem, -⟩, -⟩
  rw [← mem_directivesOf, hsegments] at hmem
  cases hmem

/-! ## Templates without directives -/

/-- An escaped character is read as the character. -/
theorem parse_escapedChar (char : Char) :
    parse (String.ofList (escapedChar char)) =
      .ok ⟨String.ofList (escapedChar char), [.literal (String.singleton char)]⟩ := by
  have hspelling : Segment.Spelling (.literal (String.singleton char)) (escapedChar char) := by
    rw [escapedChar]
    split
    · rename_i hpercent
      subst hpercent
      exact .escape
    · rename_i hother
      exact .run [char] (by simp) (by simpa using Ne.symm hother)
  refine parse_eq_ok_iff.2 ⟨rfl, [⟨_, escapedChar char⟩], ⟨?_, ?_, ?_⟩, rfl, ?_⟩
  · simp
  · simpa using hspelling
  · simp
  · exact unmixed_of_directivesOf_eq_nil rfl

/-- An escaped text is a template without directives whose literal text is the text. -/
theorem exists_parse_escape (chars : List Char) :
    ∃ template, parse (String.ofList (escapedChars chars)) = .ok template ∧
      directivesOf template.segments = [] ∧
      literalText template.segments = String.ofList chars := by
  -- One more character in front is one more template in front.
  induction chars with
  | nil => exact ⟨⟨"", []⟩, by decide +kernel, rfl, rfl⟩
  | cons char chars ih =>
      obtain ⟨back, hback, hdirectives, htext⟩ := ih
      have hunmixed : Unmixed ([.literal (String.singleton char)] ++ back.segments) :=
        unmixed_of_directivesOf_eq_nil hdirectives
      obtain ⟨whole, hwhole, hjoined⟩ :=
        exists_parse_append (parse_escapedChar char) hback hunmixed
      refine ⟨whole, ?_, ?_, ?_⟩
      · rw [escapedChars, List.flatMap_cons, String.ofList_append]
        exact hwhole
      · rw [hjoined.directivesOf, hdirectives]
        rfl
      · rw [hjoined.literalText, htext, literalText, literalText, String.append_empty,
          String.ofList_cons]

/-- The pieces of a text without directives spell their literal text, escaped. -/
theorem Decomposition.escapedChars_literalText {pieces : List Piece} {chars : List Char}
    (hpieces : Decomposition pieces chars)
    (hdirectives : directivesOf (pieces.map Piece.segment) = []) :
    escapedChars (Template.literalText (pieces.map Piece.segment)).toList = chars := by
  rw [← hpieces.whole]
  have hspelling := hpieces.spelling
  clear hpieces
  induction pieces with
  | nil => rfl
  | cons piece pieces ih =>
      obtain ⟨segment, spelled⟩ := piece
      rw [List.forall_mem_cons] at hspelling
      have hpiece : segment.Spelling spelled := hspelling.1
      cases segment with
      | directive directive => simp at hdirectives
      | literal text =>
          rw [List.map_cons, directivesOf_literal] at hdirectives
          have hfirst : escapedChars text.toList = spelled := by
            cases hpiece with
            | run _ _ hnone => rw [String.toList_ofList, escapedChars_of_not_mem hnone]
            | escape => rfl
          rw [List.map_cons, literalText, String.toList_append, escapedChars_append, hfirst,
            ih hdirectives hspelling.2, List.flatMap_cons]

/-- A text with its percent signs doubled is a template without directives that renders to the text,
whatever the arguments are. Conversely a template without directives renders to its source with
every two percent signs made one, from the left, and doubling the percent signs of that gives the
source again. -/
theorem render_escaped_text [Json.Writer] :
    (∀ text, ∃ template, parse (escape text) = .ok template ∧ template.directives = [] ∧
      ∀ arguments, template.render arguments = .ok text) ∧
    ∀ source template, parse source = .ok template → template.directives = [] →
      (∀ arguments, template.render arguments = .ok (unescape source)) ∧
        escape (unescape source) = source := by
  refine ⟨fun text ↦ ?_, fun source template hparse hdirectives ↦ ?_⟩
  · obtain ⟨template, hparse, hdirectives, htext⟩ := exists_parse_escape text.toList
    refine ⟨template, hparse, hdirectives, fun arguments ↦ ?_⟩
    rw [render, renderSegments_of_directivesOf_eq_nil hdirectives, htext, String.ofList_toList]
  · obtain ⟨rfl, pieces, hpieces, hsegments, -⟩ := parse_eq_ok_iff.1 hparse
    rw [directives_eq] at hdirectives
    have hescaped : escapedChars (literalText template.segments).toList =
        template.source.toList := by
      rw [← hsegments] at hdirectives ⊢
      exact hpieces.escapedChars_literalText hdirectives
    have hunescaped : unescape template.source = literalText template.segments := by
      rw [unescape, ← hescaped, unescapedChars_escapedChars, String.ofList_toList]
    refine ⟨fun arguments ↦ ?_, ?_⟩
    · rw [render, renderSegments_of_directivesOf_eq_nil hdirectives, hunescaped]
    · rw [hunescaped, escape, hescaped, String.ofList_toList]

/-- Percent signs stand in front of what could be a directive, and at the end. -/
theorem render_escaped_text_runs :
    letI := Json.Writer.shortest
    (∃ template, parse "%%%%05d 100%%" = .ok template ∧ template.directives = [] ∧
      ∀ arguments, template.render arguments = .ok "%%05d 100%") ∧
    escape "%%05d 100%" = "%%%%05d 100%%" := by
  let := Json.Writer.shortest
  obtain ⟨hescape, hunescape⟩ := render_escaped_text
  obtain ⟨template, hparse, hdirectives, -⟩ := hescape "%%05d 100%"
  have hsource : escape "%%05d 100%" = "%%%%05d 100%%" := by decide +kernel
  rw [hsource] at hparse
  obtain ⟨hrender, hback⟩ := hunescape _ template hparse hdirectives
  have hhalved : unescape "%%%%05d 100%%" = "%%05d 100%" := by decide +kernel
  rw [hhalved] at hrender hback
  exact ⟨⟨template, hparse, hdirectives, hrender⟩, hback⟩

end Template

end Numbering
