import Numbering.CommandLine.StandardLibraries
import Numbering.Proofs.MarkedText.Places
import Numbering.Proofs.NumberingPass.Pass

/-!
# Marked texts through their edits

A marked text is edited by replacing its marks and by numbering passes, any number of times, and
some of these edits fail. Whatever an edit does, it comes to putting some texts in the place of the
marks (`TextEdit.exists_replace_apply`), and so does a whole history of edits
(`TextEdit.exists_replace_applyAll`). So text and ranges stay valid as they are seen from outside,
with as many ranges as there were at the start (`TextEdit.marking_kept`).
-/

namespace Numbering

open MarkedText

/-- An edit of a marked text: texts are put in the place of the marks, or a pass is made, by
settings, by a line of user input, or by one after the other. Every pass brings the cache that it
reads its template with. -/
inductive TextEdit where
  | replace (texts : List String)
  | insert (settings : Settings) (cache : TemplateCache)
  | override (line : Option String) (cache : TemplateCache)
  | number (defaults : Settings) (line : Option String) (cache : TemplateCache)

namespace TextEdit

variable [Json.Writer]

/-- The text after an edit. One that fails leaves it as it is. -/
def apply : TextEdit → MarkedText → MarkedText
  | .replace texts, text =>
      match text.replace texts with
      | .ok edited => edited
      | .error _ => text
  | .insert settings cache, text => (settings.insert cache text).text
  | .override line cache, text => (Override.insert line cache text).text
  | .number defaults line cache, text => (numberText defaults line cache text).2.text

/-- The text after some edits, one after the other. -/
def applyAll (edits : List TextEdit) (text : MarkedText) : MarkedText :=
  edits.foldl (fun text edit ↦ edit.apply text) text

/-- The ways to come by a marked text, with the ranges of its marks: ranges that are given in any
order, the matches of a pattern, and places in order, whoever found them. -/
inductive Begins (text : String) : List ByteRange → MarkedText → Prop where
  | ofRanges {given : List ByteRange} {marked : MarkedText}
      (hbuilt : MarkedText.ofRanges text given = .ok marked) :
      Begins text (given.mergeSort precedes) marked
  | ofMatches (finder : Finder) :
      Begins text (matchRanges text finder) (MarkedText.ofMatches text finder)
  | ofPlaces {places : List (Nat × Nat)} (hplaces : InOrder text.toList.length 0 places) :
      Begins text (places.map (placeRange text.toList)) (MarkedText.ofPlaces 0 text.toList places)

omit [Json.Writer] in
/-- A marked text that begins has the text it is made of, and its marks have the given ranges. -/
theorem Begins.text_ranges {text : String} {ranges : List ByteRange} {start : MarkedText}
    (hstart : Begins text ranges start) : start.text = text ∧ start.ranges = ranges := by
  cases hstart with
  | ofRanges hbuilt => exact text_ranges_of_ofRanges hbuilt
  | ofMatches finder => exact ⟨text_ofMatches text finder, ranges_ofMatches text finder⟩
  | ofPlaces hplaces => exact ⟨text_ofPlaces text _, ranges_ofPlaces hplaces⟩

/-! ## One edit -/

variable {text edited after : MarkedText}

omit [Json.Writer] in
/-- Putting back the marks is an edit that changes nothing. -/
theorem exists_replace_self (text : MarkedText) : ∃ texts, text.replace texts = .ok text := by
  have hlength : text.marks.length = text.size := List.length_map _
  refine ⟨text.marks, ?_⟩
  rw [replace_eq_ok hlength, marks, replacePieces_marks]

omit [Json.Writer] in
/-- Of two replacements the second counts. -/
theorem exists_replace_trans (hfirst : ∃ texts, text.replace texts = .ok edited)
    (hsecond : ∃ texts, edited.replace texts = .ok after) :
    ∃ texts, text.replace texts = .ok after := by
  obtain ⟨texts, hfirst⟩ := hfirst
  obtain ⟨others, hsecond⟩ := hsecond
  obtain ⟨hlength, rfl⟩ := replace_eq_ok_iff.1 hfirst
  obtain ⟨hothers, rfl⟩ := replace_eq_ok_iff.1 hsecond
  have hsize : others.length = text.size := hothers.trans (length_replacePieces hlength)
  refine ⟨others, ?_⟩
  rw [replace_eq_ok hsize, replacePieces_replacePieces others hlength]

/-- A pass puts its elements in the place of the marks, or fails and changes nothing. -/
theorem exists_replace_insert (settings : Settings) (cache : TemplateCache) (text : MarkedText) :
    ∃ texts, text.replace texts = .ok (settings.insert cache text).text := by
  unfold Settings.insert
  dsimp only
  split
  · exact exists_replace_self text
  · split
    · exact exists_replace_self text
    · rename_i filled hfill
      obtain ⟨texts, hrender, rfl⟩ := Settings.fill_eq_ok_iff.1 hfill
      exact ⟨texts, replace_eq_ok (NumberSequence.length_of_renderAll hrender)⟩

/-- An override is a pass, or changes nothing. -/
theorem exists_replace_override (line : Option String) (cache : TemplateCache)
    (text : MarkedText) :
    ∃ texts, text.replace texts = .ok (Override.insert line cache text).text := by
  unfold Override.insert
  split
  · exact exists_replace_self text
  · split
    · exact exists_replace_self text
    · exact exists_replace_self text
    · exact exists_replace_insert _ cache text

/-- Both passes make the first one, and go on from its text unless it fails. -/
theorem exists_replace_number (defaults : Settings) (line : Option String) (cache : TemplateCache)
    (text : MarkedText) :
    ∃ texts, text.replace texts = .ok (numberText defaults line cache text).2.text := by
  have hfirst := exists_replace_insert defaults cache text
  unfold numberText numberTextAsking
  dsimp only
  split
  · exact hfirst
  · exact exists_replace_trans hfirst (exists_replace_override line _ _)

/-- Every edit puts some texts in the place of the marks. -/
theorem exists_replace_apply (edit : TextEdit) (text : MarkedText) :
    ∃ texts, text.replace texts = .ok (edit.apply text) := by
  cases edit with
  | replace texts =>
      show ∃ others, text.replace others = .ok (match text.replace texts with
        | .ok edited => edited
        | .error _ => text)
      cases hreplace : text.replace texts with
      | ok edited => exact ⟨texts, hreplace⟩
      | error error => exact exists_replace_self text
  | insert settings cache => exact exists_replace_insert settings cache text
  | override line cache => exact exists_replace_override line cache text
  | number defaults line cache => exact exists_replace_number defaults line cache text

/-! ## A history of edits -/

/-- Any number of edits come to putting some texts in the place of the marks, once. -/
theorem exists_replace_applyAll (edits : List TextEdit) (text : MarkedText) :
    ∃ texts, text.replace texts = .ok (applyAll edits text) := by
  induction edits generalizing text with
  | nil => exact exists_replace_self text
  | cons edit edits ih => exact exists_replace_trans (edit.exists_replace_apply text) (ih _)

/-- However a marked text came about and whatever edits it goes through, its text and its ranges are
valid and belong to it alone: the ranges are in bounds, between characters, in order and apart from
each other, and they are accepted as they are and give the same marked text again. There are as many
of them as at the start, with the same gaps between them; and text and ranges are what one walk over
the text and the ranges of the start leaves. -/
theorem marking_kept (edits : List TextEdit) {text : String} {ranges : List ByteRange}
    {start : MarkedText} (hstart : Begins text ranges start) :
    let after := applyAll edits start
    (start.text = text ∧ start.ranges = ranges) ∧
      IsMarking after.text.toList after.ranges ∧
      (after.ranges.Pairwise fun first second ↦ precedes first second = true) ∧
      MarkedText.ofRanges after.text after.ranges = .ok after ∧
      after.ranges.length = ranges.length ∧
      gaps? after.text 0 after.ranges = gaps? text 0 ranges ∧
      ∃ texts, texts.length = ranges.length ∧
        splice text 0 "" ranges texts = some (after.text, after.ranges) := by
  intro after
  obtain ⟨htext, hranges⟩ := hstart.text_ranges
  obtain ⟨texts, hreplace⟩ := exists_replace_applyAll edits start
  obtain ⟨hlength, hafter⟩ := replace_eq_ok_iff.1 hreplace
  have hmarking := after.isMarking_ranges
  subst htext hranges
  refine ⟨⟨rfl, rfl⟩, hmarking, IsMarking.pairwise_precedes hmarking, ofRanges_ranges after, ?_, ?_,
    texts, ?_, ?_⟩
  · rw [length_ranges, length_ranges]
    show (applyAll edits start).size = start.size
    rw [hafter]
    exact length_replacePieces hlength
  · rw [gaps?_ranges, gaps?_ranges]
    show some ((applyAll edits start).pieces.map MarkedPiece.gap ++ [(applyAll edits start).tail]) =
      _
    rw [hafter, gaps_replacePieces hlength]
  · rw [length_ranges, hlength]
  · show _ = some ((applyAll edits start).text, (applyAll edits start).ranges)
    rw [hafter, splice_ranges hlength]

omit [Json.Writer] in
/-- Two matches that touch each other, through a replacement of the wrong length, a pass that grows
the text, a refused line and a line that empties the marks. -/
theorem marking_kept_touching :
    letI := Json.Writer.shortest
    let edits : List TextEdit := [.replace ["?"], .insert ⟨"%03d", .one, .one⟩ .empty,
      .override (some "none") .empty, .number ⟨"%d", .one, .one⟩ (some "%.0s:7") .empty]
    let start := MarkedText.ofMatches "é##." (Pattern.oneOf (.single '#')).finder
    Begins "é##." [⟨2, 3⟩, ⟨3, 4⟩] start ∧ (applyAll (edits.take 2) start).text = "é001002." ∧
      ∃ after, applyAll edits start = after ∧
        MarkedText.ofRanges "é." [⟨2, 2⟩, ⟨2, 2⟩] = .ok after := by
  let := Json.Writer.shortest
  intro edits start
  have hranges : matchRanges "é##." (Pattern.oneOf (.single '#')).finder = [⟨2, 3⟩, ⟨3, 4⟩] := by
    decide +kernel
  have hstart : Begins "é##." [⟨2, 3⟩, ⟨3, 4⟩] start := hranges ▸ .ofMatches _
  obtain ⟨-, -, -, hbuilt, -⟩ := marking_kept edits hstart
  have htext : (applyAll edits start).text = "é." := by decide +kernel
  have hafter : (applyAll edits start).ranges = [⟨2, 2⟩, ⟨2, 2⟩] := by decide +kernel
  rw [htext, hafter] at hbuilt
  exact ⟨hstart, by decide +kernel, _, rfl, hbuilt⟩

end TextEdit

end Numbering
