import Numbering.Proofs.MarkedText.Ranges
import Numbering.Proofs.Text.Lines

/-!
# Marking the starts of lines

A finder may find the empty text at the start of a text and behind every line break
(`Finder.FindsLineStarts`). These are the starts of the lines, and the end of a text without a line
there. That last match is the one that marking drops, so that there is exactly one mark for each
line, with nothing in it, and the gaps between the marks are the lines (`ofMatches_lineStart`).
-/

namespace Numbering

/-- A line can start at the start of a text and behind a line break. -/
def isLineStart (chars : List Char) (place : Nat) : Bool :=
  place = 0 || chars[place - 1]? = some '\n'

/-- A finder that finds the empty text wherever a line can start, in order, and nothing else. -/
def Finder.FindsLineStarts (finder : Finder) : Prop :=
  ∀ chars, finder.find chars =
    ((List.range (chars.length + 1)).filter (isLineStart chars)).map fun place ↦ (place, place)

namespace MarkedText

open Text

/-! ## Where a line can start -/

/-- A line can start behind a text that ends without a line. -/
theorem isLineStart_append (front rest : List Char) :
    isLineStart (front ++ rest) front.length = endsWithoutLine front := by
  obtain hnil | ⟨body, last, hfront⟩ := List.eq_nil_or_concat front
  · subst hnil
    rfl
  · subst hfront
    simp [isLineStart, endsWithoutLine]

/-- In front of an unbroken text and of the character behind it, a line can start at the first
place only. -/
theorem filter_isLineStart_unbroken (front rest : List Char) {body : List Char}
    (hbody : '\n' ∉ body) :
    (List.range' front.length (body.length + 1)).filter
        (isLineStart (front ++ (body ++ rest))) =
      if endsWithoutLine front then [front.length] else [] := by
  induction body generalizing front with
  | nil => simp [List.filter_cons, isLineStart_append]
  | cons char body ih =>
      have hchar : char ≠ '\n' := fun heq ↦ hbody (by simp [heq])
      have hrest := ih (front ++ [char]) (fun hmem ↦ hbody (by simp [hmem]))
      have hends : endsWithoutLine (front ++ [char]) = false := by simp [endsWithoutLine, hchar]
      rw [hends, if_neg (by simp), List.append_assoc, List.singleton_append, List.length_append,
        List.length_singleton] at hrest
      rw [List.length_cons, List.range'_succ, List.filter_cons, List.cons_append, hrest,
        isLineStart_append]

/-- Behind a text that ends without a line, a line can start where one of the lines does. -/
theorem filter_isLineStart_lines (front chars : List Char) (hfront : endsWithoutLine front = true) :
    (List.range' front.length chars.length).filter
        (isLineStart (front ++ chars)) =
      startsFrom front.length (lines chars) := by
  induction chars using lines_induction generalizing front with
  | empty => rfl
  | single body last hbody hlast =>
      rw [lines_single hbody, List.length_append, List.length_singleton,
        filter_isLineStart_unbroken front [last] hbody, if_pos hfront]
      rfl
  | closed body rest hbody ih =>
      have hline := filter_isLineStart_unbroken front ('\n' :: rest) hbody
      have hrest := ih (front ++ (body ++ ['\n'])) (by simp [endsWithoutLine])
      have hlength : (body ++ '\n' :: rest).length = body.length + 1 + rest.length := by
        simp only [List.length_append, List.length_cons]
        omega
      rw [if_pos hfront] at hline
      simp only [List.length_append, List.length_singleton, List.append_assoc,
        List.singleton_append] at hrest
      rw [hlength, ← List.range'_append_1, List.filter_append, hline, hrest,
        lines_append_break hbody, startsFrom, List.length_append, List.length_singleton,
        List.singleton_append]

/-! ## The marks at the starts of lines -/

/-- Marking places keeps the text. -/
theorem toList_text_ofPlaces (before : Nat) (chars : List Char) (places : List (Nat × Nat)) :
    (ofPlaces before chars places).text.toList = chars := by
  rw [toList_text]
  induction places generalizing before chars with
  | nil => simp [ofPlaces]
  | cons place places ih =>
      obtain ⟨first, last⟩ := place
      rw [ofPlaces]
      simp only [pieceChars_cons, String.toList_ofList, List.append_assoc, ih,
        List.take_append_drop]

/-- The text whose matches are marked stays as it is. -/
theorem text_ofMatches (text : String) (finder : Finder) :
    (ofMatches text finder).text = text := by
  rw [← String.toList_inj, ofMatches, toList_text_ofPlaces]

/-- Marks with nothing in them between some pieces of text: the first piece and all others. -/
def separated (gap : List Char) : List (List Char) → MarkedText
  | [] => ⟨[], String.ofList gap⟩
  | line :: lines =>
      let others := separated line lines
      { others with pieces := ⟨String.ofList gap, ""⟩ :: others.pieces }

/-- The gaps between the marks are the pieces of text. -/
theorem gaps_separated (gap : List Char) (lines : List (List Char)) :
    (separated gap lines).pieces.map MarkedPiece.gap ++ [(separated gap lines).tail] =
      (gap :: lines).map String.ofList := by
  induction lines generalizing gap with
  | nil => rfl
  | cons line lines ih =>
      rw [separated, List.map_cons, List.cons_append, ih]
      rfl

/-- There is one mark less than pieces. -/
theorem size_separated (gap : List Char) (lines : List (List Char)) :
    (separated gap lines).size = lines.length := by
  have hlength := congrArg List.length (gaps_separated gap lines)
  simp only [List.length_append, List.length_map, List.length_cons, List.length_nil] at hlength
  exact Nat.succ.inj hlength

/-- The marks are empty, and they stand at the starts of the pieces behind the first one. -/
theorem rangesFrom_separated (offset : Nat) (gap : List Char) (lines : List (List Char)) :
    rangesFrom offset (separated gap lines).pieces =
      (List.range lines.length).map fun index ↦
        ⟨offset + byteLength gap + lineStart lines index,
          offset + byteLength gap + lineStart lines index⟩ := by
  induction lines generalizing offset gap with
  | nil => rfl
  | cons line lines ih =>
      rw [separated, rangesFrom, List.length_cons, List.range_succ_eq_map, List.map_cons,
        List.map_map]
      simp only [String.toList_ofList, String.toList_empty, byteLength_nil, Nat.add_zero, ih,
        lineStart_zero, List.cons.injEq, true_and]
      apply List.map_congr_left
      intro index _
      simp only [Function.comp_apply, Nat.succ_eq_add_one, lineStart_succ, Nat.add_assoc]

/-- Marking the starts of pieces separates them. -/
theorem ofPlaces_startsFrom (before : Nat) (gap : List Char) (lines : List (List Char)) :
    ofPlaces before (gap ++ lines.flatten)
        ((startsFrom (before + gap.length) lines).map fun place ↦ (place, place)) =
      separated gap lines := by
  induction lines generalizing before gap with
  | nil => simp [startsFrom, ofPlaces, separated]
  | cons line lines ih =>
      rw [startsFrom, List.map_cons, ofPlaces, List.flatten_cons]
      simp only [Nat.add_sub_cancel_left, Nat.sub_self, List.take_left, List.drop_left,
        List.take_zero, List.drop_zero, ih, separated, String.ofList_nil]

/-- A finder of line starts finds the start of every line, and nothing else but the end of a text
without a line there. That match is dropped, and no other one. -/
theorem filter_find_lineStarts {finder : Finder} (hstarts : finder.FindsLineStarts)
    (chars : List Char) :
    (finder.find chars).filter (fun place ↦
        !(endsWithoutLine chars && place.1 = chars.length && place.2 = chars.length)) =
      (startsFrom 0 (lines chars)).map fun place ↦ (place, place) := by
  have hlines := filter_isLineStart_lines [] chars rfl
  have hend := isLineStart_append chars []
  rw [List.length_nil, List.nil_append, ← List.range_eq_range'] at hlines
  rw [List.append_nil] at hend
  have hinside : ∀ place ∈ startsFrom 0 (lines chars), place < chars.length := by
    intro place hplace
    rw [← hlines, List.mem_filter, List.mem_range] at hplace
    exact hplace.1
  rw [hstarts, List.range_succ, List.filter_append, List.map_append, List.filter_append, hlines,
    List.filter_eq_self.2, List.append_right_eq_self]
  · cases hends : endsWithoutLine chars with
    | true => simp [hend, hends]
    | false => simp [hend, hends]
  · intro place hplace
    obtain ⟨start, hstart, rfl⟩ := List.mem_map.1 hplace
    have hlt := hinside start hstart
    simp [show start ≠ chars.length by omega]

/-- Marking the starts of lines puts one empty mark in front of every line. -/
theorem ofMatches_lineStart {finder : Finder} (hstarts : finder.FindsLineStarts) (text : String) :
    ofMatches text finder = separated [] (lines text.toList) := by
  have hmarked := ofPlaces_startsFrom 0 [] (lines text.toList)
  rw [flatten_lines, List.nil_append, List.length_nil, ← filter_find_lineStarts hstarts] at hmarked
  exact hmarked

end MarkedText

end Numbering
