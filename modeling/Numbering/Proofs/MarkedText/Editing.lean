import Numbering.Proofs.MarkedText.Ranges

/-!
# Editing marked texts

Replacing the marks of a text is compared with what can be seen from outside. `gaps?` and
`selected?` cut the unmarked and the marked pieces out of a text by the byte offsets of the
ranges, and `splice` edits a text by walking over its ranges and counting bytes. A replacement is
that walk (`splice_ranges`), keeps the gaps and selects what was put in, so that selecting and
replacing obey the laws of a lens (`replace_lens_laws`).
-/

namespace Numbering

open Text

namespace MarkedText

/-! ## Views of a text by its ranges -/

/-- The piece of a text that a range marks. -/
def slice? (text : String) (start stop : Nat) : Option String :=
  (between? start stop text.toList).map String.ofList

/-- The pieces of a text in front of each range and behind the last one, from an offset on. -/
def gaps? (text : String) (offset : Nat) : List ByteRange → Option (List String)
  | [] => (slice? text offset (byteLength text.toList)).map ([·])
  | range :: ranges =>
      match slice? text offset range.start, gaps? text range.stop ranges with
      | some gap, some gaps => some (gap :: gaps)
      | _, _ => none

/-- The pieces of a text that ranges mark. -/
def selected? (text : String) : List ByteRange → Option (List String)
  | [] => some []
  | range :: ranges =>
      match slice? text range.start range.stop, selected? text ranges with
      | some mark, some marks => some (mark :: marks)
      | _, _ => none

/-- The gaps with one text after each but the last. -/
def interleave : List String → List String → String
  | gap :: gaps, text :: texts => gap ++ (text ++ interleave gaps texts)
  | gaps, _ => String.join gaps

/-- Edit a text from an offset on, given what is written so far: copy what is in front of each
range, write the text for it, and note where that came to stand. -/
def splice (text : String) (offset : Nat) (written : String) :
    List ByteRange → List String → Option (String × List ByteRange)
  | range :: ranges, replacement :: replacements =>
      match slice? text offset range.start with
      | none => none
      | some gap =>
          let start := byteLength (written ++ gap).toList
          let written := written ++ gap ++ replacement
          (splice text range.stop written ranges replacements).map fun (whole, moved) ↦
            (whole, ⟨start, byteLength written.toList⟩ :: moved)
  | _, _ =>
      (slice? text offset (byteLength text.toList)).map fun tail ↦ (written ++ tail, [])

/-! ## The views of a marked text -/

section Views

variable {text : String} {front : List Char} {piece : MarkedPiece} {pieces : List MarkedPiece}
  {tail : String}

/-- The bytes of a gap are the gap. -/
theorem slice?_gap (htext : text.toList = front ++ (pieceChars (piece :: pieces) ++ tail.toList)) :
    slice? text (byteLength front) (byteLength front + byteLength piece.gap.toList) =
      some piece.gap := by
  rw [slice?, htext, pieceChars_cons, List.append_assoc, between?_append, Option.map_some,
    String.ofList_toList]

/-- The bytes of a mark are the mark. -/
theorem slice?_mark (htext : text.toList = front ++ (pieceChars (piece :: pieces) ++ tail.toList)) :
    slice? text (byteLength front + byteLength piece.gap.toList)
        (byteLength front + byteLength piece.gap.toList + byteLength piece.mark.toList) =
      some piece.mark := by
  have hregroup : text.toList = (front ++ piece.gap.toList) ++
      (piece.mark.toList ++ (pieceChars pieces ++ tail.toList)) := by
    rw [htext, pieceChars_cons]
    simp
  rw [slice?, hregroup, ← byteLength_append, between?_append, Option.map_some,
    String.ofList_toList]

/-- The bytes behind the last mark are the tail. -/
theorem slice?_tail (htext : text.toList = front ++ tail.toList) :
    slice? text (byteLength front) (byteLength text.toList) = some tail := by
  have hbetween := between?_append front tail.toList []
  rw [List.append_nil] at hbetween
  rw [slice?, htext, byteLength_append, hbetween, Option.map_some, String.ofList_toList]

/-- The text behind the first piece is that of the other pieces. -/
theorem toList_behind
    (htext : text.toList = front ++ (pieceChars (piece :: pieces) ++ tail.toList)) :
    text.toList = (front ++ (piece.gap.toList ++ piece.mark.toList)) ++
      (pieceChars pieces ++ tail.toList) := by
  rw [htext, pieceChars_cons]
  simp

end Views

/-- The gaps of a text at the ranges of its pieces are those of the pieces, and the tail. -/
theorem gaps?_rangesFrom {text tail : String} (front : List Char) {pieces : List MarkedPiece}
    (htext : text.toList = front ++ (pieceChars pieces ++ tail.toList)) :
    gaps? text (byteLength front) (rangesFrom (byteLength front) pieces) =
      some (pieces.map MarkedPiece.gap ++ [tail]) := by
  induction pieces generalizing front with
  | nil => simp [rangesFrom, gaps?, slice?_tail htext]
  | cons piece pieces ih =>
      have hrest := ih _ (toList_behind htext)
      rw [byteLength_append, byteLength_append, ← Nat.add_assoc] at hrest
      simp only [rangesFrom, gaps?, slice?_gap htext, hrest, List.map_cons, List.cons_append]

/-- What the ranges of the pieces of a text select are the marks of the pieces. -/
theorem selected?_rangesFrom {text tail : String} (front : List Char) {pieces : List MarkedPiece}
    (htext : text.toList = front ++ (pieceChars pieces ++ tail.toList)) :
    selected? text (rangesFrom (byteLength front) pieces) =
      some (pieces.map MarkedPiece.mark) := by
  induction pieces generalizing front with
  | nil => rfl
  | cons piece pieces ih =>
      have hrest := ih _ (toList_behind htext)
      rw [byteLength_append, byteLength_append, ← Nat.add_assoc] at hrest
      simp only [rangesFrom, selected?, slice?_mark htext, hrest, List.map_cons]

/-- The text between the ranges of the marks is that of the gaps and the tail. -/
theorem gaps?_ranges (marked : MarkedText) :
    gaps? marked.text 0 marked.ranges =
      some (marked.pieces.map MarkedPiece.gap ++ [marked.tail]) :=
  gaps?_rangesFrom [] (toList_text marked)

/-- The text in the ranges of the marks is that of the marks. -/
theorem selected?_ranges (marked : MarkedText) :
    selected? marked.text marked.ranges = some marked.marks :=
  selected?_rangesFrom [] (toList_text marked)

/-! ## Replacing -/

/-- There is one range for each mark. -/
theorem length_ranges (marked : MarkedText) : marked.ranges.length = marked.size := by
  have hlength : ∀ offset (pieces : List MarkedPiece),
      (rangesFrom offset pieces).length = pieces.length := by
    intro offset pieces
    induction pieces generalizing offset with
    | nil => rfl
    | cons piece pieces ih => simp [rangesFrom, ih]
  exact hlength 0 marked.pieces

section Replace

variable {pieces : List MarkedPiece} {texts : List String}

/-- The marks of the replaced pieces are the texts that were put in. -/
theorem marks_replacePieces (hlength : texts.length = pieces.length) :
    (replacePieces pieces texts).map MarkedPiece.mark = texts := by
  induction pieces generalizing texts with
  | nil => exact (List.eq_nil_of_length_eq_zero hlength).symm
  | cons piece pieces ih =>
      cases texts with
      | nil => cases hlength
      | cons text texts => simp [replacePieces, ih (Nat.succ.inj hlength)]

/-- The gaps stay as they are. -/
theorem gaps_replacePieces (hlength : texts.length = pieces.length) :
    (replacePieces pieces texts).map MarkedPiece.gap = pieces.map MarkedPiece.gap := by
  induction pieces generalizing texts with
  | nil => rfl
  | cons piece pieces ih =>
      cases texts with
      | nil => cases hlength
      | cons text texts => simp [replacePieces, ih (Nat.succ.inj hlength)]

/-- Putting back the marks changes nothing. -/
theorem replacePieces_marks (pieces : List MarkedPiece) :
    replacePieces pieces (pieces.map MarkedPiece.mark) = pieces := by
  induction pieces with
  | nil => rfl
  | cons piece pieces ih => rw [List.map_cons, replacePieces, ih]

/-- The second of two replacements counts. -/
theorem replacePieces_replacePieces (others : List String)
    (hlength : texts.length = pieces.length) :
    replacePieces (replacePieces pieces texts) others = replacePieces pieces others := by
  induction pieces generalizing texts others with
  | nil => rfl
  | cons piece pieces ih =>
      cases texts with
      | nil => cases hlength
      | cons text texts =>
          cases others with
          | nil => rfl
          | cons other others =>
              rw [replacePieces, replacePieces, ih others (Nat.succ.inj hlength), replacePieces]

/-- Replacing keeps the number of pieces. -/
theorem length_replacePieces (hlength : texts.length = pieces.length) :
    (replacePieces pieces texts).length = pieces.length := by
  rw [← List.length_map MarkedPiece.gap, gaps_replacePieces hlength, List.length_map]

/-- The characters of gaps and texts in turn. -/
theorem toList_interleave (tail : String) (hlength : texts.length = pieces.length) :
    (interleave (pieces.map MarkedPiece.gap ++ [tail]) texts).toList =
      pieceChars (replacePieces pieces texts) ++ tail.toList := by
  induction pieces generalizing texts with
  | nil =>
      cases texts with
      | nil => simp [interleave, replacePieces]
      | cons text texts => cases hlength
  | cons piece pieces ih =>
      cases texts with
      | nil => cases hlength
      | cons text texts => simp [interleave, replacePieces, ih (Nat.succ.inj hlength)]

/-- The walk over the ranges of pieces writes the replaced pieces and notes their ranges. -/
theorem splice_rangesFrom {text tail : String} (front : List Char) (written : String)
    (htext : text.toList = front ++ (pieceChars pieces ++ tail.toList))
    (hlength : texts.length = pieces.length) :
    splice text (byteLength front) written (rangesFrom (byteLength front) pieces) texts =
      some (written ++ interleave (pieces.map MarkedPiece.gap ++ [tail]) texts,
        rangesFrom (byteLength written.toList) (replacePieces pieces texts)) := by
  -- The walk has passed `front` and written `written`; the ranges of the pieces that are left
  -- begin where these end.
  induction pieces generalizing front texts written with
  | nil =>
      cases texts with
      | nil => simp [rangesFrom, splice, slice?_tail htext, interleave, replacePieces]
      | cons replacement texts => cases hlength
  | cons piece pieces ih =>
      cases texts with
      | nil => cases hlength
      | cons replacement texts =>
          have hrest := ih _ (written ++ piece.gap ++ replacement) (toList_behind htext)
            (Nat.succ.inj hlength)
          rw [byteLength_append, byteLength_append, ← Nat.add_assoc] at hrest
          simp only [rangesFrom, splice, slice?_gap htext, hrest, Option.map_some]
          simp only [interleave, List.map_cons, List.cons_append, replacePieces, rangesFrom,
            String.append_assoc, String.toList_append, byteLength_append, Nat.add_assoc]

/-- As many texts as there are marks replace them, and no others do. -/
theorem replace_eq_ok_iff {marked edited : MarkedText} : marked.replace texts = .ok edited ↔
    texts.length = marked.size ∧
      edited = { marked with pieces := replacePieces marked.pieces texts } := by
  unfold replace
  split
  · rename_i hlength
    constructor
    · intro hok
      exact ⟨hlength, (Except.ok.inj hok).symm⟩
    · intro hedited
      rw [hedited.2]
  · rename_i hlength
    constructor
    · intro hok
      cases hok
    · intro hedited
      exact absurd hedited.1 hlength

/-- As many texts as marks are put in their place. -/
theorem replace_eq_ok {marked : MarkedText} (hlength : texts.length = marked.size) :
    marked.replace texts = .ok { marked with pieces := replacePieces marked.pieces texts } :=
  replace_eq_ok_iff.2 ⟨hlength, rfl⟩

/-- The walk over the ranges of a marked text gives the text and the ranges of the edited one. -/
theorem splice_ranges {marked : MarkedText} (hlength : texts.length = marked.size) :
    splice marked.text 0 "" marked.ranges texts =
      some (text { marked with pieces := replacePieces marked.pieces texts },
        ranges { marked with pieces := replacePieces marked.pieces texts }) := by
  have hsplice := splice_rangesFrom [] "" (toList_text marked) hlength
  have htext : text { marked with pieces := replacePieces marked.pieces texts } =
      interleave (marked.pieces.map MarkedPiece.gap ++ [marked.tail]) texts := by
    rw [← String.toList_inj, toList_text, toList_interleave _ hlength]
  rw [htext]
  simpa [ranges] using hsplice

end Replace

/-- A text with a marking is edited like a lens. Whatever is put in the place of the marks comes to
stand between the gaps of the text and is what the new ranges select; putting back what is
selected changes nothing; of two replacements the second counts; and a wrong number of texts is
refused. The walk over the ranges gives the same text and the same ranges. -/
theorem replace_lens_laws {text : String} {ranges : List ByteRange}
    (hmarking : IsMarking text.toList ranges) :
    ∃ marked gaps selected,
      (∀ other : MarkedText, other.text = text ∧ other.ranges = ranges ↔ other = marked) ∧
      ofRanges text ranges = .ok marked ∧
      gaps? text 0 ranges = some gaps ∧ selected? text ranges = some selected ∧
      marked.marks = selected ∧
      (∀ texts : List String, texts.length = ranges.length →
        ∃ edited, marked.replace texts = .ok edited ∧ edited.text = interleave gaps texts ∧
          edited.marks = texts ∧ selected? edited.text edited.ranges = some texts ∧
          splice text 0 "" ranges texts = some (edited.text, edited.ranges) ∧
          ∀ others : List String, others.length = ranges.length →
            edited.replace others = marked.replace others) ∧
      marked.replace selected = .ok marked ∧
      ∀ texts : List String, texts.length ≠ ranges.length →
        marked.replace texts = .error (.replacementCount ranges.length texts.length) := by
  obtain ⟨marked, rfl, rfl⟩ := exists_of_isMarking hmarking
  simp only [length_ranges]
  refine ⟨marked, _, marked.marks, ?_, ofRanges_ranges marked, gaps?_ranges marked,
    selected?_ranges marked, rfl, ?_, ?_, ?_⟩
  · intro other
    constructor
    · rintro ⟨htext, hranges⟩
      have hbuilt := ofRanges_ranges other
      rw [htext, hranges, ofRanges_ranges] at hbuilt
      exact (Except.ok.inj hbuilt).symm
    · rintro rfl
      exact ⟨rfl, rfl⟩
  · intro texts hlength
    have hmarks := marks_replacePieces hlength
    refine ⟨_, replace_eq_ok hlength, ?_, hmarks, ?_, splice_ranges hlength, ?_⟩
    · rw [← String.toList_inj, toList_text, toList_interleave _ hlength]
    · rw [selected?_ranges]
      exact congrArg some hmarks
    · intro others hothers
      have hsize : others.length = (replacePieces marked.pieces texts).length := by
        rw [length_replacePieces hlength]
        exact hothers
      rw [replace_eq_ok hothers, replace_eq_ok hsize, replacePieces_replacePieces others hlength]
  · have hlength : marked.marks.length = marked.size := List.length_map _
    rw [replace_eq_ok hlength, marks, replacePieces_marks]
  · intro texts hlength
    exact if_neg hlength

/-- Around an accented letter, with an empty range that touches the next one. -/
theorem replace_lens_laws_accented :
    IsMarking "é-x".toList [⟨0, 2⟩, ⟨3, 3⟩, ⟨3, 4⟩] ∧
      ∃ marked, ofRanges "é-x" [⟨0, 2⟩, ⟨3, 3⟩, ⟨3, 4⟩] = .ok marked ∧
        ∃ edited, marked.replace ["", "ab", "ß"] = .ok edited ∧ edited.text = "-abß" := by
  have hmarking : IsMarking "é-x".toList [⟨0, 2⟩, ⟨3, 3⟩, ⟨3, 4⟩] :=
    (fault?_eq_none_iff.1 (by decide : fault? "é-x".toList 0 _ = none)).1
  obtain ⟨marked, gaps, selected, -, hbuilt, hgaps, -, -, hreplace, -⟩ :=
    replace_lens_laws hmarking
  obtain ⟨edited, hedited, htext, -⟩ := hreplace ["", "ab", "ß"] rfl
  have hcut : gaps? "é-x" 0 [⟨0, 2⟩, ⟨3, 3⟩, ⟨3, 4⟩] = some ["", "-", "", ""] := by decide
  rw [hcut] at hgaps
  cases hgaps
  exact ⟨hmarking, marked, hbuilt, edited, hedited, htext⟩

end MarkedText

end Numbering
