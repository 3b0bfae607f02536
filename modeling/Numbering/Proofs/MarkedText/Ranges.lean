import Numbering.MarkedText
import Numbering.Proofs.Text.ByteOffsets

/-!
# Marked texts and their ranges

Seen from outside, a marked text is a text together with ranges of byte offsets. The ranges are a
marking of the text (`isMarking_ranges`): each is in bounds and between characters, and none
starts before the one in front of it stops. Conversely a text and a marking of it belong to
exactly one marked text, which `ofRanges` builds (`ofRanges_ranges`, `exists_of_isMarking`).
-/

namespace Numbering

open Text

/-- The ranges mark pieces of the text, from left to right and apart from each other. -/
structure IsMarking (chars : List Char) (ranges : List ByteRange) : Prop where
  valid : ∀ range ∈ ranges,
    range.start ≤ range.stop ∧ IsBoundary chars range.start ∧ IsBoundary chars range.stop
  apart : ranges.Pairwise fun first second ↦ first.stop ≤ second.start

namespace MarkedText

/-- The characters of some pieces. -/
def pieceChars (pieces : List MarkedPiece) : List Char :=
  pieces.flatMap fun piece ↦ piece.gap.toList ++ piece.mark.toList

/-- No pieces have no text. -/
@[simp] theorem pieceChars_nil : pieceChars [] = [] := rfl

/-- The text of pieces is the first gap, the first mark and the text of the others. -/
@[simp] theorem pieceChars_cons (piece : MarkedPiece) (pieces : List MarkedPiece) :
    pieceChars (piece :: pieces) =
      piece.gap.toList ++ (piece.mark.toList ++ pieceChars pieces) := by
  simp [pieceChars]

/-- The characters of a marked text are those of its pieces and its tail. -/
theorem toList_text (marked : MarkedText) :
    marked.text.toList = pieceChars marked.pieces ++ marked.tail.toList := by
  rw [text, String.toList_join, List.flatMap_append, List.flatMap_assoc]
  simp [pieceChars]

/-! ## The ranges of a marked text -/

/-- Ranges begin after what is in front of them, and start before they stop. -/
theorem le_of_mem_rangesFrom {offset : Nat} {pieces : List MarkedPiece} {range : ByteRange}
    (hmem : range ∈ rangesFrom offset pieces) :
    offset ≤ range.start ∧ range.start ≤ range.stop := by
  induction pieces generalizing offset with
  | nil => cases hmem
  | cons piece pieces ih =>
      rw [rangesFrom] at hmem
      rcases List.mem_cons.1 hmem with rfl | hmem
      · exact ⟨Nat.le_add_right _ _, Nat.le_add_right _ _⟩
      · have hle := ih hmem
        omega

/-- A range stops before the next ones start. -/
theorem pairwise_rangesFrom (offset : Nat) (pieces : List MarkedPiece) :
    (rangesFrom offset pieces).Pairwise fun first second ↦ first.stop ≤ second.start := by
  induction pieces generalizing offset with
  | nil => exact .nil
  | cons piece pieces ih =>
      rw [rangesFrom, List.pairwise_cons]
      exact ⟨fun range hmem ↦ (le_of_mem_rangesFrom hmem).1, ih _⟩

/-- Both ends of a range are boundaries of the text that the pieces belong to. -/
theorem isBoundary_of_mem_rangesFrom (front tail : List Char) {pieces : List MarkedPiece}
    {range : ByteRange} (hmem : range ∈ rangesFrom (byteLength front) pieces) :
    IsBoundary (front ++ (pieceChars pieces ++ tail)) range.start ∧
      IsBoundary (front ++ (pieceChars pieces ++ tail)) range.stop := by
  induction pieces generalizing front with
  | nil => cases hmem
  | cons piece pieces ih =>
      rw [rangesFrom] at hmem
      rcases List.mem_cons.1 hmem with rfl | hmem
      · refine ⟨⟨front ++ piece.gap.toList,
            piece.mark.toList ++ (pieceChars pieces ++ tail), ?_, ?_⟩,
          front ++ (piece.gap.toList ++ piece.mark.toList), pieceChars pieces ++ tail, ?_, ?_⟩
        · simp
        · simp
        · simp
        · simp [Nat.add_assoc]
      · have hrest := ih (front ++ (piece.gap.toList ++ piece.mark.toList)) (by
          simpa [Nat.add_assoc] using hmem)
        simpa using hrest

/-- The ranges of a marked text are a marking of it. -/
theorem isMarking_ranges (marked : MarkedText) : IsMarking marked.text.toList marked.ranges := by
  refine ⟨fun range hmem ↦ ⟨(le_of_mem_rangesFrom hmem).2, ?_⟩, pairwise_rangesFrom 0 _⟩
  rw [toList_text]
  exact isBoundary_of_mem_rangesFrom [] _ hmem

/-! ## Building a marked text from ranges -/

/-- The bytes of a front cut it off. -/
theorem cutBytes_append (front back : List Char) :
    cutBytes (byteLength front) (front ++ back) = (front, back) := by
  rw [cutBytes, splitAt?_append, Option.getD_some]

/-- Cutting a text at the ranges of its pieces gives the pieces. -/
theorem cut_rangesFrom (offset : Nat) (pieces : List MarkedPiece) (tail : String) :
    cut offset (pieceChars pieces ++ tail.toList) (rangesFrom offset pieces) = ⟨pieces, tail⟩ := by
  induction pieces generalizing offset with
  | nil => simp [rangesFrom, cut]
  | cons piece pieces ih =>
      rw [rangesFrom, cut]
      simp only [pieceChars_cons, List.append_assoc, Nat.add_sub_cancel_left, cutBytes_append, ih,
        String.ofList_toList]

/-- The test of an offset decides whether it is between characters. -/
theorem isBoundary_iff {chars : List Char} {offset : Nat} :
    isBoundary chars offset = true ↔ IsBoundary chars offset :=
  isSome_splitAt?_iff

/-- A range is valid when it does not run backwards and both of its ends are between characters. -/
theorem isValid_iff {chars : List Char} {range : ByteRange} :
    isValid chars range = true ↔ range.start ≤ range.stop ∧ IsBoundary chars range.start ∧
      IsBoundary chars range.stop := by
  simp only [isValid, Bool.and_eq_true, decide_eq_true_eq, isBoundary_iff, and_assoc]

/-- There is no fault in ranges precisely when they are valid and apart, the first one from what
is in front of it. -/
theorem fault?_eq_none_iff {chars : List Char} {previous : Nat} {ranges : List ByteRange} :
    fault? chars previous ranges = none ↔
      IsMarking chars ranges ∧ ∀ range ∈ ranges, previous ≤ range.start := by
  induction ranges generalizing previous with
  | nil => exact ⟨fun _ ↦ ⟨⟨by simp, .nil⟩, by simp⟩, fun _ ↦ rfl⟩
  | cons range ranges ih =>
      rw [fault?]
      constructor
      · intro hnone
        split at hnone
        · cases hnone
        · rename_i hvalid
          split at hnone
          · cases hnone
          · rename_i hprevious
            obtain ⟨⟨hothers, hapart⟩, hstop⟩ := ih.1 hnone
            have hrange := isValid_iff.1 (by simpa using hvalid)
            refine ⟨⟨?_, List.pairwise_cons.2 ⟨hstop, hapart⟩⟩, ?_⟩
            · intro other hmem
              rcases List.mem_cons.1 hmem with rfl | hmem
              · exact hrange
              · exact hothers other hmem
            · intro other hmem
              rcases List.mem_cons.1 hmem with rfl | hmem
              · omega
              · have hle := hstop other hmem
                omega
      · rintro ⟨⟨hvalid, hapart⟩, hprevious⟩
        rw [List.pairwise_cons] at hapart
        have hrange := isValid_iff.2 (hvalid range (by simp))
        have hle := hprevious range (by simp)
        rw [if_neg (by simp [hrange]), if_neg (by omega)]
        exact ih.2 ⟨⟨fun other hmem ↦ hvalid other (by simp [hmem]), hapart.2⟩, hapart.1⟩

/-- Ranges that are apart are in order. -/
theorem IsMarking.pairwise_precedes {chars : List Char} {ranges : List ByteRange}
    (hmarking : IsMarking chars ranges) :
    ranges.Pairwise fun first second ↦ precedes first second = true := by
  refine hmarking.apart.imp_of_mem fun hfirst hsecond hle ↦ ?_
  have hfirst := (hmarking.valid _ hfirst).1
  have hsecond := (hmarking.valid _ hsecond).1
  simp only [precedes, Bool.or_eq_true, decide_eq_true_eq, Bool.and_eq_true]
  omega

/-- The ranges of a marking are sorted already. -/
theorem IsMarking.mergeSort {chars : List Char} {ranges : List ByteRange}
    (hmarking : IsMarking chars ranges) : ranges.mergeSort precedes = ranges :=
  List.mergeSort_of_pairwise (IsMarking.pairwise_precedes hmarking)

/-- A marked text is built again from its text and its ranges. -/
theorem ofRanges_ranges (marked : MarkedText) :
    ofRanges marked.text marked.ranges = .ok marked := by
  have hmarking := marked.isMarking_ranges
  have hfault : fault? marked.text.toList 0 marked.ranges = none :=
    fault?_eq_none_iff.2 ⟨hmarking, by simp⟩
  unfold ofRanges
  simp only [IsMarking.mergeSort hmarking, hfault]
  rw [toList_text, ranges, cut_rangesFrom]

/-- The text and the ranges tell marked texts apart. -/
theorem text_ranges_iff {marked other : MarkedText} :
    other.text = marked.text ∧ other.ranges = marked.ranges ↔ other = marked := by
  constructor
  · intro hsame
    obtain ⟨htext, hranges⟩ := hsame
    have hbuilt := ofRanges_ranges other
    rw [htext, hranges, ofRanges_ranges] at hbuilt
    exact (Except.ok.inj hbuilt).symm
  · intro hother
    subst hother
    exact ⟨rfl, rfl⟩

/-- Ranges that mark the part of a text behind a front are the ranges of pieces of that part. -/
theorem exists_pieces_of_isMarking (front : List Char) {rest : List Char}
    {ranges : List ByteRange} (hmarking : IsMarking (front ++ rest) ranges)
    (hfront : ∀ range ∈ ranges, byteLength front ≤ range.start) :
    ∃ pieces tail, pieceChars pieces ++ tail = rest ∧
      rangesFrom (byteLength front) pieces = ranges := by
  -- The front grows by the gap and the mark of each range.
  induction ranges generalizing front rest with
  | nil => exact ⟨[], rest, rfl, rfl⟩
  | cons range ranges ih =>
      obtain ⟨hvalid, hapart⟩ := hmarking
      rw [List.pairwise_cons] at hapart
      obtain ⟨hle, hstart, hstop⟩ := hvalid range (by simp)
      obtain ⟨gap, afterGap, rfl, hgap⟩ := hstart.exists_gap (hfront range (by simp))
      rw [← List.append_assoc] at hstop
      obtain ⟨mark, others, rfl, hmark⟩ :=
        hstop.exists_gap (by rw [byteLength_append, hgap]; exact hle)
      rw [byteLength_append, hgap] at hmark
      -- The remaining ranges mark what follows the mark.
      have hlength : byteLength (front ++ (gap ++ mark)) = range.stop := by
        rw [byteLength_append, byteLength_append]
        omega
      obtain ⟨pieces, tail, rfl, hranges⟩ := ih (front ++ (gap ++ mark))
        ⟨fun other hmem ↦ by simpa using hvalid other (by simp [hmem]), hapart.2⟩
        (fun other hmem ↦ by rw [hlength]; exact hapart.1 other hmem)
      rw [hlength] at hranges
      refine ⟨⟨String.ofList gap, String.ofList mark⟩ :: pieces, tail, by simp, ?_⟩
      simp only [rangesFrom, String.toList_ofList, hgap, hmark, hranges]

/-- A text and a marking of it belong to a marked text. -/
theorem exists_of_isMarking {text : String} {ranges : List ByteRange}
    (hmarking : IsMarking text.toList ranges) :
    ∃ marked : MarkedText, marked.text = text ∧ marked.ranges = ranges := by
  obtain ⟨pieces, tail, hchars, hranges⟩ :
      ∃ pieces tail, pieceChars pieces ++ tail = text.toList ∧ rangesFrom 0 pieces = ranges :=
    exists_pieces_of_isMarking [] hmarking (by simp [byteLength])
  refine ⟨⟨pieces, String.ofList tail⟩, ?_, hranges⟩
  rw [← String.toList_inj, toList_text, String.toList_ofList, hchars]

/-- A marked text that was built from ranges has the text, and the ranges in order. -/
theorem text_ranges_of_ofRanges {text : String} {ranges : List ByteRange} {marked : MarkedText}
    (hbuilt : ofRanges text ranges = .ok marked) :
    marked.text = text ∧ marked.ranges = ranges.mergeSort precedes := by
  unfold ofRanges at hbuilt
  dsimp only at hbuilt
  split at hbuilt
  · cases hbuilt
  · rename_i hfault
    obtain ⟨other, htext, hranges⟩ := exists_of_isMarking (fault?_eq_none_iff.1 hfault).1
    -- The ranges cut the text into the pieces that they belong to.
    have hcut : cut 0 text.toList (ranges.mergeSort precedes) = other := by
      rw [← htext, ← hranges, toList_text, MarkedText.ranges, cut_rangesFrom]
    cases hbuilt
    rw [hcut]
    exact ⟨htext, hranges⟩

end MarkedText

end Numbering
