import Numbering.Proofs.MarkedText.LineStarts

/-!
# Marking places

A place of a text that is given by characters comes to stand at a range of bytes. When places are
in order, marking them marks exactly these ranges (`ranges_ofPlaces`), although nothing is tested on
the way. The matches of a finder are in order, so that its marks are the ranges of its matches, but
for an empty one at the end of a text where no line is (`ranges_ofMatches`).
-/

namespace Numbering.MarkedText

open Text

/-- The bytes between two places of a text. -/
def placeRange (chars : List Char) (place : Nat × Nat) : ByteRange :=
  ⟨byteLength (chars.take place.1), byteLength (chars.take place.2)⟩

/-- The ranges of the matches that are found in a text, but not of an empty one at its end where no
line is. -/
def matchRanges (text : String) (finder : Finder) : List ByteRange :=
  ((finder.find text.toList).map (placeRange text.toList)).filter fun range ↦
    !(endsWithoutLine text.toList && range.start = range.stop &&
      range.start = byteLength text.toList)

/-- A front of a text has all its bytes only when it is the whole of it. -/
theorem byteLength_take_eq_iff {chars : List Char} {count : Nat} (hcount : count ≤ chars.length) :
    byteLength (chars.take count) = byteLength chars ↔ count = chars.length := by
  constructor
  · intro hlength
    have hparts := byteLength_append (chars.take count) (chars.drop count)
    rw [List.take_append_drop] at hparts
    have hrest : chars.drop count = [] := eq_nil_of_byteLength (by omega)
    have hshort := List.drop_eq_nil_iff.1 hrest
    omega
  · intro hcount
    rw [hcount, List.take_length]

/-- The first of some places in order behind a front cuts a gap and a mark off the text. -/
theorem exists_append_of_inOrder {before first last : Nat} {chars : List Char}
    {places : List (Nat × Nat)}
    (hplaces : InOrder (before + chars.length) before ((first, last) :: places)) :
    ∃ gap mark rest, chars = gap ++ (mark ++ rest) ∧ first = before + gap.length ∧
      last = before + gap.length + mark.length := by
  obtain ⟨hfirst, hle, hlast, -⟩ := hplaces
  have hgap : (chars.take (first - before)).length = first - before :=
    List.length_take_of_le (by omega)
  have hmark : ((chars.drop (first - before)).take (last - first)).length = last - first := by
    apply List.length_take_of_le
    rw [List.length_drop]
    omega
  refine ⟨chars.take (first - before), (chars.drop (first - before)).take (last - first),
    (chars.drop (first - before)).drop (last - first), ?_, ?_, ?_⟩
  · rw [List.take_append_drop, List.take_append_drop]
  · omega
  · omega

/-- Marking a place cuts off the gap in front of it and the mark. -/
theorem pieces_ofPlaces_append (before : Nat) (gap mark rest : List Char)
    (places : List (Nat × Nat)) :
    (ofPlaces before (gap ++ (mark ++ rest))
        ((before + gap.length, before + gap.length + mark.length) :: places)).pieces =
      ⟨String.ofList gap, String.ofList mark⟩ ::
        (ofPlaces (before + gap.length + mark.length) rest places).pieces := by
  rw [ofPlaces]
  simp only [Nat.add_sub_cancel_left, List.take_left, List.drop_left]

/-- The range of a mark is that of the bytes in front of it and up to its end. -/
theorem placeRange_append (front gap mark rest : List Char) :
    placeRange (front ++ (gap ++ (mark ++ rest)))
        (front.length + gap.length, front.length + gap.length + mark.length) =
      ⟨byteLength front + byteLength gap, byteLength front + byteLength gap + byteLength mark⟩ := by
  have hstart : (front ++ gap ++ (mark ++ rest)).take (front ++ gap).length = front ++ gap :=
    List.take_left
  have hstop : (front ++ (gap ++ mark) ++ rest).take (front ++ (gap ++ mark)).length =
      front ++ (gap ++ mark) := List.take_left
  simp only [List.length_append, List.append_assoc, ← Nat.add_assoc] at hstart hstop
  rw [placeRange, hstart, hstop]
  simp only [byteLength_append, Nat.add_assoc]

/-- Behind a front, the places that are marked come to stand at their bytes in the whole text. -/
theorem rangesFrom_ofPlaces (front chars : List Char) {places : List (Nat × Nat)}
    (hplaces : InOrder (front.length + chars.length) front.length places) :
    rangesFrom (byteLength front) (ofPlaces front.length chars places).pieces =
      places.map (placeRange (front ++ chars)) := by
  -- The front grows by the gap and the mark of each place.
  induction places generalizing front chars with
  | nil => rfl
  | cons place places ih =>
      obtain ⟨first, last⟩ := place
      obtain ⟨gap, mark, rest, rfl, rfl, rfl⟩ := exists_append_of_inOrder hplaces
      have hrest := ih (front ++ (gap ++ mark)) rest (by
        simpa [Nat.add_assoc] using hplaces.2.2.2)
      simp only [List.length_append, byteLength_append, List.append_assoc, ← Nat.add_assoc]
        at hrest
      rw [pieces_ofPlaces_append, rangesFrom, List.map_cons, placeRange_append]
      simp only [String.toList_ofList, hrest]

/-- Marking places that are in order marks their bytes. -/
theorem ranges_ofPlaces {chars : List Char} {places : List (Nat × Nat)}
    (hplaces : InOrder chars.length 0 places) :
    (ofPlaces 0 chars places).ranges = places.map (placeRange chars) :=
  rangesFrom_ofPlaces [] chars (by simpa using hplaces)

/-- The text of which places are marked stays as it is. -/
theorem text_ofPlaces (text : String) (places : List (Nat × Nat)) :
    (ofPlaces 0 text.toList places).text = text := by
  rw [← String.toList_inj, toList_text_ofPlaces]

/-- The marks of a finder are its matches. -/
theorem ranges_ofMatches (text : String) (finder : Finder) :
    (ofMatches text finder).ranges = matchRanges text finder := by
  have hplaces := finder.inOrder text.toList
  unfold ofMatches matchRanges
  dsimp only
  rw [ranges_ofPlaces (hplaces.filter _), List.filter_map]
  congr 1
  apply List.filter_congr
  intro place hplace
  obtain ⟨hle, hlast⟩ := hplaces.of_mem hplace
  have hstart := byteLength_take_eq_iff (Nat.le_trans hle hlast)
  have hstop := byteLength_take_eq_iff hlast
  -- A place is empty and at the end of the text when its bytes are.
  have hend : (place.1 = text.toList.length ∧ place.2 = text.toList.length) ↔
      (placeRange text.toList place).start = (placeRange text.toList place).stop ∧
        (placeRange text.toList place).start = byteLength text.toList := by
    rw [← hstart, ← hstop]
    constructor
    · intro hbytes
      exact ⟨hbytes.1.trans hbytes.2.symm, hbytes.1⟩
    · intro hbytes
      exact ⟨hbytes.2, hbytes.1.symm.trans hbytes.2⟩
  simp only [Function.comp_apply, Bool.and_assoc, ← Bool.decide_and, hend]

end Numbering.MarkedText
