import Numbering.Finder
import Numbering.Text.Digits
import Numbering.Text.Utf8

/-!
# Marked text

A marked text is a text in which some pieces are marked. It is held as the pieces themselves: in
front of every marked piece the gap that separates it from the one before, and after the last one
the tail. So the marks are in order, inside the text, between characters and apart from each other
by construction. From outside, a mark is a range of byte offsets; `ofRanges` builds a marked text
from ranges and says which of several ranges is at fault.
-/

namespace Numbering

/-- A range of byte offsets, from the start up to the stop. -/
structure ByteRange where
  start : Nat
  stop : Nat
deriving DecidableEq

/-- Why ranges or replacements do not fit a text. -/
inductive MarkError where
  | invalidSelection (range : ByteRange)
  | overlap (offset : Nat)
  | replacementCount (expected given : Nat)
deriving DecidableEq

namespace MarkError

/-- The message of an error. -/
def message : MarkError → String
  | .invalidSelection range =>
      "selection " ++ Digits.text range.start ++ ".." ++ Digits.text range.stop ++
        " is out of bounds or not on a character boundary"
  | .overlap offset => "selections overlap at byte " ++ Digits.text offset
  | .replacementCount expected given =>
      "expected " ++ Digits.text expected ++ " replacement(s), got " ++ Digits.text given

end MarkError

/-- A marked piece of text and the gap in front of it. -/
structure MarkedPiece where
  gap : String
  mark : String
deriving DecidableEq

/-- A text in pieces: gaps and marks in turn, and the tail. -/
structure MarkedText where
  pieces : List MarkedPiece
  tail : String
deriving DecidableEq

namespace MarkedText

/-- The whole text: every gap with its mark, and the tail. -/
def text (marked : MarkedText) : String :=
  String.join (marked.pieces.flatMap (fun piece ↦ [piece.gap, piece.mark]) ++ [marked.tail])

/-- The marked pieces, in order. -/
def marks (marked : MarkedText) : List String := marked.pieces.map MarkedPiece.mark

/-- The number of marks. -/
def size (marked : MarkedText) : Nat := marked.pieces.length

/-- The ranges of the marks of some pieces that begin at an offset. -/
def rangesFrom (offset : Nat) : List MarkedPiece → List ByteRange
  | [] => []
  | piece :: pieces =>
      let start := offset + Text.byteLength piece.gap.toList
      let stop := start + Text.byteLength piece.mark.toList
      ⟨start, stop⟩ :: rangesFrom stop pieces

/-- The ranges of the marks. -/
def ranges (marked : MarkedText) : List ByteRange := rangesFrom 0 marked.pieces

/-- Put texts in the place of the marks, one for each piece. -/
def replacePieces : List MarkedPiece → List String → List MarkedPiece
  | piece :: pieces, text :: texts => ⟨piece.gap, text⟩ :: replacePieces pieces texts
  | _, _ => []

/-- Put texts in the place of the marks; the marks are then around the texts. There have to be as
many texts as marks. -/
def replace (marked : MarkedText) (texts : List String) : Except MarkError MarkedText :=
  if texts.length = marked.size then .ok { marked with pieces := replacePieces marked.pieces texts }
  else .error (.replacementCount marked.size texts.length)

/-- An offset lies inside a text or at its end, and not inside a character. -/
def isBoundary (chars : List Char) (offset : Nat) : Bool :=
  (Text.splitAt? offset chars).isSome

/-- A range marks a piece of a text. -/
def isValid (chars : List Char) (range : ByteRange) : Bool :=
  range.start ≤ range.stop && isBoundary chars range.start && isBoundary chars range.stop

/-- Ranges come in order of their starts, and among equal starts of their stops. -/
def precedes (first second : ByteRange) : Bool :=
  first.start < second.start || (first.start = second.start && first.stop ≤ second.stop)

/-- The first fault of ranges in order, given where the range before them stopped. -/
def fault? (chars : List Char) : Nat → List ByteRange → Option MarkError
  | _, [] => none
  | previous, range :: ranges =>
      if !isValid chars range then some (.invalidSelection range)
      else if range.start < previous then some (.overlap range.start)
      else fault? chars range.stop ranges

/-- Cut so many bytes off a text; a length that is not at a character boundary takes all of it. -/
def cutBytes (length : Nat) (chars : List Char) : List Char × List Char :=
  (Text.splitAt? length chars).getD (chars, [])

/-- Cut a text that begins at an offset at ranges in order. -/
def cut (offset : Nat) (chars : List Char) : List ByteRange → MarkedText
  | [] => ⟨[], String.ofList chars⟩
  | range :: ranges =>
      let gap := cutBytes (range.start - offset) chars
      let mark := cutBytes (range.stop - range.start) gap.2
      let others := cut range.stop mark.2 ranges
      { others with
        pieces := ⟨String.ofList gap.1, String.ofList mark.1⟩ :: others.pieces }

/-- Mark ranges of a text, given in any order. -/
def ofRanges (text : String) (ranges : List ByteRange) : Except MarkError MarkedText :=
  let chars := text.toList
  let sorted := ranges.mergeSort precedes
  match fault? chars 0 sorted with
  | some error => .error error
  | none => .ok (cut 0 chars sorted)

/-- Mark the places of a text that are given by their first character and the one after the last.
The first argument is the number of characters in front of the text. -/
def ofPlaces (before : Nat) (chars : List Char) : List (Nat × Nat) → MarkedText
  | [] => ⟨[], String.ofList chars⟩
  | (first, last) :: places =>
      let gap := chars.take (first - before)
      let rest := chars.drop (first - before)
      let others := ofPlaces last (rest.drop (last - first)) places
      { others with
        pieces := ⟨String.ofList gap, String.ofList (rest.take (last - first))⟩ :: others.pieces }

/-- A text without characters, or one that ends with a line break, has no line at its end. -/
def endsWithoutLine (chars : List Char) : Bool :=
  match chars.getLast? with
  | none => true
  | some char => char = '\n'

/-- Mark every match that is found, but not an empty one at the end of a text where no line is. -/
def ofMatches (text : String) (finder : Finder) : MarkedText :=
  let chars := text.toList
  let length := chars.length
  let withoutLine := endsWithoutLine chars
  let isPhantom (place : Nat × Nat) : Bool :=
    withoutLine && place.1 = length && place.2 = length
  ofPlaces 0 chars ((finder.find chars).filter fun place ↦ !isPhantom place)

end MarkedText

end Numbering
