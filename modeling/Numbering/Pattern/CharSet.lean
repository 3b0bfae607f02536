import Numbering.Text.Blank
import Numbering.Text.CaseFold
import Numbering.Text.Word

/-!
# Sets of characters in patterns

The sets that a pattern can name: ranges, the Unicode classes of digits, word characters and
blanks, and what is made of them by union, intersection, complement and by ignoring case.
-/

namespace Numbering

/-- A set of characters. -/
inductive CharSet where
  | none
  | range (first last : Char)
  | digit
  | word
  | blank
  | union (first second : CharSet)
  | intersection (first second : CharSet)
  | complement (set : CharSet)
  | folded (set : CharSet)

namespace CharSet

/-- The set of one character. -/
def single (char : Char) : CharSet := .range char char

/-- The set of all characters. -/
def all : CharSet := .complement .none

/-- The characters of the first set that are not in the second. -/
def difference (first second : CharSet) : CharSet := .intersection first (.complement second)

/-- The characters of exactly one of two sets. -/
def symmetricDifference (first second : CharSet) : CharSet :=
  .union (first.difference second) (second.difference first)

/-- The union of some inclusive ranges. -/
def ofRanges : List (Char × Char) → CharSet
  | [] => .none
  | (first, last) :: ranges => .union (.range first last) (ofRanges ranges)

/-- The ranges of the class of ASCII characters with a given name. -/
def asciiRanges? : String → Option (List (Char × Char))
  | "alnum" => some [('0', '9'), ('A', 'Z'), ('a', 'z')]
  | "alpha" => some [('A', 'Z'), ('a', 'z')]
  | "ascii" => some [('\x00', '\x7f')]
  | "blank" => some [('\t', '\t'), (' ', ' ')]
  | "cntrl" => some [('\x00', '\x1f'), ('\x7f', '\x7f')]
  | "digit" => some [('0', '9')]
  | "graph" => some [('!', '~')]
  | "lower" => some [('a', 'z')]
  | "print" => some [(' ', '~')]
  | "punct" => some [('!', '/'), (':', '@'), ('[', '\x60'), ('\x7b', '~')]
  | "space" => some [('\t', '\r'), (' ', ' ')]
  | "upper" => some [('A', 'Z')]
  | "word" => some [('0', '9'), ('A', 'Z'), ('_', '_'), ('a', 'z')]
  | "xdigit" => some [('0', '9'), ('A', 'F'), ('a', 'f')]
  | _ => Option.none

/-- A character belongs to a set. Ignoring case, every character with the same folded form as a
member belongs to it. -/
def contains : CharSet → Char → Bool
  | .none, _ => false
  | .range first last, char => first ≤ char && char ≤ last
  | .digit, char => Text.isDecimalDigit char
  | .word, char => Text.isWord char
  | .blank, char => Text.isBlank char
  | .union first second, char => first.contains char || second.contains char
  | .intersection first second, char => first.contains char && second.contains char
  | .complement set, char => !set.contains char
  | .folded set, char => (Text.foldOrbit char.toNat).any fun code ↦ set.contains (Char.ofNat code)

/-- All characters belong to the full set. -/
@[simp] theorem contains_all (char : Char) : all.contains char = true := rfl

end CharSet

end Numbering
