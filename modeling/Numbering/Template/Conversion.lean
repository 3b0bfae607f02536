/-!
# Conversions

The sixteen ways in which a directive turns a value into text, each named by one letter.
-/

namespace Numbering

/-- The way in which a directive turns a value into text. -/
inductive Conversion where
  | binary
  | character
  | decimal
  | exponential
  | fixed
  | general
  | integer
  | json
  | octal
  | text
  | truth
  | kind
  | unsigned
  | primitive
  | hex
  | upperHex
deriving DecidableEq

namespace Conversion

/-- The letter of a conversion. -/
def letter : Conversion → Char
  | .binary => 'b'
  | .character => 'c'
  | .decimal => 'd'
  | .exponential => 'e'
  | .fixed => 'f'
  | .general => 'g'
  | .integer => 'i'
  | .json => 'j'
  | .octal => 'o'
  | .text => 's'
  | .truth => 't'
  | .kind => 'T'
  | .unsigned => 'u'
  | .primitive => 'v'
  | .hex => 'x'
  | .upperHex => 'X'

/-- The conversion with a given letter. -/
def ofLetter? : Char → Option Conversion
  | 'b' => some .binary
  | 'c' => some .character
  | 'd' => some .decimal
  | 'e' => some .exponential
  | 'f' => some .fixed
  | 'g' => some .general
  | 'i' => some .integer
  | 'j' => some .json
  | 'o' => some .octal
  | 's' => some .text
  | 't' => some .truth
  | 'T' => some .kind
  | 'u' => some .unsigned
  | 'v' => some .primitive
  | 'x' => some .hex
  | 'X' => some .upperHex
  | _ => none

/-- The argument of the conversion has to be convertible to a number. -/
def needsNumber : Conversion → Bool
  | .binary | .character | .decimal | .exponential | .fixed | .general | .integer | .unsigned
  | .hex | .upperHex => true
  | _ => false

/-- The conversion writes a sign of its own in front of the padding. -/
def isSigned : Conversion → Bool
  | .decimal | .exponential | .fixed | .general | .integer => true
  | _ => false

/-- The conversion looks at the result of a delayed value, and not at the delayed value itself. -/
def forcesDelayed : Conversion → Bool
  | .kind | .primitive => false
  | _ => true

/-- A conversion is found by its letter. -/
@[simp] theorem ofLetter?_letter (conversion : Conversion) :
    ofLetter? conversion.letter = some conversion := by
  cases conversion <;> rfl

/-- A letter that finds a conversion is the letter of it. -/
theorem letter_of_ofLetter? {char : Char} {conversion : Conversion}
    (hfound : ofLetter? char = some conversion) : conversion.letter = char := by
  unfold ofLetter? at hfound
  split at hfound <;> cases hfound <;> rfl

end Conversion

end Numbering
