import Numbering.Binary64.Arithmetic
import Numbering.Decimal.Literal
import Numbering.Text.Blank

/-!
# Reading numbers from text

Four readers that never fail: what they cannot read is a NaN. `readInteger` and
`readIntegerOrHex` take the digits at the front of a text, `readDecimal` the longest decimal
literal at the front, and `readNumber` wants the text as a whole to be a number. Blanks in front
are skipped by all of them, and those at the end by the last one.
-/

namespace Numbering.Numeral

/-- The number that digits denote, by one product and one sum of binary64 numbers for each digit;
no digits are a NaN. -/
def accumulate (base : Nat) (digits : List Nat) : Binary64 :=
  if digits.isEmpty then .nan
  else
    digits.foldl (fun value digit ↦ (value.mul (.ofNat base)).add (.ofNat digit)) .zero

/-- The leading run of characters that are digits of a base, as digits. -/
def leadingDigits (base : Nat) : List Char → List Nat
  | [] => []
  | char :: chars =>
      match Digits.value? base char with
      | some digit => digit :: leadingDigits base chars
      | none => []

/-- The digits of a base that a text consists of, if it consists of digits only. -/
def allDigits? (base : Nat) : List Char → Option (List Nat)
  | [] => some []
  | char :: chars =>
      match Digits.value? base char, allDigits? base chars with
      | some digit, some digits => some (digit :: digits)
      | _, _ => none

/-- Give a number the sign that was read in front of it. -/
def withSign (negative : Bool) (number : Binary64) : Binary64 :=
  if negative then number.neg else number

/-- The integer at the front of a text: an optional sign and the leading decimal digits. -/
def readInteger (chars : List Char) : Binary64 :=
  let (negative, unsigned) := Literal.takeSign (Text.trimStart chars)
  withSign negative (accumulate 10 (leadingDigits 10 unsigned))

/-- The integer at the front of a text, hexadecimal when `0x` stands after the sign. -/
def readIntegerOrHex (chars : List Char) : Binary64 :=
  let (negative, unsigned) := Literal.takeSign (Text.trimStart chars)
  match unsigned with
  | '0' :: 'x' :: digits | '0' :: 'X' :: digits =>
      withSign negative (accumulate 16 (leadingDigits 16 digits))
  | _ => withSign negative (accumulate 10 (leadingDigits 10 unsigned))

/-- The longest decimal literal at the front of a text. -/
def readDecimal (chars : List Char) : Binary64 :=
  match Literal.scan? (Text.trimStart chars) with
  | some (number, _) => number
  | none => .nan

/-- The number that the digits of a base denote; anything else than digits is a NaN. -/
def readDigits (base : Nat) (chars : List Char) : Binary64 :=
  match allDigits? base chars with
  | some digits => accumulate base digits
  | none => .nan

/-- The number that a text as a whole denotes. A blank text is zero, and `0x`, `0o` and `0b` of
either case, which take no sign, introduce digits of base 16, 8 and 2. -/
def readNumber (chars : List Char) : Binary64 :=
  match Text.trim chars with
  | [] => .zero
  | '0' :: 'x' :: digits | '0' :: 'X' :: digits => readDigits 16 digits
  | '0' :: 'o' :: digits | '0' :: 'O' :: digits => readDigits 8 digits
  | '0' :: 'b' :: digits | '0' :: 'B' :: digits => readDigits 2 digits
  | text => (Literal.read? text).getD .nan

end Numbering.Numeral
