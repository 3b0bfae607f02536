import Numbering.Binary64.Rounding
import Numbering.Text.Digits

/-!
# Decimal literals

A decimal literal is an optional sign followed by `Infinity` or by decimal digits with an optional
point and an optional exponent; at least one digit stands before or after the point. `scan?` takes
the longest literal at the front of a text and leaves the rest, and the value of a literal is the
binary64 number nearest to the decimal it denotes.
-/

namespace Numbering

/-- The number nearest to `significand * 10 ^ exponent`. Exponents at which the answer is an
infinity or a zero for certain are settled without forming the power. -/
def Binary64.ofDecimal (negative : Bool) (significand : Nat) (exponent : Int) : Binary64 :=
  if significand = 0 then signedZero negative
  else if 400 < exponent then .infinity negative
  else if exponent + significand.log2 < -1100 then signedZero negative
  else ofMagnitude negative ((significand : Rat) * powerOfTen exponent)

/-- The number nearest to `significand * 10 ^ exponent` in single precision. -/
def Binary64.ofDecimalSingle (negative : Bool) (significand : Nat) (exponent : Int) : Binary64 :=
  if significand = 0 then signedZero negative
  else if 400 < exponent then .infinity negative
  else if exponent + significand.log2 < -1100 then signedZero negative
  else
    let size := (significand : Rat) * powerOfTen exponent
    ofRatSingle negative (if negative then -size else size)

namespace Literal

/-- Cut off a sign; the flag says whether it was a minus sign. -/
def takeSign : List Char → Bool × List Char
  | '-' :: rest => (true, rest)
  | '+' :: rest => (false, rest)
  | chars => (false, chars)

/-- Cut off the digits at the front. -/
def takeDigits (chars : List Char) : List Char × List Char :=
  (chars.takeWhile Digits.isDecimal, chars.dropWhile Digits.isDecimal)

/-- Cut off an exponent part, an `e` of either case with an optional sign and at least one digit;
without one the exponent is zero and nothing is cut off. -/
def takeExponent : List Char → Int × List Char
  | [] => (0, [])
  | mark :: rest =>
      if mark = 'e' ∨ mark = 'E' then
        let (negative, unsigned) := takeSign rest
        let (digits, after) := takeDigits unsigned
        if digits.isEmpty then (0, mark :: rest)
        else
          let size : Int := Digits.decimalNat digits
          (if negative then -size else size, after)
      else (0, mark :: rest)

/-- Cut off a fraction, a point and the digits after it. -/
def takeFraction : List Char → List Char × List Char
  | '.' :: rest => takeDigits rest
  | chars => ([], chars)

/-- Take the longest unsigned decimal at the front of a text: its significand, its exponent and
the rest of the text. -/
def takeDecimal? (chars : List Char) : Option (Nat × Int × List Char) :=
  let (whole, afterWhole) := takeDigits chars
  let (fraction, afterFraction) := takeFraction afterWhole
  if whole.isEmpty && fraction.isEmpty then none
  else
    let (exponent, rest) := takeExponent afterFraction
    some (Digits.decimalNat (whole ++ fraction), exponent - fraction.length, rest)

/-- Cut off a word at the front of a text. -/
def takeWord? : List Char → List Char → Option (List Char)
  | [], chars => some chars
  | letter :: word, char :: chars => if letter = char then takeWord? word chars else none
  | _ :: _, [] => none

/-- The value of the longest decimal literal at the front of a text, and the rest of the text. -/
def scan? (chars : List Char) : Option (Binary64 × List Char) :=
  let (negative, unsigned) := takeSign chars
  match takeWord? "Infinity".toList unsigned with
  | some rest => some (.infinity negative, rest)
  | none =>
      (takeDecimal? unsigned).map fun (significand, exponent, rest) ↦
        (Binary64.ofDecimal negative significand exponent, rest)

/-- The value of a text that is a decimal literal as a whole. -/
def read? (chars : List Char) : Option Binary64 :=
  match scan? chars with
  | some (number, []) => some number
  | _ => none

/-- The value of a decimal written as an option: like a decimal literal, but the words `inf`,
`infinity` and `nan` are read in any case. The first argument gives a decimal its value. -/
def readOptionWith? (value : Bool → Nat → Int → Binary64) (chars : List Char) :
    Option Binary64 :=
  let (negative, unsigned) := takeSign chars
  let word := unsigned.map Char.toLower
  if word = "inf".toList ∨ word = "infinity".toList then some (.infinity negative)
  else if word = "nan".toList then some .nan
  else
    match takeDecimal? unsigned with
    | some (significand, exponent, []) => some (value negative significand exponent)
    | _ => none

/-- The value of a decimal written as an option. -/
def readOption? (chars : List Char) : Option Binary64 := readOptionWith? Binary64.ofDecimal chars

/-- The value of a decimal written as an option, in single precision. -/
def readSingleOption? (chars : List Char) : Option Binary64 :=
  readOptionWith? Binary64.ofDecimalSingle chars

end Literal

end Numbering
