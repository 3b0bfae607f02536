import Numbering.Binary64.Arithmetic
import Numbering.Decimal.Shortest

/-!
# Number texts

The five texts of a number. `plain` writes the shortest digits that read back, positionally from
`1e-6` up to `1e21` and with an exponent elsewhere; `exponential` and `shortestExponential` always
write an exponent; `fixed` writes a number of places after the point; `precise` writes a number of
significant digits; `radix` writes the digits of any base. Rounding goes half a unit away from
zero on the exact binary value, and no text ever shows the sign of a zero.
-/

namespace Numbering.Numeral

/-- The text of a NaN or an infinity. -/
def special? : Binary64 → Option (List Char)
  | .nan => some "NaN".toList
  | .infinity false => some "Infinity".toList
  | .infinity true => some "-Infinity".toList
  | .finite _ _ => none

/-- Any number of zeros. -/
def zeros (count : Nat) : List Char := List.replicate count '0'

/-- The sign in front of a number: a minus sign below zero and nothing else. -/
def sign (number : Binary64) : List Char := if number.isBelowZero then ['-'] else []

/-- The exponent part of a text, always with a sign. -/
def exponentPart : Int → List Char
  | .ofNat exponent => 'e' :: '+' :: Digits.numeral exponent
  | .negSucc exponent => 'e' :: '-' :: Digits.numeral (exponent + 1)

/-- Digits with a point after the first one, if there are more. -/
def pointed : List Char → List Char
  | [] => []
  | [digit] => [digit]
  | digit :: digits => digit :: '.' :: digits

/-- Digits with the given exponent of the first one. -/
def scientific (digits : List Char) (exponent : Int) : List Char :=
  pointed digits ++ exponentPart exponent

/-- The digits of an expansion laid out positionally when the point is from -5 to 21, and with an
exponent otherwise. -/
def layout (decimal : Decimal) : List Char :=
  let digits := Digits.chars decimal.digits
  let point := decimal.point
  if (digits.length : Int) ≤ point ∧ point ≤ 21 then
    digits ++ zeros (point.toNat - digits.length)
  else if 0 < point ∧ point ≤ 21 then
    digits.take point.toNat ++ '.' :: digits.drop point.toNat
  else if -6 < point ∧ point ≤ 0 then
    '0' :: '.' :: zeros (-point).toNat ++ digits
  else scientific digits (point - 1)

/-- The shortest digits of a nonzero magnitude; a number halfway between two of them goes up. -/
def shortestDigits (magnitude : Magnitude) : Decimal := Decimal.shortest .up magnitude

/-- The plain text of a number. -/
def plain (number : Binary64) : List Char :=
  match number with
  | .finite _ magnitude =>
      if magnitude.significand = 0 then ['0']
      else sign number ++ layout (shortestDigits magnitude)
  | other => (special? other).getD []

/-- The text of a number with an exponent and the shortest digits. -/
def shortestExponential (number : Binary64) : List Char :=
  match number with
  | .finite _ magnitude =>
      if magnitude.significand = 0 then scientific ['0'] 0
      else
        let decimal := shortestDigits magnitude
        sign number ++ scientific (Digits.chars decimal.digits) (decimal.point - 1)
  | other => (special? other).getD []

/-- The magnitude rounded to a number of significant digits: the digits, and the decimal exponent
of the first one. -/
def significantDigits (magnitude : Magnitude) (count : Nat) : List Nat × Int :=
  let rounded := (Decimal.ofMagnitude magnitude).roundHalfUp count
  (rounded.digits.take count, rounded.point - 1)

/-- The text of a number with an exponent and a number of digits after the point, at most one
hundred. -/
def exponential (number : Binary64) (places : Nat) : List Char :=
  match number with
  | .finite _ magnitude =>
      let (digits, exponent) := significantDigits magnitude (min places 100 + 1)
      sign number ++ scientific (Digits.chars digits) exponent
  | other => (special? other).getD []

/-- Put a point before the last places of a run of digits, filling up with zeros so that at least
one digit stands before it. -/
def insertPoint (digits : List Char) (places : Nat) : List Char :=
  let filled := zeros (places + 1 - digits.length) ++ digits
  if places = 0 then filled
  else filled.take (filled.length - places) ++ '.' :: filled.drop (filled.length - places)

/-- From `10 ^ 21` on, the fixed text of a number is its plain text. -/
def fixedLimit : Binary64 := .ofNat 1000000000000000000000

/-- The text of a number with a number of places after the point, at most one hundred. -/
def fixed (number : Binary64) (places : Nat) : List Char :=
  match number with
  | .finite _ magnitude =>
      if number.abs.less fixedLimit then
        let places := min places 100
        let exact := Decimal.ofMagnitude magnitude
        let rounded := exact.roundHalfUp (exact.point + places)
        sign number ++ insertPoint (Digits.chars rounded.digits) places
      else plain number
  | other => (special? other).getD []

/-- The text of a number with a number of significant digits, at least one and at most one
hundred. An exponent is written when that of the first digit, after rounding, is below -6 or not
below the number of digits. -/
def precise (number : Binary64) (precision : Nat) : List Char :=
  match number with
  | .finite _ magnitude =>
      let count := max 1 (min precision 100)
      let (digits, exponent) := significantDigits magnitude count
      let chars := Digits.chars digits
      if exponent < -6 ∨ (count : Int) ≤ exponent then sign number ++ scientific chars exponent
      else if 0 ≤ exponent then
        let whole := exponent.toNat + 1
        let fraction := chars.drop whole
        sign number ++ chars.take whole ++ (if fraction.isEmpty then [] else '.' :: fraction)
      else sign number ++ '0' :: '.' :: zeros (-exponent - 1).toNat ++ chars
  | other => (special? other).getD []

end Numbering.Numeral
