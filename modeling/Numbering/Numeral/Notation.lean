import Numbering.Numeral.Text

/-!
# Other number notations

Three more ways to write a number with its shortest digits: `floating`, as JSON libraries do, and
`detailed` for a description of a value, which both always show a point or an exponent, and
`ungrouped` for messages, which never shows an exponent.
-/

namespace Numbering.Numeral

/-- Digits laid out positionally for any point. -/
def positional (decimal : Decimal) : List Char :=
  let digits := Digits.chars decimal.digits
  let point := decimal.point
  if (digits.length : Int) ≤ point then digits ++ zeros (point.toNat - digits.length)
  else if 0 < point then digits.take point.toNat ++ '.' :: digits.drop point.toNat
  else '0' :: '.' :: zeros (-point).toNat ++ digits

/-- Digits laid out positionally, with `.0` after a whole number. -/
def positionalWithPoint (decimal : Decimal) : List Char :=
  if (decimal.digits.length : Int) ≤ decimal.point then positional decimal ++ ".0".toList
  else positional decimal

/-- The shortest digits of a finite number other than zero, positionally from `1e-5` up to `1e16`,
and always with a point or an exponent. A number halfway between two shortest decimals goes to the
one with an even last digit. -/
def floating (number : Binary64) : List Char :=
  match number with
  | .finite _ magnitude =>
      let decimal := Decimal.shortest .even magnitude
      if -5 < decimal.point ∧ decimal.point ≤ 16 then
        sign number ++ positionalWithPoint decimal
      else sign number ++ scientific (Digits.chars decimal.digits) (decimal.point - 1)
  | _ => []

/-- The exponent part without a plus sign. -/
def bareExponentPart : Int → List Char
  | .ofNat exponent => 'e' :: Digits.numeral exponent
  | .negSucc exponent => 'e' :: '-' :: Digits.numeral (exponent + 1)

/-- A minus sign in front of every negative number, zero included. -/
def strictSign (number : Binary64) : List Char := if number.isNegative then ['-'] else []

/-- The text of a NaN or an infinity in short words. -/
def shortSpecial : Binary64 → List Char
  | .nan => "NaN".toList
  | .infinity negative => if negative then "-inf".toList else "inf".toList
  | .finite _ _ => []

/-- The text of a number in a description: positional for zero and from `1e-4` up to `1e16`, always
with a point or an exponent. -/
def detailed (number : Binary64) : List Char :=
  match number with
  | .finite _ magnitude =>
      if magnitude.significand = 0 then strictSign number ++ "0.0".toList
      else
        let decimal := shortestDigits magnitude
        if -4 < decimal.point ∧ decimal.point ≤ 16 then
          strictSign number ++ positionalWithPoint decimal
        else
          strictSign number ++ pointed (Digits.chars decimal.digits) ++
            bareExponentPart (decimal.point - 1)
  | other => shortSpecial other

/-- The text of a number without an exponent; a whole number has no point. -/
def ungrouped (number : Binary64) : List Char :=
  match number with
  | .finite _ magnitude =>
      if magnitude.significand = 0 then strictSign number ++ ['0']
      else strictSign number ++ positional (shortestDigits magnitude)
  | other => shortSpecial other

end Numbering.Numeral
