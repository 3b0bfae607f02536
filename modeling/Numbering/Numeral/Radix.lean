import Numbering.Numeral.Text

/-!
# Numbers in any base

The digits before the point are found by repeated division, those after it by repeated
multiplication, each step rounding once as binary64 arithmetic does. At most fifty-two digits
follow the point.
-/

namespace Numbering.Numeral

/-- Divide by the base until nothing is left, putting each remainder in front of the digits found
so far. The first argument bounds the number of digits. -/
def integerDigits (base : Binary64) : Nat → Binary64 → List Nat → List Nat
  | 0, _, found => found
  | limit + 1, number, found =>
      let found := (number.rem base).toInt.toNat :: found
      let quotient := (number.div base).truncate
      if quotient.less .one then found else integerDigits base limit quotient found

/-- Multiply by the base and take the integer part as the next digit until nothing is left or the
limit is reached. -/
def fractionDigits (base : Binary64) : Nat → Binary64 → List Nat
  | 0, _ => []
  | limit + 1, fraction =>
      if fraction.isZero then []
      else
        let scaled := fraction.mul base
        let digit := scaled.truncate
        digit.toInt.toNat :: fractionDigits base limit (scaled.sub digit)

/-- More digits than any finite number has before the point, in a base of two or more. -/
def integerDigitLimit : Nat := 1100

/-- The most digits written after the point. -/
def fractionDigitLimit : Nat := 52

/-- The text of a number in a base of two or more. -/
def radix (number : Binary64) (base : Nat) : List Char :=
  match special? number with
  | some text => text
  | none =>
      let base := Binary64.ofNat base
      let whole := number.abs.truncate
      let fraction := number.abs.sub whole
      let digits := fractionDigits base fractionDigitLimit fraction
      sign number ++ Digits.chars (integerDigits base integerDigitLimit whole []) ++
        (if digits.isEmpty then [] else '.' :: Digits.chars digits)

end Numbering.Numeral
