import Numbering.Binary64.Arithmetic
import Numbering.Decimal.Literal

/-!
# Numbers in JSON documents

A JSON number is scanned into a token, its sign, digits and exponent (`Json.scanNumber`), and the
token is converted to a number. `NumberToken.nearest` is the nearest number. `NumberToken.value`
is a conversion that gets by with one power of ten: the digits are gathered into a significand
below `2 ^ 64`, where digits that no longer fit only raise the exponent before the point and are
dropped after it; the value is the significand, rounded, times or divided by the power of ten,
rounded again. This is the nearest number whenever the significand is at most `2 ^ 53` and the
power at most `10 ^ 22`.
-/

namespace Numbering.Json

/-- Why a text is not a JSON document. -/
inductive ReadError where
  | unexpectedEnd
  | unexpectedCharacter (char : Char)
  | invalidNumber
  | numberOutOfRange
  | invalidEscape
  | loneSurrogate
  | controlCharacter
  | nestingLimit
  | trailingCharacters
deriving DecidableEq

namespace ReadError

/-- The message of an error. -/
def message : ReadError → String
  | .unexpectedEnd => "unexpected end"
  | .unexpectedCharacter char => "unexpected character " ++ String.singleton char
  | .invalidNumber => "invalid number"
  | .numberOutOfRange => "number out of range"
  | .invalidEscape => "invalid escape"
  | .loneSurrogate => "lone surrogate in escape"
  | .controlCharacter => "control character in string"
  | .nestingLimit => "nesting limit exceeded"
  | .trailingCharacters => "trailing characters"

end ReadError

/-- A number as it is written: a sign, the digits before and after the point, and the exponent. -/
structure NumberToken where
  negative : Bool
  whole : List Nat
  fraction : List Nat
  exponent : Int
deriving DecidableEq

/-! ## Converting tokens -/

/-- The number nearest to what a token denotes. -/
def NumberToken.nearest (token : NumberToken) : Binary64 :=
  .ofDecimal token.negative (Digits.toNat 10 (token.whole ++ token.fraction))
    (token.exponent - token.fraction.length)

/-- A number as gathered: its significand and its decimal exponent. -/
structure Gathered where
  significand : Nat
  exponent : Int
deriving DecidableEq

/-- The significand stays below `2 ^ 64`. -/
def significandLimit : Nat := 18446744073709551616

/-- An explicit exponent is below `2 ^ 31`. -/
def exponentLimit : Nat := 2147483648

/-- Gather the digits before the point. After the first digit that does not fit, each one only
raises the exponent. -/
def gatherWhole (gathered : Gathered) : List Nat → Gathered
  | [] => gathered
  | digit :: digits =>
      let significand := gathered.significand * 10 + digit
      if significand < significandLimit then gatherWhole { gathered with significand } digits
      else { gathered with exponent := gathered.exponent + (digits.length + 1 : Nat) }

/-- Gather the digits after the point. From the first digit that does not fit on, they are
dropped. -/
def gatherFraction (gathered : Gathered) : List Nat → Gathered
  | [] => gathered
  | digit :: digits =>
      let significand := gathered.significand * 10 + digit
      if significand < significandLimit then
        gatherFraction ⟨significand, gathered.exponent - 1⟩ digits
      else gathered

/-- The greatest power of ten that is multiplied or divided by at once, `10 ^ 308`. -/
def greatestPower : Nat := 308

/-- Scale a number by a power of ten: one product or quotient when the power is at most
`10 ^ 308`, and repeated quotients for a smaller one. The first argument bounds the quotients. -/
def scale : Nat → Binary64 → Int → Except ReadError Binary64
  | 0, number, _ => .ok number
  | fuel + 1, number, exponent =>
      if exponent.natAbs ≤ greatestPower then
        let power := Binary64.ofNat (Nat.pow 10 exponent.natAbs)
        if 0 ≤ exponent then
          let product := number.mul power
          if product.isFinite then .ok product else .error .numberOutOfRange
        else .ok (number.div power)
      else if number.isZero then .ok number
      else if 0 ≤ exponent then .error .numberOutOfRange
      else
        scale fuel (number.div (Binary64.ofNat (Nat.pow 10 greatestPower)))
          (exponent + greatestPower)

/-- The value of what was gathered; a minus sign applies last. -/
def Gathered.value (gathered : Gathered) (negative : Bool) : Except ReadError Binary64 :=
  (scale 4 (.ofNat gathered.significand) gathered.exponent).map fun number ↦
    if negative then number.neg else number

/-- The value of a token. An exponent out of its limit makes zero out of everything but a large
number, which is out of range. -/
def NumberToken.value (token : NumberToken) : Except ReadError Binary64 :=
  let gathered := gatherFraction (gatherWhole ⟨0, 0⟩ token.whole) token.fraction
  if token.exponent.natAbs < exponentLimit then
    Gathered.value ⟨gathered.significand, gathered.exponent + token.exponent⟩ token.negative
  else if gathered.significand ≠ 0 ∧ 0 ≤ token.exponent then .error .numberOutOfRange
  else .ok (.signedZero token.negative)

/-! ## Scanning tokens -/

/-- Scan the exponent of a number, which is zero when there is none. -/
def scanExponent (chars : List Char) : Except ReadError (Int × List Char) :=
  match chars with
  | [] => .ok (0, [])
  | mark :: afterMark =>
      if mark = 'e' ∨ mark = 'E' then
        let (negative, unsigned) := Literal.takeSign afterMark
        let (digits, rest) := Literal.takeDigits unsigned
        let size : Int := Digits.decimalNat digits
        if digits.isEmpty then .error .invalidNumber
        else .ok (if negative then -size else size, rest)
      else .ok (0, mark :: afterMark)

/-- Scan the digits after the point, of which there is at least one if there is a point. -/
def scanFraction (chars : List Char) : Except ReadError (List Nat × List Char) :=
  match chars with
  | '.' :: afterPoint =>
      let (fraction, rest) := Literal.takeDigits afterPoint
      if fraction.isEmpty then .error .invalidNumber
      else .ok (fraction.map Digits.decimalValue, rest)
  | rest => .ok ([], rest)

/-- Scan an unsigned number. A zero in front stands alone. -/
def scanUnsigned (negative : Bool) (chars : List Char) :
    Except ReadError (NumberToken × List Char) :=
  let (whole, afterWhole) := Literal.takeDigits chars
  if whole.isEmpty ∨ (whole.head? = some '0' ∧ 1 < whole.length) then .error .invalidNumber
  else
    match scanFraction afterWhole with
    | .error error => .error error
    | .ok (fraction, afterFraction) =>
        (scanExponent afterFraction).map fun (exponent, rest) ↦
          (⟨negative, whole.map Digits.decimalValue, fraction, exponent⟩, rest)

/-- Scan a number. -/
def scanNumber : List Char → Except ReadError (NumberToken × List Char)
  | '-' :: rest => scanUnsigned true rest
  | chars => scanUnsigned false chars

end Numbering.Json
