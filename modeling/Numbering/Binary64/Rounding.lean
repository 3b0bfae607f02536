import Numbering.Binary64.Basic

/-!
# Rounding to a binary format

Every operation on binary64 numbers is the exact rational operation followed by one rounding to
the nearest representable number, a tie going to the even significand. The rounding itself is
`roundToFormat`, which works for any precision and exponent range, so that the same definition
serves single precision.
-/

namespace Numbering

/-- The nearest integer to a rational number, a tie going to the even one. -/
def nearestEven (number : Rat) : Int :=
  let below := number.floor
  let excess := 2 * (number - (below : Rat))
  if excess < 1 then below
  else if 1 < excess then below + 1
  else if below % 2 = 0 then below
  else below + 1

/-- The exponent of the greatest power of two that is not above a positive rational number. -/
def floorLog2 (number : Rat) : Int :=
  let numeratorBits := number.num.natAbs.log2
  let denominatorBits := number.den.log2
  let estimate : Int := (numeratorBits : Int) - denominatorBits
  if number.den * Nat.pow 2 numeratorBits ≤ number.num.natAbs * Nat.pow 2 denominatorBits then
    estimate
  else estimate - 1

/-- A binary format: how many bits a significand has, and the least exponent of a significand. -/
structure BinaryFormat where
  precision : Nat
  leastExponent : Int

namespace BinaryFormat

/-- Double precision: 53 bits. -/
def double : BinaryFormat := ⟨53, Binary64.leastExponent⟩

/-- Single precision: 24 bits. -/
def single : BinaryFormat := ⟨24, -149⟩

/-- The exponent of the last significand bit of a positive number in a format. -/
def unitExponent (format : BinaryFormat) (number : Rat) : Int :=
  max format.leastExponent (floorLog2 number - (format.precision - 1 : Nat))

/-- Round a positive number to a significand and an exponent of a format without an upper limit
on exponents. When rounding carries into a new bit, the significand is halved once. -/
def round (format : BinaryFormat) (number : Rat) : Nat × Int :=
  let exponent := format.unitExponent number
  let significand := (nearestEven (number / powerOfTwo exponent)).toNat
  if significand = Nat.pow 2 format.precision then
    (Nat.pow 2 (format.precision - 1), exponent + 1)
  else (significand, exponent)

end BinaryFormat

namespace Binary64

/-- Round a nonnegative number to a magnitude; `none` means that it is too large. -/
def roundMagnitude? (number : Rat) : Option Magnitude :=
  if number = 0 then some .zero
  else
    let parts := BinaryFormat.double.round number
    Magnitude.ofParts? parts.1 parts.2

/-- The binary64 number with the given sign whose magnitude is nearest to a nonnegative number. -/
def ofMagnitude (negative : Bool) (number : Rat) : Binary64 :=
  match roundMagnitude? number with
  | some magnitude => .finite negative magnitude
  | none => .infinity negative

/-- The binary64 number nearest to a rational number; the first argument is the sign of an exact
zero. A number below zero keeps its sign when it rounds to zero. -/
def ofRat (negativeZero : Bool) (number : Rat) : Binary64 :=
  if number = 0 then signedZero negativeZero
  else if number < 0 then ofMagnitude true (-number)
  else ofMagnitude false number

/-- The binary64 number nearest to a natural number. -/
def ofNat (number : Nat) : Binary64 := ofRat false (number : Rat)

/-- The binary64 number nearest to an integer; zero is positive. -/
def ofInt (number : Int) : Binary64 := ofRat false (number : Rat)

/-- The number nearest to a rational number in single precision, as a binary64 number. -/
def ofRatSingle (negativeZero : Bool) (number : Rat) : Binary64 :=
  if number = 0 then signedZero negativeZero
  else
    let parts := BinaryFormat.single.round (if number < 0 then -number else number)
    if 104 < parts.2 then .infinity (decide (number < 0))
    else ofMagnitude (decide (number < 0)) ((parts.1 : Rat) * powerOfTwo parts.2)

end Binary64

end Numbering
