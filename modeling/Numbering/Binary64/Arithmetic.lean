import Numbering.Binary64.Rounding

/-!
# Arithmetic on binary64 numbers

Sum, difference, product, quotient and remainder are exact operations rounded once, with the
usual rules for infinities and for the sign of a zero result. `truncate` drops the fraction and
`wrap` reduces an integer into `[0, modulus)`.
-/

namespace Numbering

namespace Binary64

/-- The sum. An exact zero is negative only when both terms are. -/
def add : Binary64 → Binary64 → Binary64
  | .nan, _ | _, .nan => .nan
  | .infinity first, .infinity second => if first = second then .infinity first else .nan
  | .infinity first, .finite _ _ => .infinity first
  | .finite _ _, .infinity second => .infinity second
  | .finite first x, .finite second y =>
      ofRat (first && second) ((Binary64.finite first x).toRat + (Binary64.finite second y).toRat)

/-- The difference. -/
def sub (first second : Binary64) : Binary64 := first.add second.neg

/-- The product; an infinity times zero is a NaN. -/
def mul : Binary64 → Binary64 → Binary64
  | .nan, _ | _, .nan => .nan
  | .infinity first, .infinity second => .infinity (first ^^ second)
  | .infinity first, .finite second y =>
      if y.significand = 0 then .nan else .infinity (first ^^ second)
  | .finite first x, .infinity second =>
      if x.significand = 0 then .nan else .infinity (first ^^ second)
  | .finite first x, .finite second y => ofMagnitude (first ^^ second) (x.toRat * y.toRat)

/-- The quotient; a nonzero number divided by zero is an infinity. -/
def div : Binary64 → Binary64 → Binary64
  | .nan, _ | _, .nan => .nan
  | .infinity _, .infinity _ => .nan
  | .infinity first, .finite second _ => .infinity (first ^^ second)
  | .finite first _, .infinity second => signedZero (first ^^ second)
  | .finite first x, .finite second y =>
      if y.significand = 0 then
        if x.significand = 0 then .nan else .infinity (first ^^ second)
      else ofMagnitude (first ^^ second) (x.toRat / y.toRat)

/-- The remainder of the quotient truncated toward zero; it has the sign of the first number. -/
def rem : Binary64 → Binary64 → Binary64
  | .nan, _ | _, .nan | .infinity _, _ => .nan
  | .finite first x, .infinity _ => .finite first x
  | .finite first x, .finite _ y =>
      if y.significand = 0 then .nan
      else ofMagnitude first (x.toRat - ((x.toRat / y.toRat).floor : Rat) * y.toRat)

/-- The integer part, with the sign kept. -/
def truncate : Binary64 → Binary64
  | .finite negative magnitude => ofMagnitude negative (magnitude.toRat.floor : Rat)
  | other => other

/-- The integer part of a finite number as an integer, and zero for the other ones. -/
def toInt : Binary64 → Int
  | .finite negative magnitude =>
      if negative then -magnitude.toRat.floor else magnitude.toRat.floor
  | _ => 0

/-- The number has no fraction. -/
def isInteger : Binary64 → Bool
  | .finite _ magnitude => magnitude.toRat.den = 1
  | _ => false

/-- Reduce the integer part of a finite number into `[0, modulus)`; the other numbers give zero. A
negative multiple of the modulus gives negative zero. -/
def wrap (number modulus : Binary64) : Binary64 :=
  if number.isFinite then
    let remainder := number.truncate.rem modulus
    if remainder.isBelowZero then remainder.add modulus.abs else remainder
  else zero

end Binary64

end Numbering
