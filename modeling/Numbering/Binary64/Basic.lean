/-!
# Binary64 numbers

A binary64 number is a NaN, a signed infinity, or a sign together with a magnitude
`significand * 2 ^ exponent`. Every finite magnitude has exactly one canonical pair of
significand and exponent, so two finite numbers are equal as data precisely when sign and
magnitude agree; the two zeros differ in their sign only. Comparison, in contrast, looks at the
value alone: a NaN compares with nothing and the zeros are equal.
-/

namespace Numbering

/-- The power `2 ^ exponent` as an exact rational number. -/
def powerOfTwo : Int → Rat
  | .ofNat exponent => (Nat.pow 2 exponent : Nat)
  | .negSucc exponent => mkRat 1 (Nat.pow 2 (exponent + 1))

/-- The power `10 ^ exponent` as an exact rational number. -/
def powerOfTen : Int → Rat
  | .ofNat exponent => (Nat.pow 10 exponent : Nat)
  | .negSucc exponent => mkRat 1 (Nat.pow 10 (exponent + 1))

namespace Binary64

/-- The least exponent of a binary64 magnitude, that of the subnormal numbers. -/
def leastExponent : Int := -1074

/-- The greatest exponent of a finite binary64 magnitude. -/
def greatestExponent : Int := 971

/-- The least significand of a normal number, `2 ^ 52`. -/
def leadingBit : Nat := 4503599627370496

/-- The parts of a magnitude are canonical when the significand has at most 53 bits, the exponent
is in range, and the significand has all 53 bits unless the exponent is the least one. -/
def Canonical (significand : Nat) (exponent : Int) : Prop :=
  significand < 2 * leadingBit ∧ leastExponent ≤ exponent ∧ exponent ≤ greatestExponent ∧
    (leadingBit ≤ significand ∨ exponent = leastExponent)

instance (significand : Nat) (exponent : Int) : Decidable (Canonical significand exponent) :=
  inferInstanceAs (Decidable (_ ∧ _ ∧ _ ∧ _))

end Binary64

/-- A finite binary64 magnitude, `significand * 2 ^ exponent` in its canonical form. -/
structure Magnitude where
  significand : Nat
  exponent : Int
  canonical : Binary64.Canonical significand exponent
deriving DecidableEq

namespace Magnitude

/-- The zero magnitude. -/
def zero : Magnitude := ⟨0, Binary64.leastExponent, by decide⟩

/-- The magnitude with the given parts, when they are canonical. -/
def ofParts? (significand : Nat) (exponent : Int) : Option Magnitude :=
  if canonical : Binary64.Canonical significand exponent then
    some ⟨significand, exponent, canonical⟩
  else none

/-- The exact value of a magnitude. -/
def toRat (magnitude : Magnitude) : Rat :=
  (magnitude.significand : Rat) * powerOfTwo magnitude.exponent

end Magnitude

/-- A binary64 number. NaNs are not told apart. -/
inductive Binary64 where
  | nan
  | infinity (negative : Bool)
  | finite (negative : Bool) (magnitude : Magnitude)
deriving DecidableEq

namespace Binary64

/-- The zero with the given sign. -/
def signedZero (negative : Bool) : Binary64 := .finite negative .zero

/-- Positive zero. -/
def zero : Binary64 := signedZero false

/-- The number one. -/
def one : Binary64 := .finite false ⟨leadingBit, -52, by decide⟩

/-- The exact value of a finite number, and zero for the other ones. -/
def toRat : Binary64 → Rat
  | .finite negative magnitude => if negative then -magnitude.toRat else magnitude.toRat
  | _ => 0

/-- The number is a NaN. -/
def isNaN : Binary64 → Bool
  | .nan => true
  | _ => false

/-- The number is neither a NaN nor an infinity. -/
def isFinite : Binary64 → Bool
  | .finite _ _ => true
  | _ => false

/-- The number is one of the two zeros. -/
def isZero : Binary64 → Bool
  | .finite _ magnitude => magnitude.significand = 0
  | _ => false

/-- The number carries a minus sign; a NaN carries none. -/
def isNegative : Binary64 → Bool
  | .nan => false
  | .infinity negative => negative
  | .finite negative _ => negative

/-- Change the sign. -/
def neg : Binary64 → Binary64
  | .nan => .nan
  | .infinity negative => .infinity (!negative)
  | .finite negative magnitude => .finite (!negative) magnitude

/-- Clear the sign. -/
def abs : Binary64 → Binary64
  | .nan => .nan
  | .infinity _ => .infinity false
  | .finite _ magnitude => .finite false magnitude

/-- The first number is below the second; never so when one of them is a NaN. -/
def less : Binary64 → Binary64 → Bool
  | .nan, _ | _, .nan => false
  | .infinity first, .infinity second => first && !second
  | .infinity first, .finite _ _ => first
  | .finite _ _, .infinity second => !second
  | .finite first x, .finite second y =>
      (Binary64.finite first x).toRat < (Binary64.finite second y).toRat

/-- The two numbers have the same value: the zeros are equal, a NaN equals nothing. -/
def equals : Binary64 → Binary64 → Bool
  | .infinity first, .infinity second => first = second
  | .finite first x, .finite second y =>
      (Binary64.finite first x).toRat = (Binary64.finite second y).toRat
  | _, _ => false

/-- The number is below zero; neither zero is. -/
def isBelowZero : Binary64 → Bool
  | .nan => false
  | .infinity negative => negative
  | .finite negative magnitude => negative && magnitude.significand != 0

/-- The number is zero or above; a NaN is not. -/
def isAtLeastZero : Binary64 → Bool
  | .nan => false
  | .infinity negative => !negative
  | .finite negative magnitude => !negative || magnitude.significand = 0

/-- A number equals itself exactly when it is not a NaN. -/
theorem equals_self (number : Binary64) : number.equals number = !number.isNaN := by
  cases number <;> simp [equals, isNaN]

/-- Changing the sign twice changes nothing. -/
@[simp] theorem neg_neg (number : Binary64) : number.neg.neg = number := by
  cases number <;> simp [neg]

/-- The absolute value does not see the sign. -/
@[simp] theorem abs_neg (number : Binary64) : number.neg.abs = number.abs := by
  cases number <;> rfl

end Binary64

end Numbering
