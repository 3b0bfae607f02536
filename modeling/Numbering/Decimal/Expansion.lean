import Numbering.Binary64.Basic
import Numbering.Text.Digits

/-!
# Decimal expansions

A decimal expansion is a list of digits with a decimal point: `d₁d₂…` and `point` denote
`0.d₁d₂… * 10 ^ point`. Every binary64 magnitude has a finite one (`Decimal.ofMagnitude`), because
a power of two in the denominator becomes a power of five in the numerator. `roundHalfUp` keeps a
number of leading digits and rounds half a unit away from zero.
-/

namespace Numbering

/-- Digits `d₁d₂…` with a decimal point, denoting `0.d₁d₂… * 10 ^ point`. -/
structure Decimal where
  digits : List Nat
  point : Int
deriving DecidableEq, Repr

namespace Decimal

/-- The number that an expansion denotes. -/
def toRat (decimal : Decimal) : Rat :=
  (Digits.toNat 10 decimal.digits : Rat) * powerOfTen (decimal.point - decimal.digits.length)

/-- The digits of `value * 10 ^ exponent`. -/
def ofScaled (value : Nat) (exponent : Int) : Decimal :=
  let digits := Digits.ofNat 10 value
  ⟨digits, digits.length + exponent⟩

/-- The exact expansion of a magnitude; that of zero is the digit zero before the point. -/
def ofMagnitude (magnitude : Magnitude) : Decimal :=
  if magnitude.significand = 0 then ⟨[0], 1⟩
  else
    match magnitude.exponent with
    | .ofNat exponent => ofScaled (magnitude.significand * Nat.pow 2 exponent) 0
    | .negSucc exponent =>
        ofScaled (magnitude.significand * Nat.pow 5 (exponent + 1)) (.negSucc exponent)

/-- The digits without the zeros at their end. -/
def dropTrailingZeros (digits : List Nat) : List Nat :=
  (digits.reverse.dropWhile (· = 0)).reverse

/-- Add one in the last place. The flag says whether a one is carried out of the first place, which
leaves zeros only. -/
def increment : List Nat → Bool × List Nat
  | [] => (true, [])
  | digit :: digits =>
      match increment digits with
      | (true, rest) => if digit = 9 then (true, 0 :: rest) else (false, (digit + 1) :: rest)
      | (false, rest) => (false, digit :: rest)

/-- The leading digits up to a count, with zeros where the digits end early. -/
def leading (digits : List Nat) (count : Nat) : List Nat :=
  digits.take count ++ List.replicate (count - digits.length) 0

/-- Keep a number of leading digits and round half a unit away from zero. A one that is carried out
of the first place becomes a digit of its own and moves the point; a negative count keeps
nothing. -/
def roundHalfUp (decimal : Decimal) (keep : Int) : Decimal :=
  if keep < 0 then ⟨[], decimal.point⟩
  else
    let count := keep.toNat
    let kept := leading decimal.digits count
    if decimal.digits.getD count 0 < 5 then ⟨kept, decimal.point⟩
    else
      match increment kept with
      | (true, zeros) => ⟨1 :: zeros, decimal.point + 1⟩
      | (false, digits) => ⟨digits, decimal.point⟩

/-- Adding one keeps the number of digits. -/
theorem length_increment (digits : List Nat) : (increment digits).2.length = digits.length := by
  induction digits with
  | nil => rfl
  | cons digit digits ih =>
      rcases hrest : increment digits with ⟨carry, rest⟩
      rw [hrest] at ih
      cases carry
      · simpa [increment, hrest] using ih
      · by_cases hnine : digit = 9
        · simpa [increment, hrest, hnine] using ih
        · simpa [increment, hrest, hnine] using ih

/-- The leading digits are as many as asked for. -/
theorem length_leading (digits : List Nat) (count : Nat) :
    (leading digits count).length = count := by
  simp only [leading, List.length_append, List.length_take, List.length_replicate]
  omega

end Decimal

end Numbering
