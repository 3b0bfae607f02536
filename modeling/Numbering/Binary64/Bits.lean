import Numbering.Binary64.Rounding

/-!
# The interchange bits of binary64 numbers

A number is laid out as a sign bit, eleven exponent bits and fifty-two fraction bits. Main fact:
the magnitude bits of a canonical magnitude are its significand, moved up by one binade for every
step of the exponent.
-/

namespace Numbering

namespace Binary64

/-- The sign bit, `2 ^ 63`. -/
def signBit : Nat := 9223372036854775808

/-- The magnitude bits of an infinity; all greater ones are NaNs. -/
def infinityBits : Nat := 9218868437227405312

/-- The magnitude bits of a finite number. -/
def magnitudeBits (magnitude : Magnitude) : Nat :=
  (magnitude.exponent - leastExponent).toNat * leadingBit + magnitude.significand

/-- The sixty-four bits of a number; a NaN has the quiet bit and nothing else set. -/
def toBits : Binary64 → Nat
  | .nan => infinityBits + leadingBit / 2
  | .infinity negative => (if negative then signBit else 0) + infinityBits
  | .finite negative magnitude => (if negative then signBit else 0) + magnitudeBits magnitude

/-- The number with the given sixty-four bits; higher bits are ignored. -/
def ofBits (bits : Nat) : Binary64 :=
  let negative := decide (bits / signBit % 2 = 1)
  let fraction := bits % leadingBit
  let binade := bits / leadingBit % 2048
  if binade = 2047 then
    if fraction = 0 then .infinity negative else .nan
  else
    let magnitude :=
      if binade = 0 then Magnitude.ofParts? fraction leastExponent
      else Magnitude.ofParts? (leadingBit + fraction) (leastExponent + (binade - 1 : Nat))
    match magnitude with
    | some magnitude => .finite negative magnitude
    | none => .nan

end Binary64

end Numbering
