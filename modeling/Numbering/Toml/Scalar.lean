import Numbering.Toml.Text

/-!
# Numbers, truth values and dates in TOML documents

A value without quotes or brackets is a word: a truth value, an integer in base 2, 8, 10 or 16, a
float, or a date or time of day. Underscores stand between digits only, and a decimal has no
superfluous zero in front.
-/

namespace Numbering.Toml

/-- The digits of a base in a word, with underscores between two of them. The flag says whether a
digit stands right before. -/
def readDigits? (base : Nat) : Bool → List Char → Option (List Nat)
  | after, [] => if after then some [] else none
  | after, char :: rest =>
      if char = '_' then if after then readDigits? base false rest else none
      else
        match Digits.value? base char with
        | some digit => (readDigits? base true rest).map (digit :: ·)
        | none => none

/-- The decimal digits of a word that has no superfluous zero in front. -/
def readWhole? (word : List Char) : Option (List Nat) :=
  match word with
  | '0' :: _ :: _ => none
  | word => readDigits? 10 false word

/-- An integer. Only a decimal one takes a sign. -/
def readInteger? (word : List Char) : Option Int :=
  let ofBase (base : Nat) (digits : List Char) : Option Int :=
    (readDigits? base false digits).map fun digits ↦ (Digits.toNat base digits : Int)
  match word with
  | '0' :: 'x' :: digits => ofBase 16 digits
  | '0' :: 'o' :: digits => ofBase 8 digits
  | '0' :: 'b' :: digits => ofBase 2 digits
  | word =>
      let (negative, unsigned) := Literal.takeSign word
      (readWhole? unsigned).map fun digits ↦
        let size : Int := Digits.toNat 10 digits
        if negative then -size else size

/-- The exponent of a float; without one it is zero. -/
def readExponent? : List Char → Option Int
  | [] => some 0
  | _ :: chars =>
      let (negative, unsigned) := Literal.takeSign chars
      (readDigits? 10 false unsigned).map fun digits ↦
        let size : Int := Digits.toNat 10 digits
        if negative then -size else size

/-- The character starts the exponent of a float. -/
def startsExponent (char : Char) : Bool := char = 'e' || char = 'E'

/-- A float: digits with a fraction or an exponent, `inf` or `nan`. -/
def readFloat? (word : List Char) : Option Value :=
  let (negative, unsigned) := Literal.takeSign word
  if unsigned = "inf".toList then some (.float (.infinity negative))
  else if unsigned = "nan".toList then some (.float .nan)
  else
    let mantissa := unsigned.takeWhile fun char ↦ !startsExponent char
    let exponentPart := unsigned.dropWhile fun char ↦ !startsExponent char
    let whole := mantissa.takeWhile (· ≠ '.')
    let fraction? :=
      match mantissa.dropWhile (· ≠ '.') with
      | [] => if exponentPart.isEmpty then none else some []
      | _ :: fraction => readDigits? 10 false fraction
    match readWhole? whole, fraction?, readExponent? exponentPart with
    | some whole, some fraction, some exponent =>
        let number := Binary64.ofDecimal negative (Digits.toNat 10 (whole ++ fraction))
          (exponent - fraction.length)
        some (if number.isFinite then .float number else .outsized)
    | _, _, _ => none

/-- Take so many decimal digits that denote a number in a range. -/
def takeField? (count least greatest : Nat) (chars : List Char) : Option (Nat × List Char) :=
  let digits := chars.take count
  let value := Digits.decimalNat digits
  if digits.length = count ∧ digits.all Digits.isDecimal ∧ least ≤ value ∧ value ≤ greatest then
    some (value, chars.drop count)
  else none

/-- Take one character. -/
def takeChar? (expected : Char) : List Char → Option (List Char)
  | [] => none
  | char :: rest => if char = expected then some rest else none

/-- The days of a month. -/
def daysOf (year month : Nat) : Nat :=
  if month = 2 then
    if year % 4 = 0 ∧ (year % 100 ≠ 0 ∨ year % 400 = 0) then 29 else 28
  else if month = 4 ∨ month = 6 ∨ month = 9 ∨ month = 11 then 30
  else 31

/-- Take a date. -/
def takeDate? (chars : List Char) : Option (List Char) := do
  let (year, rest) ← takeField? 4 0 9999 chars
  let rest ← takeChar? '-' rest
  let (month, rest) ← takeField? 2 1 12 rest
  let rest ← takeChar? '-' rest
  let (_, rest) ← takeField? 2 1 (daysOf year month) rest
  some rest

/-- Take a fraction of a second, if there is one. -/
def takeFraction? : List Char → Option (List Char)
  | '.' :: rest =>
      if (rest.takeWhile Digits.isDecimal).isEmpty then none
      else some (rest.dropWhile Digits.isDecimal)
  | chars => some chars

/-- Take a time of day; the seconds may be left out. -/
def takeTime? (chars : List Char) : Option (List Char) := do
  let (_, rest) ← takeField? 2 0 23 chars
  let rest ← takeChar? ':' rest
  let (_, rest) ← takeField? 2 0 59 rest
  match rest with
  | ':' :: rest => do
      let (_, rest) ← takeField? 2 0 60 rest
      takeFraction? rest
  | rest => some rest

/-- What may follow a time of day after a date: nothing, `Z`, or the distance from it in hours and
minutes, which is a day at most. -/
def isOffset (chars : List Char) : Bool :=
  match chars with
  | [] => true
  | sign :: rest =>
      if sign = 'Z' ∨ sign = 'z' then rest.isEmpty
      else if sign = '+' ∨ sign = '-' then
        let after? : Option (List Char) := do
          let (hours, rest) ← takeField? 2 0 24 rest
          let rest ← takeChar? ':' rest
          let (_, rest) ← takeField? 2 0 (if hours = 24 then 0 else 59) rest
          some rest
        after? = some []
      else false

/-- The word is a date, a time of day, or both. -/
def isDateTime (word : List Char) : Bool :=
  match takeDate? word with
  | some [] => true
  | some (separator :: rest) =>
      (separator = 'T' || separator = 't' || separator = ' ') && (takeTime? rest).any isOffset
  | none => takeTime? word = some []

/-- The character belongs to a word. -/
def isWordPart (char : Char) : Bool :=
  isKeyPart char || char = '+' || char = '.' || char = ':'

/-- Take a word. A date may be followed by a space and a time of day. -/
def takeWord (chars : List Char) : List Char × List Char :=
  let word := chars.takeWhile isWordPart
  let rest := chars.dropWhile isWordPart
  match takeDate? word, rest with
  | some [], ' ' :: digit :: _ =>
      if Digits.isDecimal digit then
        let afterSpace := rest.drop 1
        (word ++ ' ' :: afterSpace.takeWhile isWordPart, afterSpace.dropWhile isWordPart)
      else (word, rest)
  | _, _ => (word, rest)

/-- The value of a word. -/
def readWord (word : List Char) : Except ReadError Value :=
  if word = "true".toList then .ok (.boolean true)
  else if word = "false".toList then .ok (.boolean false)
  else
    match readInteger? word, readFloat? word with
    | some number, _ => .ok (.integer number)
    | none, some float => .ok float
    | none, none => if isDateTime word then .ok .dateTime else .error .malformed

end Numbering.Toml
