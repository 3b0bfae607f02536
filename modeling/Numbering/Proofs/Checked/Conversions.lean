import Numbering.Proofs.Checked.NumberTexts
import Numbering.Proofs.Checked.Radix
import Numbering.Proofs.Numeral.DigitReading
import Numbering.Template.Rendering

/-!
# Checked conversions

A conversion asks a value for its text and for its number. The reader of integers cuts the sign and
the digits off a text, at offsets that lie between two characters (`Checked.readInteger_eq`); the
text of an array takes in the texts of all numbers in it (`Checked.text_eq`). In this way every
conversion of every value has a result, and it is the one that is not checked (`Checked.textOf_eq`).
-/

namespace Numbering.Checked

open Digits Text Numeral

/-! ## Integers at the front of a text -/

/-- Cut off a sign, which is one byte long; the flag says whether it was a minus sign. -/
def takeSign (chars : List Char) : Option (Bool × List Char) :=
  match chars with
  | '-' :: _ => (behind? 1 chars).map (true, ·)
  | '+' :: _ => (behind? 1 chars).map (false, ·)
  | _ => some (false, chars)

/-- The character is a digit of a base. -/
def isDigitOf (base : Nat) (char : Char) : Bool := (value? base char).isSome

/-- The number that the digits at the front of a text denote. They are cut off where the first other
character starts. -/
def readLeading (base : Nat) (chars : List Char) : Option Binary64 :=
  (before? (byteLength (chars.takeWhile (isDigitOf base))) chars).map (readDigits base)

/-- The integer at the front of a text. -/
def readInteger (chars : List Char) : Option Binary64 := do
  let (negative, unsigned) ← takeSign (trimStart chars)
  let magnitude ← readLeading 10 unsigned
  return withSign negative magnitude

/-- Cutting off a sign has a result, the text without it. -/
theorem takeSign_eq (chars : List Char) : takeSign chars = some (Literal.takeSign chars) := by
  unfold takeSign
  split
  · exact congrArg (Option.map (true, ·)) (behind?_append ['-'] _)
  · exact congrArg (Option.map (false, ·)) (behind?_append ['+'] _)
  · rename_i hminus hplus
    unfold Literal.takeSign
    split
    · exact absurd rfl (hminus _)
    · exact absurd rfl (hplus _)
    · rfl

/-- The digits at the front of a text are all of them digits. -/
theorem allDigits?_takeWhile (base : Nat) (chars : List Char) :
    allDigits? base (chars.takeWhile (isDigitOf base)) = some (leadingDigits base chars) := by
  induction chars with
  | nil => rfl
  | cons char chars ih =>
      rw [leadingDigits]
      cases hvalue : value? base char with
      | none =>
          have hstop : ¬isDigitOf base char = true := by simp [isDigitOf, hvalue]
          rw [List.takeWhile_cons_of_neg hstop]
          rfl
      | some digit =>
          have hdigit : isDigitOf base char = true := by simp [isDigitOf, hvalue]
          rw [List.takeWhile_cons_of_pos hdigit, allDigits?, hvalue, ih]

/-- Reading the digits at the front of a text has a result. -/
theorem readLeading_eq (base : Nat) (chars : List Char) :
    readLeading base chars = some (accumulate base (leadingDigits base chars)) := by
  have hcut : before? (byteLength (chars.takeWhile (isDigitOf base))) chars =
      some (chars.takeWhile (isDigitOf base)) := by
    conv => lhs; arg 2; rw [← List.takeWhile_append_dropWhile (p := isDigitOf base) (l := chars)]
    exact before?_append _ _
  rw [readLeading, hcut, Option.map_some, readDigits, allDigits?_takeWhile]

/-- Reading the integer at the front of a text has a result. -/
theorem readInteger_eq (chars : List Char) :
    readInteger chars = some (Numeral.readInteger chars) := by
  unfold readInteger
  refine Option.bind_eq_some_iff.2 ⟨_, takeSign_eq _, ?_⟩
  exact Option.bind_eq_some_iff.2 ⟨_, readLeading_eq _ _, rfl⟩

/-! ## Values -/

mutual

/-- The plain text of a value. -/
def text : Value → Option String
  | .null => some "null"
  | .bool truth => some (Value.truthText truth)
  | .number amount => (plain amount).map String.ofList
  | .string text => some text
  | .array items => (itemTexts items).map (String.intercalate "," ·)
  | .object _ => some "[object Object]"
  | .delayed _ _ => some "[function]"

/-- The texts of the items of an array. -/
def itemTexts : List Value → Option (List String)
  | [] => some []
  | item :: items =>
      (if item.isNull then some "" else text item).bind fun first ↦
        (itemTexts items).map (first :: ·)

end

/-- The number that a value stands for. -/
def toNumber : Value → Option Binary64
  | .array items => (text (.array items)).map fun text ↦ readNumber text.toList
  | other => some other.toNumber

/-- The integer that an argument stands for. -/
def integerArgument : Value → Option Binary64
  | .number amount => some (if amount.isFinite then amount.truncate else .nan)
  | value => (text value).bind fun text ↦ readInteger text.toList

/-- The number that an argument stands for. -/
def decimalArgument : Value → Option Binary64
  | .number amount => some amount
  | value => (text value).map fun text ↦ readDecimal text.toList

mutual

/-- The checked text of a value is its text, at every depth. -/
theorem text_eq : (value : Value) → text value = some value.text
  | .null | .bool _ | .string _ | .object _ | .delayed _ _ => by
      rw [text, Value.text]
  | .number amount => by
      rw [text, Value.text, plain_eq]
      rfl
  | .array items => by
      rw [text, Value.text, itemTexts_eq items]
      rfl

/-- So are the checked texts of items. -/
theorem itemTexts_eq : (items : List Value) → itemTexts items = some (Value.itemTexts items)
  | [] => by rw [itemTexts, Value.itemTexts]
  | item :: items => by
      rw [itemTexts, Value.itemTexts, itemTexts_eq items, text_eq item]
      split
      · rfl
      · rfl

end

/-- The number that a value stands for is always found. -/
theorem toNumber_eq (value : Value) : toNumber value = some value.toNumber := by
  cases value with
  | array items =>
      rw [toNumber, text_eq]
      rfl
  | null | bool | number | string | object | delayed => rfl

/-- So is the integer that an argument stands for. -/
theorem integerArgument_eq (value : Value) :
    integerArgument value = some value.integerArgument := by
  cases value with
  | number amount => rfl
  | null | bool | string | array | object | delayed =>
      unfold integerArgument
      dsimp only
      rw [text_eq]
      exact readInteger_eq _

/-- So is the number that an argument stands for. -/
theorem decimalArgument_eq (value : Value) :
    decimalArgument value = some value.decimalArgument := by
  cases value with
  | number amount => rfl
  | null | bool | string | array | object | delayed =>
      unfold decimalArgument
      dsimp only
      rw [text_eq]
      rfl

/-! ## Conversions -/

/-- A text in characters is a text. -/
def written (chars : Option (List Char)) : Option (Except RenderError String) :=
  chars.map fun chars ↦ .ok (String.ofList chars)

variable [Json.Writer]

/-- The text of an argument under a conversion. -/
def textOf (conversion : Conversion) (precision : Option Nat) (value : Value) :
    Option (Except RenderError String) :=
  match conversion with
  | .binary => written ((integerArgument value).bind (radix · 2))
  | .character =>
      (integerArgument value).map fun code ↦ .ok (String.singleton (codeCharacter code))
  | .decimal | .integer => written ((integerArgument value).bind plain)
  | .json => some ((value.json (precision.getD 0)).mapError .json)
  | .exponential =>
      match precision with
      | some places => written ((decimalArgument value).bind (exponential · places))
      | none => written ((decimalArgument value).bind shortestExponential)
  | .fixed =>
      match precision with
      | some places => written ((decimalArgument value).bind (fixed · places))
      | none => written ((decimalArgument value).bind plain)
  | .general =>
      match precision with
      | some count => written ((decimalArgument value).bind (precise · count))
      | none => written ((decimalArgument value).bind plain)
  | .octal =>
      match value with
      | .number number => written (radix number 8)
      | other => (text other).map .ok
  | .text => (text value).map fun text ↦ .ok (truncateText precision text)
  | .truth => some (.ok (truncateText precision (Value.truthText value.isTruthy)))
  | .kind => some (.ok (truncateText precision value.kind.name))
  | .unsigned =>
      written ((integerArgument value).bind fun amount ↦ plain (amount.wrap (.ofNat 4294967296)))
  | .primitive =>
      match value with
      | .string content => some (.ok (truncateText precision content))
      | other => (text other).map .ok
  | .hex => written ((integerArgument value).bind (radix · 16))
  | .upperHex =>
      written (((integerArgument value).bind (radix · 16)).map (·.map Char.toUpper))

/-- The checked text of an argument under a conversion is its text under it, for every conversion,
precision and argument. -/
theorem textOf_eq (conversion : Conversion) (precision : Option Nat) (value : Value) :
    textOf conversion precision value = some (conversion.textOf precision value) := by
  cases conversion with
  | json | truth | kind => rfl
  | character =>
      rw [textOf, integerArgument_eq]
      rfl
  | decimal | integer | unsigned =>
      rw [textOf, integerArgument_eq, Option.bind_some, plain_eq]
      rfl
  | binary | hex | upperHex =>
      rw [textOf, integerArgument_eq, Option.bind_some, radix_eq _ (by decide) (by decide)]
      rfl
  | text =>
      rw [textOf, text_eq]
      rfl
  | exponential =>
      cases precision with
      | none =>
          rw [textOf, decimalArgument_eq, Option.bind_some, shortestExponential_eq]
          rfl
      | some places =>
          rw [textOf, decimalArgument_eq, Option.bind_some, exponential_eq]
          rfl
  | fixed =>
      cases precision with
      | none =>
          rw [textOf, decimalArgument_eq, Option.bind_some, plain_eq]
          rfl
      | some places =>
          rw [textOf, decimalArgument_eq, Option.bind_some, fixed_eq]
          rfl
  | general =>
      cases precision with
      | none =>
          rw [textOf, decimalArgument_eq, Option.bind_some, plain_eq]
          rfl
      | some count =>
          rw [textOf, decimalArgument_eq, Option.bind_some, precise_eq]
          rfl
  | octal =>
      cases value with
      | number number =>
          rw [textOf, radix_eq _ (by decide) (by decide)]
          rfl
      | null | bool | string | array | object | delayed =>
          simp only [textOf, text_eq]
          rfl
  | primitive =>
      cases value with
      | string content => rfl
      | null | bool | number | array | object | delayed =>
          simp only [textOf, text_eq]
          rfl

end Numbering.Checked
