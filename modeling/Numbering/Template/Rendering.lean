import Numbering.Numeral.Radix
import Numbering.Template.Basic
import Numbering.Value.Json
import Numbering.Value.Text

/-!
# Rendering templates

A template is rendered segment by segment. A directive finds its argument, turns it into text by
its conversion, puts the sign in front and fills up to its width. The directives that name no
argument take the arguments one after the other. The first directive that fails decides the error.
-/

namespace Numbering

/-- Why a template cannot be rendered against some arguments. -/
inductive RenderError where
  | typeMismatch (found : Kind)
  | missingProperty (key : String)
  | missingArgument (number : Nat)
  | json (message : String)
  | widthTooLarge (width : Nat)
deriving DecidableEq

/-- The greatest width that a directive may fill up to. -/
def widthLimit : Nat := 65536

namespace RenderError

/-- The message of an error. -/
def message : RenderError → String
  | .typeMismatch found => "expecting number but found " ++ found.name
  | .missingProperty key => "property " ++ Text.quoted key ++ " does not exist"
  | .missingArgument number => "argument " ++ Digits.text number ++ " was not supplied"
  | .json message => "failed to serialize argument as JSON: " ++ message
  | .widthTooLarge width =>
      "field width " ++ Digits.text width ++ " exceeds the limit of " ++ Digits.text widthLimit

end RenderError

namespace Value

/-- The integer that an argument stands for: a finite number without its fraction, and for the
values that are not numbers the integer at the front of their text. -/
def integerArgument : Value → Binary64
  | .number amount => if amount.isFinite then amount.truncate else .nan
  | value => Numeral.readInteger value.text.toList

/-- The number that an argument stands for: a number itself, and for the values that are not
numbers the decimal at the front of their text. -/
def decimalArgument : Value → Binary64
  | .number amount => amount
  | value => Numeral.readDecimal value.text.toList

end Value

/-- The first characters of a text, up to a precision. -/
def truncateText (precision : Option Nat) (text : String) : String :=
  match precision with
  | some limit => String.ofList (text.toList.take limit)
  | none => text

/-- The character with a code, reduced modulo `2 ^ 16`; a surrogate gives the replacement
character. -/
def codeCharacter (code : Binary64) : Char :=
  let unit := (code.wrap (.ofNat 65536)).toInt.toNat
  if 0xD800 ≤ unit ∧ unit ≤ 0xDFFF then '\uFFFD' else Char.ofNat unit

/-- The tables of short paddings: zeros, blanks and underscores. -/
def paddingTable? : Char → Option (Array String)
  | '0' => some #["", "0", "00", "000", "0000", "00000", "000000", "0000000"]
  | ' ' => some #["", " ", "  ", "   ", "    ", "     ", "      ", "       "]
  | '_' => some #["", "_", "__", "___", "____", "_____", "______", "_______"]
  | _ => none

/-- So many copies of a character, from its table if it has one that goes so far. -/
def paddingText (char : Char) (count : Nat) : List Char :=
  match paddingTable? char with
  | some table =>
      if inside : count < table.size then table[count].toList else List.replicate count char
  | none => List.replicate count char

variable [Json.Writer]

namespace Conversion

/-- The text of an argument under a conversion, before sign and padding. Only a JSON text may be
refused. -/
def textOf (conversion : Conversion) (precision : Option Nat) (value : Value) :
    Except RenderError String :=
  match conversion with
  | .binary => .ok (String.ofList (Numeral.radix value.integerArgument 2))
  | .character => .ok (String.singleton (codeCharacter value.integerArgument))
  | .decimal | .integer => .ok (String.ofList (Numeral.plain value.integerArgument))
  | .json => (value.json (precision.getD 0)).mapError .json
  | .exponential =>
      match precision with
      | some places => .ok (String.ofList (Numeral.exponential value.decimalArgument places))
      | none => .ok (String.ofList (Numeral.shortestExponential value.decimalArgument))
  | .fixed =>
      match precision with
      | some places => .ok (String.ofList (Numeral.fixed value.decimalArgument places))
      | none => .ok (String.ofList (Numeral.plain value.decimalArgument))
  | .general =>
      match precision with
      | some count => .ok (String.ofList (Numeral.precise value.decimalArgument count))
      | none => .ok (String.ofList (Numeral.plain value.decimalArgument))
  | .octal =>
      match value with
      | .number number => .ok (String.ofList (Numeral.radix number 8))
      | other => .ok other.text
  | .text => .ok (truncateText precision value.text)
  | .truth => .ok (truncateText precision (Value.truthText value.isTruthy))
  | .kind => .ok (truncateText precision value.kind.name)
  | .unsigned =>
      .ok (String.ofList (Numeral.plain (value.integerArgument.wrap (.ofNat 4294967296))))
  | .primitive =>
      match value with
      | .string content => .ok (truncateText precision content)
      | other => .ok other.text
  | .hex => .ok (String.ofList (Numeral.radix value.integerArgument 16))
  | .upperHex => .ok (String.ofList ((Numeral.radix value.integerArgument 16).map Char.toUpper))

end Conversion

namespace Directive

/-- The number of arguments that a directive takes from the sequence of arguments. -/
def consumed (directive : Directive) : Nat :=
  match directive.reference with
  | .next => 1
  | .position _ | .path _ => 0

/-- The argument of a directive, when so many arguments have been taken in sequence before. -/
def resolve (directive : Directive) (arguments : List Value) (taken : Nat) :
    Except RenderError Value :=
  let argument (number : Nat) : Except RenderError Value :=
    match arguments[number - 1]? with
    | some value => .ok value
    | none => .error (.missingArgument number)
  match directive.reference with
  | .next => argument (taken + 1)
  | .position number => argument number
  | .path path =>
      match argument 1 with
      | .ok root => (root.get path).mapError .missingProperty
      | .error error => .error error

/-- A conversion that needs a number gets one: a number, or a value that stands for one. -/
def accepts (directive : Directive) (value : Value) : Bool :=
  !directive.conversion.needsNumber || value.isNumber || !value.toNumber.isNaN

/-- Drop one leading sign of a text. -/
def unsignedText : List Char → List Char
  | '+' :: rest => rest
  | '-' :: rest => rest
  | chars => chars

/-- The sign that a directive writes, and the text after it. A signed conversion writes its own
sign when the value is not zero or above, or when the directive asks for a sign. -/
def signed (directive : Directive) (value : Value) (text : List Char) : List Char × List Char :=
  let positive := value.toNumber.isAtLeastZero
  if directive.conversion.isSigned && (!positive || directive.forceSign) then
    ([if positive then '+' else '-'], unsignedText text)
  else ([], text)

/-- The character that a directive fills up with. -/
def paddingChar (directive : Directive) : Char :=
  match directive.padding with
  | some .zero => '0'
  | some (.custom char) => char
  | none => ' '

/-- Put sign, text and filling together. Zeros go between sign and text. -/
def padded (directive : Directive) (sign text : List Char) : List Char :=
  let missing := directive.width.getD 0 - (sign.length + text.length)
  let filling := paddingText directive.paddingChar missing
  if directive.leftAlign then sign ++ text ++ filling
  else if directive.paddingChar = '0' then sign ++ filling ++ text
  else filling ++ sign ++ text

/-- What is written for an argument with a text. A JSON text takes no sign and no filling. -/
def fieldOf (directive : Directive) (value : Value) (text : String) : String :=
  if directive.conversion = .json then text
  else
    let (sign, body) := directive.signed value text.toList
    String.ofList (directive.padded sign body)

/-- The text of an argument under a directive. -/
def format (directive : Directive) (value : Value) : Except RenderError String :=
  let value := if directive.conversion.forcesDelayed then value.force else value
  if directive.accepts value then
    (directive.conversion.textOf directive.precision value).map (directive.fieldOf value)
  else .error (.typeMismatch value.kind)

/-- Render a directive. A width above the limit is refused before anything else. -/
def render (directive : Directive) (arguments : List Value) (taken : Nat) :
    Except RenderError String :=
  if widthLimit < directive.width.getD 0 then
    .error (.widthTooLarge (directive.width.getD 0))
  else
    match directive.resolve arguments taken with
    | .ok value => directive.format value
    | .error error => .error error

end Directive

namespace Template

/-- Render segments, when so many arguments have been taken in sequence before. -/
def renderSegments (arguments : List Value) : Nat → List Segment → Except RenderError String
  | _, [] => .ok ""
  | taken, .literal text :: segments =>
      (renderSegments arguments taken segments).map (text ++ ·)
  | taken, .directive directive :: segments =>
      match directive.render arguments taken with
      | .ok text =>
          (renderSegments arguments (taken + directive.consumed) segments).map (text ++ ·)
      | .error error => .error error

/-- Render a template against arguments. -/
def render (template : Template) (arguments : List Value) : Except RenderError String :=
  renderSegments arguments 0 template.segments

end Template

end Numbering
