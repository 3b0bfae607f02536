import Numbering.Binary64.Arithmetic
import Numbering.Text.Digits
import Numbering.Value.Basic

/-!
# Values as JSON

The JSON text of a value, compact or with one entry on a line. A delayed value is null, and an
entry of an object whose value is delayed is left out. The integers below `2 ^ 53` are written as
such, and all other numbers by a library (`Json.Writer`), which may refuse to.
-/

namespace Numbering

namespace Json

/-- A library that writes the numbers of a document that are not written as integers. It gives the
text of a number, or the message of an error. -/
class Writer where
  float : Binary64 → Except String (List Char)

/-- The first number that is not written as an integer, `2 ^ 53`. -/
def integerLimit : Binary64 := .ofNat 9007199254740992

/-- The number is an integer below `2 ^ 53`. -/
def isSmallInteger (number : Binary64) : Bool := number.isInteger && number.abs.less integerLimit

/-- The text of an integer. -/
def integer (number : Binary64) : List Char :=
  let size := Digits.numeral number.toInt.natAbs
  if number.toInt < 0 then '-' :: size else size

/-- The JSON text of a number: `null` when it is not finite, an integer when it is whole and below
`2 ^ 53`, and otherwise what the library makes of it. -/
def number [Writer] (number : Binary64) : Except String (List Char) :=
  if number.isFinite then
    if isSmallInteger number then .ok (integer number) else Writer.float number
  else .ok "null".toList

/-- The library writes every finite number that it is asked for. -/
def Writer.WritesFinite [Writer] : Prop :=
  ∀ number : Binary64, number.isFinite = true → isSmallInteger number = false →
    ∃ text, Writer.float number = .ok text

/-- With a library that writes every finite number, every number has a JSON text. -/
theorem Writer.WritesFinite.exists_number [Writer] (hwriter : Writer.WritesFinite)
    (amount : Binary64) : ∃ text, number amount = .ok text := by
  unfold number
  split
  · rename_i hfinite
    cases hsmall : isSmallInteger amount with
    | true => exact ⟨_, if_pos rfl⟩
    | false => exact hwriter amount hfinite hsmall
  · exact ⟨_, rfl⟩

/-- The hexadecimal digits of a control character, four of them. -/
def controlDigits (code : Nat) : List Char :=
  Digits.chars [0, 0, code / 16, code % 16]

/-- One character of a JSON string. -/
def stringChar (char : Char) : List Char :=
  if char = '"' then ['\\', '"']
  else if char = '\\' then ['\\', '\\']
  else if char.toNat = 8 then ['\\', 'b']
  else if char.toNat = 12 then ['\\', 'f']
  else if char = '\n' then ['\\', 'n']
  else if char = '\r' then ['\\', 'r']
  else if char = '\t' then ['\\', 't']
  else if char.toNat < 32 then ['\\', 'u'] ++ controlDigits char.toNat
  else [char]

/-- A text as a JSON string. -/
def string (text : String) : String :=
  String.ofList ('"' :: text.toList.flatMap stringChar ++ ['"'])

/-- The white space in front of an entry or a closing bracket: nothing in a compact text, and
otherwise a line break and the indentation. -/
def lineBreak (indent depth : Nat) : String :=
  if indent = 0 then "" else String.ofList ('\n' :: List.replicate (indent * depth) ' ')

/-- The entries of a container between its brackets. -/
def container (opening closing : String) (indent depth : Nat) (entries : List String) : String :=
  if entries.isEmpty then opening ++ closing
  else
    opening ++ lineBreak indent (depth + 1) ++
      String.intercalate ("," ++ lineBreak indent (depth + 1)) entries ++
      lineBreak indent depth ++ closing

/-- The mark between a key and its value. -/
def colon (indent : Nat) : String := if indent = 0 then ":" else ": "

end Json

namespace Value

variable [Json.Writer]

mutual

/-- The JSON text of a value at a nesting depth, with an indentation per level; without one the
text is compact. The first number that cannot be written makes the error. -/
def jsonAt (indent depth : Nat) : Value → Except String String
  | .null => .ok "null"
  | .bool truth => .ok (if truth then "true" else "false")
  | .number amount => (Json.number amount).map String.ofList
  | .string text => .ok (Json.string text)
  | .array items =>
      (jsonItems indent (depth + 1) items).map (Json.container "[" "]" indent depth)
  | .object entries =>
      (jsonEntries indent (depth + 1) entries).map (Json.container "\x7b" "\x7d" indent depth)
  | .delayed _ _ => .ok "null"

/-- The JSON texts of the items of an array. -/
def jsonItems (indent depth : Nat) : List Value → Except String (List String)
  | [] => .ok []
  | item :: items =>
      match jsonAt indent depth item with
      | .error message => .error message
      | .ok text => (jsonItems indent depth items).map (text :: ·)

/-- The JSON texts of the entries of an object that are not delayed. -/
def jsonEntries (indent depth : Nat) : List (String × Value) → Except String (List String)
  | [] => .ok []
  | (key, value) :: entries =>
      if value.isDelayed then jsonEntries indent depth entries
      else
        match jsonAt indent depth value with
        | .error message => .error message
        | .ok text =>
            (jsonEntries indent depth entries).map
              ((Json.string key ++ Json.colon indent ++ text) :: ·)

end

/-- The JSON text of a value with an indentation of at most ten; an indentation of zero gives a
compact text. -/
def json (value : Value) (indent : Nat) : Except String String := value.jsonAt (min indent 10) 0

end Value

end Numbering
