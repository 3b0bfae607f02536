import Numbering.Numeral.Reading
import Numbering.Numeral.Text
import Numbering.Value.Basic

/-!
# Values as text and as numbers

`Value.text` is the plain text of a value, `Value.toNumber` the number that it stands for. An array
has the texts of its items between commas, with nothing for a null, and stands for the number that
its text denotes; an object or a delayed value stands for no number.
-/

namespace Numbering.Value

/-- The text of a truth value. -/
def truthText (truth : Bool) : String := if truth then "true" else "false"

mutual

/-- The plain text of a value. -/
def text : Value → String
  | .null => "null"
  | .bool truth => truthText truth
  | .number amount => String.ofList (Numeral.plain amount)
  | .string text => text
  | .array items => String.intercalate "," (itemTexts items)
  | .object _ => "[object Object]"
  | .delayed _ _ => "[function]"

/-- The texts of the items of an array. -/
def itemTexts : List Value → List String
  | [] => []
  | item :: items => (if item.isNull then "" else text item) :: itemTexts items

end

/-- The number that a value stands for. -/
def toNumber : Value → Binary64
  | .null => .zero
  | .bool truth => if truth then .one else .zero
  | .number amount => amount
  | .string text => Numeral.readNumber text.toList
  | .array items => Numeral.readNumber (text (.array items)).toList
  | .object _ | .delayed _ _ => .nan

end Numbering.Value
