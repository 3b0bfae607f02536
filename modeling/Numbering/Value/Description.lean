import Numbering.Numeral.Notation
import Numbering.Text.Quoted
import Numbering.Value.Basic

/-!
# Descriptions of values

The description of a value names its constructor and shows all that it holds, for messages to
programmers. What a delayed value stands for is not shown.
-/

namespace Numbering.Value

mutual

/-- The description of a value. -/
def describe : Value → String
  | .null => "Null"
  | .bool truth => "Bool(" ++ (if truth then "true" else "false") ++ ")"
  | .number amount => "Number(" ++ String.ofList (Numeral.detailed amount) ++ ")"
  | .string text => "String(" ++ Text.quoted text ++ ")"
  | .array items => "Array([" ++ String.intercalate ", " (describeItems items) ++ "])"
  | .object entries => "Object([" ++ String.intercalate ", " (describeEntries entries) ++ "])"
  | .delayed _ _ => "Lazy(..)"

/-- The descriptions of the items of an array. -/
def describeItems : List Value → List String
  | [] => []
  | item :: items => describe item :: describeItems items

/-- The descriptions of the entries of an object. -/
def describeEntries : List (String × Value) → List String
  | [] => []
  | (key, value) :: entries =>
      ("(" ++ Text.quoted key ++ ", " ++ describe value ++ ")") :: describeEntries entries

end

end Numbering.Value
