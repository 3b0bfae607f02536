import Numbering.Binary64.Arithmetic
import Numbering.KeyPath

/-!
# Values

The arguments of a rendering: null, truth values, numbers, strings, arrays, objects with their
entries in order, and delayed values. A delayed value stands for the result of a computation that
has not been looked at yet; it carries that result and an identity of its own, and only its
identity counts when values are compared.
-/

namespace Numbering

/-- An argument of a rendering. -/
inductive Value where
  | null
  | bool (truth : Bool)
  | number (amount : Binary64)
  | string (text : String)
  | array (items : List Value)
  | object (entries : List (String × Value))
  | delayed (identity : Nat) (result : Value)

/-- What sort of value a value is. -/
inductive Kind where
  | null
  | boolean
  | number
  | string
  | array
  | object
  | function
deriving DecidableEq

namespace Kind

/-- The name of a kind. -/
def name : Kind → String
  | .null => "null"
  | .boolean => "boolean"
  | .number => "number"
  | .string => "string"
  | .array => "array"
  | .object => "object"
  | .function => "function"

end Kind

namespace Value

/-- The kind of a value; a delayed value is a function. -/
def kind : Value → Kind
  | .null => .null
  | .bool _ => .boolean
  | .number _ => .number
  | .string _ => .string
  | .array _ => .array
  | .object _ => .object
  | .delayed _ _ => .function

/-- The value is null. -/
def isNull : Value → Bool
  | .null => true
  | _ => false

/-- The value is a number. -/
def isNumber : Value → Bool
  | .number _ => true
  | _ => false

/-- The value is a delayed value. -/
def isDelayed : Value → Bool
  | .delayed _ _ => true
  | _ => false

/-- Only null, false, the zeros, NaN and the empty string count as false. -/
def isTruthy : Value → Bool
  | .null => false
  | .bool truth => truth
  | .number amount => !amount.isZero && !amount.isNaN
  | .string text => !text.isEmpty
  | .array _ | .object _ | .delayed _ _ => true

/-- The result of a delayed value, and any other value itself. -/
def force : Value → Value
  | .delayed _ result => result
  | value => value

mutual

/-- Two values are the same: numbers by value, delayed values by identity, and containers entry by
entry in order. -/
def same : Value → Value → Bool
  | .null, .null => true
  | .bool first, .bool second => first = second
  | .number first, .number second => first.equals second
  | .string first, .string second => first = second
  | .array first, .array second => sameItems first second
  | .object first, .object second => sameEntries first second
  | .delayed first _, .delayed second _ => first = second
  | _, _ => false

/-- Two lists of values are the same item by item. -/
def sameItems : List Value → List Value → Bool
  | [], [] => true
  | first :: firsts, second :: seconds => same first second && sameItems firsts seconds
  | _, _ => false

/-- Two lists of entries are the same entry by entry, with equal keys. -/
def sameEntries : List (String × Value) → List (String × Value) → Bool
  | [], [] => true
  | (firstKey, first) :: firsts, (secondKey, second) :: seconds =>
      firstKey = secondKey && same first second && sameEntries firsts seconds
  | _, _ => false

end

/-- The entry of an object with a key; of several the first one counts. -/
def entry? (key : String) : List (String × Value) → Option Value
  | [] => none
  | (other, value) :: entries => if other = key then some value else entry? key entries

/-- The part of a value that one step of a key path names. Objects have their entries, arrays and
strings their items and a length. -/
def member? : Value → Accessor → Option Value
  | .object entries, accessor => entry? accessor.name entries
  | .array items, .index position => items[position]?
  | .array items, .key "length" => some (.number (.ofNat items.length))
  | .string text, .index position =>
      text.toList[position]?.map fun char ↦ .string (String.singleton char)
  | .string text, .key "length" => some (.number (.ofNat text.toList.length))
  | _, _ => none

/-- Follow the steps of a path; the error is the name that the first failing step looked up. -/
def walk : Value → List Accessor → Except String Value
  | value, [] => .ok value
  | value, accessor :: accessors =>
      match value.member? accessor with
      | some member => walk member accessors
      | none => .error accessor.name

/-- The part of a value that a key path names. -/
def get (value : Value) (path : KeyPath) : Except String Value := value.walk path.accessors

end Value

end Numbering
