import Numbering.Text.Digits

/-!
# Key paths

A key path such as `user.tags[0]` names a part of a value: a first key, then any number of further
keys and indices. `KeyPath.parse?` reads a path and `KeyPath.text` writes one. Writing drops the
superfluous zeros of an index and nothing else.
-/

namespace Numbering

/-- One step of a key path. -/
inductive Accessor where
  | key (name : String)
  | index (position : Nat)
deriving DecidableEq

/-- A first key followed by further steps. -/
structure KeyPath where
  first : String
  rest : List Accessor
deriving DecidableEq

namespace Accessor

/-- The name that a step looks up: the key, or the numeral of the index. -/
def name : Accessor → String
  | .key name => name
  | .index position => Digits.text position

/-- A step as it is written after the first key. -/
def text : Accessor → String
  | .key name => "." ++ name
  | .index position => "[" ++ Digits.text position ++ "]"

end Accessor

namespace KeyPath

/-- All steps of a path. -/
def accessors (path : KeyPath) : List Accessor := .key path.first :: path.rest

/-- The steps after the first key, as they are written. -/
def restText : List Accessor → String
  | [] => ""
  | accessor :: rest => accessor.text ++ restText rest

/-- A path as it is written. -/
def text (path : KeyPath) : String := path.first ++ restText path.rest

/-- A key may start with an ASCII letter or an underscore. -/
def isKeyStart (char : Char) : Bool := char.isAlpha || char = '_'

/-- A key goes on with ASCII letters, digits and underscores. -/
def isKeyPart (char : Char) : Bool := char.isAlphanum || char = '_'

/-- Take the key at the front of a text. -/
def takeKey? : List Char → Option (String × List Char)
  | [] => none
  | char :: chars =>
      if isKeyStart char then
        some (String.ofList (char :: chars.takeWhile isKeyPart), chars.dropWhile isKeyPart)
      else none

/-- Take the index at the front of a text, up to and including the closing bracket. -/
def takeIndex? (chars : List Char) : Option (Nat × List Char) :=
  let digits := chars.takeWhile Digits.isDecimal
  match chars.dropWhile Digits.isDecimal with
  | ']' :: rest => if digits.isEmpty then none else (Digits.count? digits).map (·, rest)
  | _ => none

/-- What a key leaves is shorter than the text. -/
theorem length_of_takeKey? {chars rest : List Char} {key : String}
    (htake : takeKey? chars = some (key, rest)) : rest.length < chars.length := by
  cases chars with
  | nil => simp [takeKey?] at htake
  | cons char chars =>
      by_cases hstart : isKeyStart char = true
      · simp only [takeKey?, hstart, if_true, Option.some.injEq, Prod.mk.injEq] at htake
        rw [← htake.2]
        exact Nat.lt_succ_of_le (List.dropWhile_sublist isKeyPart).length_le
      · simp [takeKey?, hstart] at htake

/-- What an index leaves is shorter than the text. -/
theorem length_of_takeIndex? {chars rest : List Char} {position : Nat}
    (htake : takeIndex? chars = some (position, rest)) : rest.length < chars.length := by
  have hle := (List.dropWhile_sublist (l := chars) Digits.isDecimal).length_le
  unfold takeIndex? at htake
  simp only at htake
  split at htake
  · rename_i after hdrop
    split at htake
    · cases htake
    · obtain ⟨value, _, heq⟩ := Option.map_eq_some_iff.1 htake
      cases heq
      rw [hdrop] at hle
      exact hle
  · cases htake

/-- The steps after the first key. -/
def parseRest? (chars : List Char) : Option (List Accessor) :=
  match chars with
  | [] => some []
  | '.' :: afterPoint =>
      match _ : takeKey? afterPoint with
      | some (key, rest) => (parseRest? rest).map (.key key :: ·)
      | none => none
  | '[' :: afterBracket =>
      match _ : takeIndex? afterBracket with
      | some (position, rest) => (parseRest? rest).map (.index position :: ·)
      | none => none
  | _ => none
termination_by chars.length
decreasing_by
  · exact Nat.lt_succ_of_lt (length_of_takeKey? (by assumption))
  · exact Nat.lt_succ_of_lt (length_of_takeIndex? (by assumption))

/-- Read a path. It starts with a key, and every index is at most `2 ^ 64 - 1`. -/
def parse? (field : String) : Option KeyPath :=
  match takeKey? field.toList with
  | some (first, rest) => (parseRest? rest).map fun accessors ↦ ⟨first, accessors⟩
  | none => none

end KeyPath

end Numbering
