import Mathlib.Data.List.Sort
import Mathlib.Data.String.Basic
import Numbering.Value.Basic

/-!
# What a document keeps of a value

A JSON document has no delayed values and no numbers that are not finite, and it does not keep the
order of entries: `Value.norm` is what is left of a value. `Value.nesting` counts how deep
containers are nested, and `Value.parts` lists a value with all the values in it; the results of
delayed values count as neither.
-/

namespace Numbering.Value

/-- Entries in the order of their keys. -/
def sortEntries (entries : List (String × Value)) : List (String × Value) :=
  entries.mergeSort fun first second ↦ first.1 ≤ second.1

mutual

/-- A value with null in the place of every number that is not finite and of every delayed value,
without the entries of objects whose values are delayed, and with the other entries in the order of
their keys. -/
def norm : Value → Value
  | .null => .null
  | .bool truth => .bool truth
  | .number amount => if amount.isFinite then .number amount else .null
  | .string text => .string text
  | .array items => .array (normItems items)
  | .object entries => .object (sortEntries (normEntries entries))
  | .delayed _ _ => .null

/-- The items of an array. -/
def normItems : List Value → List Value
  | [] => []
  | item :: items => norm item :: normItems items

/-- The entries of an object that are not delayed. -/
def normEntries : List (String × Value) → List (String × Value)
  | [] => []
  | (key, value) :: entries =>
      if value.isDelayed then normEntries entries else (key, norm value) :: normEntries entries

end

mutual

/-- How deep containers are nested in a value. -/
def nesting : Value → Nat
  | .array items => nestingOfItems items + 1
  | .object entries => nestingOfEntries entries + 1
  | _ => 0

/-- How deep containers are nested in one of the items. -/
def nestingOfItems : List Value → Nat
  | [] => 0
  | item :: items => max (nesting item) (nestingOfItems items)

/-- How deep containers are nested in one of the entries. -/
def nestingOfEntries : List (String × Value) → Nat
  | [] => 0
  | (_, value) :: entries => max (nesting value) (nestingOfEntries entries)

end

mutual

/-- A value and all the values in its containers. -/
def parts : Value → List Value
  | .array items => .array items :: partsOfItems items
  | .object entries => .object entries :: partsOfEntries entries
  | value => [value]

/-- The parts of the items. -/
def partsOfItems : List Value → List Value
  | [] => []
  | item :: items => parts item ++ partsOfItems items

/-- The parts of the values of the entries. -/
def partsOfEntries : List (String × Value) → List Value
  | [] => []
  | (_, value) :: entries => parts value ++ partsOfEntries entries

end

/-- No entry has a new key. -/
theorem map_fst_normEntries_sublist (entries : List (String × Value)) :
    ((normEntries entries).map Prod.fst).Sublist (entries.map Prod.fst) := by
  induction entries with
  | nil => exact List.Sublist.refl _
  | cons entry entries ih =>
      obtain ⟨key, value⟩ := entry
      rw [normEntries]
      split
      · exact ih.cons _
      · exact ih.cons_cons _

end Numbering.Value
