/-!
# Finders

A finder is what a pattern is compiled to: it gives the matches in any text. Places in a text are
counted in characters, and the matches stand from left to right and apart from each other.
-/

namespace Numbering

/-- Pieces of a text of a given length, each by the place of its first character and the place
behind its last one. They stand from left to right from a place on, and apart from each other. -/
def InOrder (length : Nat) : Nat → List (Nat × Nat) → Prop
  | _, [] => True
  | before, (first, last) :: places =>
      before ≤ first ∧ first ≤ last ∧ last ≤ length ∧ InOrder length last places

namespace InOrder

variable {length before : Nat} {places : List (Nat × Nat)}

/-- Pieces that are in order from a place on are in order from any earlier place on. -/
theorem of_le {earlier : Nat} (hplaces : InOrder length before places) (hle : earlier ≤ before) :
    InOrder length earlier places := by
  cases places with
  | nil => trivial
  | cons place places =>
      obtain ⟨hbefore, hrest⟩ := hplaces
      exact ⟨Nat.le_trans hle hbefore, hrest⟩

/-- Each of the pieces is one of the text. -/
theorem of_mem {place : Nat × Nat} (hplaces : InOrder length before places)
    (hplace : place ∈ places) : place.1 ≤ place.2 ∧ place.2 ≤ length := by
  induction places generalizing before with
  | nil => cases hplace
  | cons first places ih =>
      obtain ⟨-, hle, hlength, hrest⟩ := hplaces
      rcases List.mem_cons.1 hplace with rfl | hmem
      · exact ⟨hle, hlength⟩
      · exact ih hrest hmem

/-- Some of the pieces are in order as well. -/
theorem filter (hplaces : InOrder length before places) (keep : Nat × Nat → Bool) :
    InOrder length before (places.filter keep) := by
  induction places generalizing before with
  | nil => trivial
  | cons place places ih =>
      obtain ⟨hbefore, hle, hlength, hrest⟩ := hplaces
      rw [List.filter_cons]
      split
      · exact ⟨hbefore, hle, hlength, ih hrest⟩
      · exact (ih hrest).of_le (Nat.le_trans hbefore hle)

end InOrder

/-- The matches of a pattern in any text. -/
structure Finder where
  find : List Char → List (Nat × Nat)
  inOrder (chars : List Char) : InOrder chars.length 0 (find chars)

/-- A library of patterns: it compiles a pattern, or gives the message of an error. -/
class Finder.Compiler where
  compile : String → Except String Finder

end Numbering
