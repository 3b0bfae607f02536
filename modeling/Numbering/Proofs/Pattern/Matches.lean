import Numbering.Finder
import Numbering.Pattern.Matching

/-!
# Matches in order

Whatever the pattern is, its matches lie inside the text, none of them ends before it starts, and
none starts before the one in front of it ends (`Pattern.inOrder_findAll`). A branch takes the
characters of the text one after the other, so that a match ends where it started or later; and the
search goes on from the end of the last match.
-/

namespace Numbering

namespace Program

variable {program : Program} {text : Array Char}

/-- Following branches from a place, the end of a match is found at the place or behind it. -/
theorem bounds_of_bestEnd {fuel place : Nat} {entries : List Nat} {best : Option Nat} {last : Nat}
    (hplace : place ≤ text.size)
    (hend : program.bestEnd text fuel place entries best = some last) :
    best = some last ∨ (place ≤ last ∧ last ≤ text.size) := by
  induction fuel generalizing place entries best with
  | zero => exact .inl hend
  | succ fuel ih =>
      rw [bestEnd] at hend
      -- The end that is known here is the one from before, or the place itself.
      have hknown : ∀ {preferred waiting : List Nat},
          (if preferred.length < waiting.length then some place else best) = some last →
          best = some last ∨ (place ≤ last ∧ last ≤ text.size) := by
        intro preferred waiting hbest
        split at hbest
        · cases hbest
          exact .inr ⟨Nat.le_refl _, hplace⟩
        · exact .inl hbest
      cases htext : text[place]? with
      | none =>
          rw [htext] at hend
          exact hknown hend
      | some char =>
          rw [htext] at hend
          dsimp only at hend
          have hinside : place < text.size := (Array.getElem?_eq_some_iff.1 htext).1
          split at hend
          · exact hknown hend
          · rcases ih hinside hend with hbest | hbounds
            · exact hknown hbest
            · exact .inr (by omega)

/-- A match ends behind its start and inside the text. -/
theorem bounds_of_matchEnd? {place last : Nat} (hplace : place ≤ text.size)
    (hmatch : program.matchEnd? text place = some last) : place ≤ last ∧ last ≤ text.size := by
  rcases bounds_of_bestEnd hplace hmatch with hnone | hbounds
  · cases hnone
  · exact hbounds

/-- The next match starts at the place of the search or behind it, and ends in the text. -/
theorem bounds_of_find? {place first last : Nat}
    (hfind : program.find? text place = some (first, last)) :
    place ≤ first ∧ first ≤ last ∧ last ≤ text.size := by
  rw [find?] at hfind
  induction hcount : text.size + 1 - place generalizing place with
  | zero =>
      rw [hcount, findWithin?] at hfind
      cases hfind
  | succ count ih =>
      rw [hcount, findWithin?] at hfind
      split at hfind
      · rename_i found hmatch
        cases hfind
        exact ⟨Nat.le_refl _, bounds_of_matchEnd? (by omega) hmatch⟩
      · have hnext : text.size + 1 - (place + 1) = count := by omega
        have hbounds := ih (hnext ▸ hfind) hnext
        omega

/-- The matches from a place on are in order from there. -/
theorem inOrder_findFrom (fuel place : Nat) (previous : Option Nat) :
    InOrder text.size place (program.findFrom text fuel place previous) := by
  induction fuel generalizing place previous with
  | zero => trivial
  | succ fuel ih =>
      rw [findFrom]
      split
      · trivial
      · rename_i first last hfind
        obtain ⟨hplace, hle, hsize⟩ := bounds_of_find? hfind
        split
        · exact (ih (place + 1) previous).of_le (Nat.le_succ place)
        · exact ⟨hplace, hle, hsize, ih last (some last)⟩

end Program

/-- The matches of a pattern are in order. -/
theorem Pattern.inOrder_findAll (pattern : Pattern) (text : Array Char) :
    InOrder text.size 0 (pattern.findAll text) :=
  Program.inOrder_findFrom _ 0 none

end Numbering
