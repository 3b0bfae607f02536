import Numbering.Pattern.Matching

/-!
# Patterns that are anchors

A pattern may be a condition on a place and nothing else. Its matches are empty, and there is one
at every place of the text where the condition holds, from left to right
(`Pattern.findAll_holding`). The search finds each of these places twice: a search goes on where
the last match ended, and that is where an empty match started. The second time the match is
skipped.
-/

namespace Numbering

namespace Anchor

variable {anchor : Anchor} {text : Array Char} {place first : Nat} {others : List Nat}

/-- The places of a text from a given one on where the condition holds. The place behind the last
character counts. -/
def placesFrom (anchor : Anchor) (text : Array Char) (place : Nat) : List Nat :=
  (List.range' place (text.size + 1 - place)).filter (anchor.holds text)

/-- There are no places behind the end of the text. -/
theorem placesFrom_of_lt (hplace : text.size < place) : anchor.placesFrom text place = [] := by
  rw [placesFrom, show text.size + 1 - place = 0 by omega, List.range'_zero, List.filter_nil]

/-- A place of the text is tested before the ones after it. -/
theorem placesFrom_of_le (hplace : place ≤ text.size) :
    anchor.placesFrom text place =
      if anchor.holds text place then place :: anchor.placesFrom text (place + 1)
      else anchor.placesFrom text (place + 1) := by
  rw [placesFrom, show text.size + 1 - place = text.size + 1 - (place + 1) + 1 by omega,
    List.range'_succ, List.filter_cons, placesFrom]

/-- The first of the places from a given one on is also the first one from itself on, and the
others are the places behind it. -/
theorem placesFrom_eq_cons (hplaces : anchor.placesFrom text place = first :: others) :
    place ≤ first ∧ anchor.placesFrom text first = first :: others ∧
      anchor.placesFrom text (first + 1) = others := by
  -- The places in front of the first one are passed over.
  induction hcount : text.size + 1 - place generalizing place with
  | zero =>
      rw [placesFrom_of_lt (by omega)] at hplaces
      cases hplaces
  | succ count ih =>
      have hplaces' := hplaces
      rw [placesFrom_of_le (by omega)] at hplaces'
      by_cases hholds : anchor.holds text place = true
      · rw [if_pos hholds] at hplaces'
        cases hplaces'
        exact ⟨Nat.le_refl _, hplaces, rfl⟩
      · rw [if_neg hholds] at hplaces'
        obtain ⟨hle, hrest⟩ := ih hplaces' (by omega)
        exact ⟨by omega, hrest⟩

end Anchor

namespace Program

variable {anchor : Anchor} {text : Array Char} {place : Nat}

/-- A branch gets behind the demand where the condition holds, and nowhere else. -/
theorem waitingAt_require (anchor : Anchor) (text : Array Char) (place : Nat) :
    waitingAt #[.require anchor] text place [0] = if anchor.holds text place then [1] else [] := by
  by_cases hholds : anchor.holds text place = true
  · simp [waitingAt, follow, hholds]
  · simp [waitingAt, follow, hholds]

/-- A match ends where it started. -/
theorem matchEnd?_require (hplace : place ≤ text.size) :
    matchEnd? #[.require anchor] text place =
      if anchor.holds text place then some place else none := by
  rw [matchEnd?, show text.size + 1 - place = text.size - place + 1 by omega, bestEnd,
    waitingAt_require]
  by_cases hholds : anchor.holds text place = true
  · cases htext : text[place]? with
    | none => simp [hholds]
    | some char => simp [hholds, advance]
  · cases htext : text[place]? with
    | none => simp [hholds]
    | some char => simp [hholds, advance]

/-- The first match is at the first place where the condition holds. -/
theorem find?_require (anchor : Anchor) (text : Array Char) (place : Nat) :
    find? #[.require anchor] text place =
      (anchor.placesFrom text place).head?.map fun first ↦ (first, first) := by
  rw [find?]
  induction hcount : text.size + 1 - place generalizing place with
  | zero => rw [findWithin?, Anchor.placesFrom_of_lt (by omega), List.head?_nil, Option.map_none]
  | succ count ih =>
      rw [findWithin?, matchEnd?_require (by omega), Anchor.placesFrom_of_le (by omega)]
      by_cases hholds : anchor.holds text place = true
      · simp only [if_pos hholds, List.head?_cons, Option.map_some]
      · simp only [if_neg hholds]
        exact ih (place + 1) (by omega)

/-- The matches from a place on, when the match before ended in front of it. Each of them takes two
searches. -/
theorem findFrom_require {fuel : Nat} {previous : Option Nat}
    (hprevious : ∀ last ∈ previous, last < place)
    (hfuel : 2 * (anchor.placesFrom text place).length ≤ fuel) :
    findFrom #[.require anchor] text fuel place previous =
      (anchor.placesFrom text place).map fun first ↦ (first, first) := by
  induction hplaces : anchor.placesFrom text place generalizing fuel place previous with
  | nil =>
      have hnone : find? #[.require anchor] text place = none := by
        rw [find?_require, hplaces, List.head?_nil, Option.map_none]
      cases fuel with
      | zero => rfl
      | succ fuel => rw [findFrom, hnone, List.map_nil]
  | cons first others ih =>
      obtain ⟨hle, hagain, hothers⟩ := Anchor.placesFrom_eq_cons hplaces
      rw [hplaces, List.length_cons] at hfuel
      obtain ⟨fuel, rfl⟩ := Nat.exists_eq_add_of_le' (show 2 ≤ fuel by omega)
      have hnew : ¬(first = first ∧ previous = some first) := by
        intro hsame
        have hlt := hprevious first hsame.2
        omega
      have hlater : ∀ last ∈ some first, last < first + 1 := by
        intro last hlast
        cases hlast
        omega
      -- The match is found, found again and skipped, and then the rest is searched.
      rw [findFrom, find?_require, hplaces, List.head?_cons, Option.map_some, List.map_cons]
      dsimp only
      rw [if_neg hnew, findFrom, find?_require, hagain, List.head?_cons, Option.map_some]
      dsimp only
      rw [if_pos ⟨rfl, rfl⟩, ih hlater (by rw [hothers]; omega) hothers]

end Program

/-- A pattern that is an anchor matches, with nothing, at every place where its condition holds. -/
theorem Pattern.findAll_holding (anchor : Anchor) (text : Array Char) :
    (Pattern.holding anchor).findAll text =
      ((List.range (text.size + 1)).filter (anchor.holds text)).map fun place ↦ (place, place) := by
  have hplaces : anchor.placesFrom text 0 =
      (List.range (text.size + 1)).filter (anchor.holds text) := by
    rw [Anchor.placesFrom, Nat.sub_zero, List.range_eq_range']
  have hlength : (anchor.placesFrom text 0).length ≤ text.size + 1 :=
    calc (anchor.placesFrom text 0).length ≤ (List.range' 0 (text.size + 1 - 0)).length :=
          List.length_filter_le _ _
      _ = text.size + 1 := List.length_range'
  rw [findAll, program_holding, Program.findFrom_require (by simp) (by omega), hplaces]

end Numbering
