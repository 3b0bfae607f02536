import Numbering.KeyPath
import Numbering.Proofs.Text.Runs

/-!
# The grammar of key paths

A key path is spelled by a key, followed by any sequence of further keys behind a point and of
indices in brackets. `KeyPath.parse?` reads a text as a path precisely when the text spells the
path (`KeyPath.parse?_eq_some_iff`).
-/

namespace Numbering

namespace KeyPath

open Text Digits

/-- A key starts with a letter from `A` to `Z` of either case or with an underscore. -/
def StartsKey (char : Char) : Prop :=
  ('A' ≤ char ∧ char ≤ 'Z') ∨ ('a' ≤ char ∧ char ≤ 'z') ∨ char = '_'

/-- A key: a first character, then any number of characters that may start a key or are digits. -/
inductive IsKey : List Char → Prop where
  | intro (first rest) :
      StartsKey first → (∀ char ∈ rest, StartsKey char ∨ IsDigit char) → IsKey (first :: rest)

end KeyPath

open Digits in
/-- The ways to spell a step of a key path after the first key. -/
inductive Accessor.Spelling : Accessor → List Char → Prop where
  | key (name) : KeyPath.IsKey name.toList → Spelling (.key name) ('.' :: name.toList)
  | index (position digits) :
      IsCount position digits → Spelling (.index position) ('[' :: digits ++ [']'])

namespace KeyPath

open Text Digits

/-- The ways to spell a sequence of steps. -/
inductive Steps : List Accessor → List Char → Prop where
  | nil : Steps [] []
  | cons (accessor accessors chars others) :
      accessor.Spelling chars → Steps accessors others →
      Steps (accessor :: accessors) (chars ++ others)

/-- The ways to spell a key path. -/
structure Spelling (path : KeyPath) (chars : List Char) : Prop where
  isKey : IsKey path.first.toList
  steps : ∃ others, Steps path.rest others ∧ chars = path.first.toList ++ others

/-- The test for the start of a key, in terms of characters. -/
theorem isKeyStart_iff {char : Char} : isKeyStart char = true ↔ StartsKey char := by
  have hletter : char.isAlpha = true ↔ 'A' ≤ char ∧ char ≤ 'Z' ∨ 'a' ≤ char ∧ char ≤ 'z' := by
    show (decide ('A' ≤ char ∧ char ≤ 'Z') || (decide ('a' ≤ char) && decide (char ≤ 'z'))) =
      true ↔ _
    rw [Bool.or_eq_true, Bool.and_eq_true, decide_eq_true_eq, decide_eq_true_eq,
      decide_eq_true_eq]
  rw [isKeyStart, Bool.or_eq_true, decide_eq_true_eq, hletter, or_assoc]
  exact Iff.rfl

/-- The test for the rest of a key, in terms of characters. -/
theorem isKeyPart_iff {char : Char} : isKeyPart char = true ↔ StartsKey char ∨ IsDigit char := by
  rw [← isKeyStart_iff]
  simp only [isKeyPart, isKeyStart, Char.isAlphanum, Char.isDigit, Bool.or_eq_true,
    decide_eq_true_eq, IsDigit, Char.le_def, Bool.and_eq_true, or_assoc]
  exact or_congr_right or_comm

/-- A key in front of a text that does not continue it is taken as a whole. -/
theorem takeKey?_append {key rest : List Char} (hkey : IsKey key)
    (hstop : StopsRun isKeyPart rest) :
    takeKey? (key ++ rest) = some (String.ofList key, rest) := by
  cases hkey with
  | intro first others hfirst hothers =>
      have hrun : ∀ char ∈ others, isKeyPart char = true :=
        fun char hmem ↦ isKeyPart_iff.2 (hothers char hmem)
      rw [List.cons_append, takeKey?, if_pos (isKeyStart_iff.2 hfirst),
        takeWhile_run hrun hstop, dropWhile_run hrun hstop]

/-- What is taken as a key is a key. -/
theorem isKey_of_takeKey? {chars rest : List Char} {name : String}
    (htake : takeKey? chars = some (name, rest)) :
    IsKey name.toList ∧ chars = name.toList ++ rest := by
  cases chars with
  | nil => cases htake
  | cons char chars =>
      rw [takeKey?] at htake
      split at htake
      · rename_i hstart
        cases htake
        rw [String.toList_ofList, List.cons_append, List.takeWhile_append_dropWhile]
        refine ⟨.intro _ _ (isKeyStart_iff.1 hstart) ?_, rfl⟩
        intro other hmem
        exact isKeyPart_iff.1 (of_mem_takeWhile hmem)
      · cases htake

/-- An index in front of any text is taken up to its bracket. -/
theorem takeIndex?_append {position : Nat} {digits : List Char} (rest : List Char)
    (hcount : IsCount position digits) :
    takeIndex? (digits ++ ']' :: rest) = some (position, rest) := by
  have hstop : StopsRun isDecimal (']' :: rest) := by
    rw [stopsRun_cons]
    decide
  unfold takeIndex?
  rw [takeWhile_run hcount.isDecimal hstop, dropWhile_run hcount.isDecimal hstop]
  simp [hcount.ne_nil, hcount.count?]

/-- What is taken as an index is a numeral and a bracket. -/
theorem isCount_of_takeIndex? {chars rest : List Char} {position : Nat}
    (htake : takeIndex? chars = some (position, rest)) :
    ∃ digits, IsCount position digits ∧ chars = digits ++ ']' :: rest := by
  have hwhole := List.takeWhile_append_dropWhile (p := isDecimal) (l := chars)
  unfold takeIndex? at htake
  dsimp only at htake
  split at htake
  · rename_i after hdrop
    rw [hdrop] at hwhole
    split at htake
    · cases htake
    · rename_i hne
      obtain ⟨value, hvalue, heq⟩ := Option.map_eq_some_iff.1 htake
      cases heq
      exact ⟨_, (isRun_takeWhile (by simpa using hne)).isCount hvalue, hwhole.symm⟩
  · cases htake

/-- No sequence of steps continues a key. -/
theorem Steps.stopsRun {accessors : List Accessor} {chars : List Char}
    (hsteps : Steps accessors chars) : StopsRun isKeyPart chars := by
  cases hsteps with
  | nil => simp
  | cons accessor accessors chars others hspelling hsteps =>
      cases hspelling with
      | key name hkey =>
          rw [List.cons_append, stopsRun_cons]
          decide
      | index position digits hcount =>
          rw [List.cons_append, List.cons_append, stopsRun_cons]
          decide

/-- The steps that a text spells are read from it. -/
theorem Steps.parseRest? {accessors : List Accessor} {chars : List Char}
    (hsteps : Steps accessors chars) : KeyPath.parseRest? chars = some accessors := by
  induction hsteps with
  | nil => rw [KeyPath.parseRest?]
  | cons accessor accessors chars others hspelling hsteps ih =>
      cases hspelling with
      | key name hkey =>
          have htake := takeKey?_append hkey hsteps.stopsRun
          rw [List.cons_append, KeyPath.parseRest?]
          split
          · rename_i taken rest hfound
            rw [htake] at hfound
            cases hfound
            simp [ih]
          · rename_i hfound
            rw [htake] at hfound
            cases hfound
      | index position digits hcount =>
          have htake := takeIndex?_append others hcount
          rw [List.cons_append, List.cons_append, List.append_assoc, List.singleton_append,
            KeyPath.parseRest?]
          split
          · rename_i taken rest hfound
            rw [htake] at hfound
            cases hfound
            simp [ih]
          · rename_i hfound
            rw [htake] at hfound
            cases hfound

/-- A text spells the steps that are read from it. -/
theorem steps_of_parseRest? {accessors : List Accessor} {chars : List Char}
    (hparse : KeyPath.parseRest? chars = some accessors) : Steps accessors chars := by
  fun_induction KeyPath.parseRest? chars generalizing accessors with
  | case1 =>
      cases hparse
      exact .nil
  | case2 afterPoint name rest htake ih =>
      obtain ⟨others, hothers, rfl⟩ := Option.map_eq_some_iff.1 hparse
      obtain ⟨hkey, rfl⟩ := isKey_of_takeKey? htake
      exact .cons _ _ _ _ (.key name hkey) (ih hothers)
  | case3 => cases hparse
  | case4 afterBracket position rest htake ih =>
      obtain ⟨others, hothers, rfl⟩ := Option.map_eq_some_iff.1 hparse
      obtain ⟨digits, hcount, rfl⟩ := isCount_of_takeIndex? htake
      have hsteps := Steps.cons _ _ _ _ (.index position digits hcount) (ih hothers)
      simpa using hsteps
  | case5 => cases hparse
  | case6 => cases hparse

/-- A text is read as a key path precisely when it spells the path. -/
theorem parse?_eq_some_iff {field : String} {path : KeyPath} :
    parse? field = some path ↔ path.Spelling field.toList := by
  constructor
  · intro hparse
    unfold parse? at hparse
    split at hparse
    · rename_i first rest htake
      obtain ⟨accessors, hrest, rfl⟩ := Option.map_eq_some_iff.1 hparse
      obtain ⟨hkey, hfield⟩ := isKey_of_takeKey? htake
      exact ⟨hkey, rest, steps_of_parseRest? hrest, hfield⟩
    · cases hparse
  · rintro ⟨hkey, others, hsteps, hfield⟩
    have htake := takeKey?_append hkey hsteps.stopsRun
    rw [String.ofList_toList] at htake
    unfold parse?
    rw [hfield, htake]
    simp [hsteps.parseRest?]

end KeyPath

end Numbering
