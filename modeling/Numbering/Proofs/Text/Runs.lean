import Mathlib.Algebra.Group.Nat.Defs
import Numbering.Text.Digits

/-!
# Runs of characters

Most scanners of this library cut the longest run of characters with some property off the front
of a text. A run followed by a rest that stops it is cut exactly there (`takeWhile_run`,
`dropWhile_run`), and every cut leaves a rest that stops the run (`stopsRun_dropWhile`). Digits
are the commonest runs: `IsCount` says which of them are a number that a template may hold.
-/

namespace Numbering

namespace Text

/-- The text is empty or goes on with a character that the test refuses. -/
def StopsRun (test : Char → Bool) (rest : List Char) : Prop :=
  ∀ char ∈ rest.head?, test char = false

/-- The end of a text stops every run. -/
@[simp] theorem stopsRun_nil (test : Char → Bool) : StopsRun test [] := by
  simp [StopsRun]

/-- A character stops a run that it is no part of. -/
@[simp] theorem stopsRun_cons {test : Char → Bool} {char : Char} {rest : List Char} :
    StopsRun test (char :: rest) ↔ test char = false := by
  simp [StopsRun]

variable {test : Char → Bool} {run rest : List Char}

/-- A text is stopped by its first nonempty part. -/
theorem StopsRun.append {front : List Char} (hfront : StopsRun test front)
    (hrest : StopsRun test rest) : StopsRun test (front ++ rest) := by
  cases front with
  | nil => exact hrest
  | cons char front => exact stopsRun_cons.2 (stopsRun_cons.1 hfront)

/-- The run in front of a rest that stops it is taken as a whole. -/
theorem takeWhile_run (hrun : ∀ char ∈ run, test char = true) (hstop : StopsRun test rest) :
    (run ++ rest).takeWhile test = run := by
  rw [List.takeWhile_append_of_pos hrun]
  cases rest with
  | nil => simp
  | cons char rest => simp [stopsRun_cons.1 hstop]

/-- Dropping a run leaves the rest that stops it. -/
theorem dropWhile_run (hrun : ∀ char ∈ run, test char = true) (hstop : StopsRun test rest) :
    (run ++ rest).dropWhile test = rest := by
  rw [List.dropWhile_append_of_pos hrun]
  cases rest with
  | nil => rfl
  | cons char rest => simp [stopsRun_cons.1 hstop]

/-- Two texts that start with runs are the same only if the runs and what stops them are. -/
theorem run_append_inj {otherRun otherRest : List Char} (hrun : ∀ char ∈ run, test char = true)
    (hother : ∀ char ∈ otherRun, test char = true) (hstop : StopsRun test rest)
    (hotherStop : StopsRun test otherRest) (hsame : run ++ rest = otherRun ++ otherRest) :
    run = otherRun ∧ rest = otherRest := by
  have htaken := congrArg (List.takeWhile test) hsame
  have hleft := congrArg (List.dropWhile test) hsame
  rw [takeWhile_run hrun hstop, takeWhile_run hother hotherStop] at htaken
  rw [dropWhile_run hrun hstop, dropWhile_run hother hotherStop] at hleft
  exact ⟨htaken, hleft⟩

/-- Every character that is taken passes the test. -/
theorem of_mem_takeWhile {char : Char} {chars : List Char}
    (hmem : char ∈ chars.takeWhile test) : test char = true :=
  List.all_eq_true.1 (List.all_takeWhile (p := test) (l := chars)) char hmem

/-- What is left after a run stops it. -/
theorem stopsRun_dropWhile (test : Char → Bool) (chars : List Char) :
    StopsRun test (chars.dropWhile test) := by
  intro char hchar
  have hhead := List.head?_dropWhile_not test chars
  rw [Option.mem_def.1 hchar] at hhead
  simpa using hhead

end Text

namespace Digits

/-- The character is one of the ten digits from `0` to `9`. -/
def IsDigit (char : Char) : Prop := '0' ≤ char ∧ char ≤ '9'

instance (char : Char) : Decidable (IsDigit char) := inferInstanceAs (Decidable (_ ∧ _))

/-- A digit is none of the characters that are no digits. -/
theorem IsDigit.ne {char other : Char} (hdigit : IsDigit char) (hother : ¬ IsDigit other) :
    char ≠ other := by
  rintro rfl
  exact hother hdigit

/-- The characters are digits, and there is at least one. -/
structure IsRun (digits : List Char) : Prop where
  ne_nil : digits ≠ []
  isDigit : ∀ char ∈ digits, IsDigit char

/-- The digits are a numeral of a number up to `2 ^ 64 - 1`. Any zeros may stand in front. -/
structure IsCount (number : Nat) (digits : List Char) : Prop extends IsRun digits where
  value : decimalNat digits = number
  bounded : number ≤ 2 ^ 64 - 1

/-- The test for a digit decides whether a character is one. -/
theorem isDecimal_iff {char : Char} : isDecimal char = true ↔ IsDigit char := by
  simp only [isDecimal, decide_eq_true_eq, IsDigit, Char.le_def, UInt32.le_iff_toNat_le]
  exact Iff.rfl

/-- The code points of the digits follow each other. -/
theorem isDigit_iff_toNat {char : Char} : IsDigit char ↔ 48 ≤ char.toNat ∧ char.toNat ≤ 57 := by
  rw [← isDecimal_iff, isDecimal, decide_eq_true_eq]

/-- The digits of a run pass the test of the scanners. -/
theorem IsRun.isDecimal {digits : List Char} (hrun : IsRun digits) :
    ∀ char ∈ digits, Digits.isDecimal char = true :=
  fun char hmem ↦ isDecimal_iff.2 (hrun.isDigit char hmem)

/-- The digits that a scanner takes are a run, if there are any. -/
theorem isRun_takeWhile {chars : List Char} (hne : chars.takeWhile Digits.isDecimal ≠ []) :
    IsRun (chars.takeWhile Digits.isDecimal) :=
  ⟨hne, fun _ hmem ↦ isDecimal_iff.1 (Text.of_mem_takeWhile hmem)⟩

/-- A run of digits is read as its number, unless the number is too great. -/
theorem count?_eq_some_iff {digits : List Char} {number : Nat} :
    count? digits = some number ↔ decimalNat digits = number ∧ number ≤ 2 ^ 64 - 1 := by
  have hlimit : greatestCount = 2 ^ 64 - 1 := by decide
  unfold count?
  dsimp only
  rw [hlimit]
  split
  · rename_i hle
    constructor
    · intro h
      cases h
      exact ⟨rfl, hle⟩
    · rintro ⟨rfl, _⟩
      rfl
  · rename_i hgt
    constructor
    · intro h
      cases h
    · rintro ⟨rfl, hle⟩
      exact absurd hle hgt

/-- A numeral is read as the number that it is a numeral of. -/
theorem IsCount.count? {number : Nat} {digits : List Char} (hcount : IsCount number digits) :
    Digits.count? digits = some number :=
  count?_eq_some_iff.2 ⟨hcount.value, hcount.bounded⟩

/-- A run of digits that is read as a number is a numeral of it. -/
theorem IsRun.isCount {number : Nat} {digits : List Char} (hrun : IsRun digits)
    (hcount : Digits.count? digits = some number) : IsCount number digits := by
  obtain ⟨hvalue, hle⟩ := count?_eq_some_iff.1 hcount
  exact ⟨hrun, hvalue, hle⟩

end Digits

end Numbering
