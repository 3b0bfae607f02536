import Numbering.Proofs.Text.Runs

/-!
# Matching with alternatives

A pattern with alternatives can match the front of a text in several ways. `Ways` lists them all,
the preferred ones first: a part that may be absent is taken before it is left out, and a run is
taken as long as possible before it is taken shorter. A pattern is read without going back when
what follows a part refuses whatever that part could have left over (`Ways.Refuses.optional`,
`Ways.many_andThen`).
-/

namespace Numbering

/-- The ways to take something off the front of a text, the preferred ones first: what is taken,
and the rest. -/
abbrev Ways (α : Type) := List Char → List (α × List Char)

namespace Ways

variable {α β γ : Type}

/-- Take nothing. -/
def done (value : α) : Ways α := fun chars ↦ [(value, chars)]

/-- Take one thing after another. -/
def andThen (first : Ways α) (next : α → Ways β) : Ways β := fun chars ↦
  (first chars).flatMap fun way ↦ next way.1 way.2

/-- Prefer the ways of the first to those of the second. -/
def orElse (first second : Ways α) : Ways α := fun chars ↦ first chars ++ second chars

/-- Take one character that passes a test. -/
def one (test : Char → Bool) : Ways Char
  | [] => []
  | char :: rest => if test char then [(char, rest)] else []

/-- Take any number of characters that pass a test, as many as possible first. -/
def many (test : Char → Bool) : Ways (List Char)
  | [] => [([], [])]
  | char :: rest =>
      if test char then
        (many test rest).map (fun way ↦ (char :: way.1, way.2)) ++ [([], char :: rest)]
      else [([], char :: rest)]

/-- No text that starts with the character can be matched. -/
def Refuses (ways : Ways α) (char : Char) : Prop := ∀ rest, ways (char :: rest) = []

/-- Going on with nothing taken is going on. -/
theorem done_andThen (value : α) (next : α → Ways β) : (done value).andThen next = next value := by
  funext chars
  exact List.append_nil _

/-- Going on is associative. -/
theorem andThen_assoc (first : Ways α) (second : α → Ways β) (third : β → Ways γ) :
    (first.andThen second).andThen third =
      first.andThen fun taken ↦ (second taken).andThen third := by
  funext chars
  exact List.flatMap_assoc

/-- Going on from alternatives is going on from each of them. -/
theorem orElse_andThen (first second : Ways α) (next : α → Ways β) (chars : List Char) :
    (first.orElse second).andThen next chars =
      first.andThen next chars ++ second.andThen next chars :=
  List.flatMap_append

/-- Taking one character and going on behind it. -/
theorem one_andThen_cons (test : Char → Bool) (next : Char → Ways β) (char : Char)
    (rest : List Char) :
    (one test).andThen next (char :: rest) = if test char then next char rest else [] := by
  unfold andThen
  rw [one]
  split
  · exact List.append_nil _
  · rfl

/-- A character that fails the test is not taken. -/
theorem refuses_one {test : Char → Bool} {next : Char → Ways β} {char : Char}
    (htest : test char = false) : Refuses ((one test).andThen next) char := by
  intro rest
  rw [one_andThen_cons, htest]
  rfl

/-- A part that may be absent refuses what the part and the text behind it refuse. -/
theorem Refuses.optional {part : Ways α} {absent : α} {next : α → Ways β} {char : Char}
    (hpart : Refuses (part.andThen next) char) (hnext : Refuses (next absent) char) :
    Refuses ((part.orElse (done absent)).andThen next) char := by
  intro rest
  rw [orElse_andThen, done_andThen, hpart rest, hnext rest]
  rfl

/-- When what follows a run cannot go on with a character of the run, only the longest run
counts. -/
theorem many_andThen {test : Char → Bool} {next : List Char → Ways β}
    (hrefuses : ∀ taken char, test char = true → Refuses (next taken) char) (chars : List Char) :
    (many test).andThen next chars = next (chars.takeWhile test) (chars.dropWhile test) := by
  induction chars generalizing next with
  | nil => exact List.append_nil _
  | cons char rest ih =>
      by_cases htest : test char = true
      · have hrest : (many test).andThen (fun taken ↦ next (char :: taken)) rest = _ :=
          ih fun taken ↦ hrefuses (char :: taken)
        rw [List.takeWhile_cons_of_pos htest, List.dropWhile_cons_of_pos htest, ← hrest]
        unfold andThen
        rw [many, if_pos htest, List.flatMap_append, List.flatMap_map, List.flatMap_singleton,
          hrefuses [] char htest rest, List.append_nil]
      · rw [List.takeWhile_cons_of_neg htest, List.dropWhile_cons_of_neg htest]
        unfold andThen
        rw [many, if_neg htest]
        exact List.append_nil _

end Ways

end Numbering
