import Mathlib.Data.List.SplitBy
import Numbering.Text.Utf8

/-!
# Lines

A text is split into lines after every line break. A line keeps the break that ends it, so the
lines one after the other are the text again (`flatten_lines`). Behind the last break there is a
line only when there is something in it: the empty text has no lines, and a text that ends with a
break has as many lines as breaks. Proofs about lines go through a text break by break
(`lines_induction`).
-/

namespace Numbering.Text

/-- The lines of a text, each one with the line break that ends it. -/
def lines (chars : List Char) : List (List Char) := chars.splitBy fun char _ ↦ char != '\n'

/-- The byte offset where a line starts: all lines before it are in front of it. -/
def lineStart (lines : List (List Char)) (index : Nat) : Nat :=
  byteLength (lines.take index).flatten

/-- The places, counted in characters, where lines start when the first one starts at a place. -/
def startsFrom (place : Nat) : List (List Char) → List Nat
  | [] => []
  | line :: lines => place :: startsFrom (place + line.length) lines

/-- The first line starts at the start. -/
@[simp] theorem lineStart_zero (lines : List (List Char)) : lineStart lines 0 = 0 := rfl

/-- A later line starts behind the bytes of the lines before it. -/
@[simp] theorem lineStart_succ (line : List Char) (lines : List (List Char)) (index : Nat) :
    lineStart (line :: lines) (index + 1) = byteLength line + lineStart lines index := by
  rw [lineStart, List.take_succ_cons, List.flatten_cons, byteLength_append, lineStart]

/-- The lines put together are the text. -/
@[simp] theorem flatten_lines (chars : List Char) : (lines chars).flatten = chars :=
  List.flatten_splitBy _ _

/-- The empty text has no lines. -/
@[simp] theorem lines_nil : lines [] = [] := rfl

/-- A text without a break before its last character is a single line. -/
theorem lines_single {body : List Char} (hbody : '\n' ∉ body) (last : Char) :
    lines (body ++ [last]) = [body ++ [last]] := by
  apply List.splitBy_of_isChain (by simp)
  rw [List.isChain_iff_getElem]
  intro index hindex
  have hlt : index < body.length := by
    simp only [List.length_append, List.length_singleton] at hindex
    omega
  have hne : body[index] ≠ '\n' := fun heq ↦ hbody (heq ▸ List.getElem_mem hlt)
  rw [List.getElem_append_left hlt]
  simpa using hne

/-- The first break ends the first line, and the other lines are those of the rest. -/
theorem lines_append_break {body : List Char} (hbody : '\n' ∉ body) (rest : List Char) :
    lines (body ++ '\n' :: rest) = (body ++ ['\n']) :: lines rest := by
  cases rest with
  | nil => exact lines_single hbody '\n'
  | cons char rest =>
      have hsplit : lines ((body ++ ['\n']) ++ char :: rest) =
          lines (body ++ ['\n']) ++ lines (char :: rest) :=
        List.splitBy_append_cons rest (by simp)
      rw [lines_single hbody, List.append_assoc] at hsplit
      exact hsplit

-- Behind the last break there is no line.
example : lines "é\r\n\n".toList = ["é\r\n".toList, "\n".toList] := by decide

/-- Every text is empty, or a single line without a break, or begins with a line that a break
ends. -/
@[elab_as_elim]
theorem lines_induction {motive : List Char → Prop} (empty : motive [])
    (single : ∀ body last, '\n' ∉ body → last ≠ '\n' → motive (body ++ [last]))
    (closed : ∀ body rest, '\n' ∉ body → motive rest → motive (body ++ '\n' :: rest))
    (chars : List Char) : motive chars := by
  by_cases hbreak : '\n' ∈ chars
  · obtain ⟨body, rest, hchars, hbody⟩ := List.eq_append_cons_of_mem hbreak
    have hshorter : rest.length < chars.length := by
      rw [hchars, List.length_append, List.length_cons]
      omega
    rw [hchars]
    exact closed body rest hbody (lines_induction empty single closed rest)
  · obtain hnil | ⟨body, last, hchars⟩ := List.eq_nil_or_concat chars
    · rw [hnil]
      exact empty
    · subst hchars
      simp only [List.concat_eq_append, List.mem_append, List.mem_singleton, not_or] at hbreak ⊢
      exact single body last hbreak.1 (Ne.symm hbreak.2)
termination_by chars.length

end Numbering.Text
