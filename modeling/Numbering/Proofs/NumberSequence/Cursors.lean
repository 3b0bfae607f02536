import Numbering.Json.Writing
import Numbering.Proofs.NumberSequence.Integers

/-!
# Cursors in use

Any number of cursors run through the elements of a sequence side by side: cursors are started,
copied at any time, and asked for their next elements in any order. A cursor gives the element with
the number of times it was asked before, whatever the other cursors do and whatever came of the
elements in front, and nothing more behind the last one (`NumberSequence.cursors_exact`). What it
has taken and what it has left make up its elements at all times.
-/

namespace Numbering

namespace SequenceCursor

/-- The cursor after it was asked for its next element. -/
def asked [Json.Writer] (cursor : SequenceCursor) : SequenceCursor :=
  match cursor.next? with
  | none => cursor
  | some (_, moved) => moved

end SequenceCursor

/-- One use of the cursors of a sequence. A cursor is named by its place among all that came up so
far. -/
inductive CursorUse where
  | start (count : Nat)
  | copy (cursor : Nat)
  | next (cursor : Nat)
deriving DecidableEq

/-- What a use comes to: one more cursor, an element, or the end of the elements. Nothing comes of a
cursor that there is not. -/
inductive CursorAnswer where
  | added
  | element (item : Except RenderError String)
  | exhausted
  | missing

/-- How many elements a cursor has from its start on, and how many times it was asked for the next
one; for a copy, the times that its original was asked before it was copied count. -/
structure CursorTally where
  count : Nat
  asked : Nat

namespace CursorUse

/-- The cursors after a use. -/
def after [Json.Writer] (sequence : NumberSequence) (cursors : List SequenceCursor) :
    CursorUse → List SequenceCursor
  | .start count => cursors ++ [.start sequence count]
  | .copy cursor => cursors ++ cursors[cursor]?.toList
  | .next cursor => cursors.modify cursor SequenceCursor.asked

/-- The answer to a use. -/
def answer [Json.Writer] (cursors : List SequenceCursor) : CursorUse → CursorAnswer
  | .start _ => .added
  | .copy cursor => if cursor < cursors.length then .added else .missing
  | .next cursor =>
      match cursors[cursor]? with
      | none => .missing
      | some live =>
          match live.next? with
          | none => .exhausted
          | some (item, _) => .element item

/-- The tallies after a use. -/
def tally (tallies : List CursorTally) : CursorUse → List CursorTally
  | .start count => tallies ++ [⟨count, 0⟩]
  | .copy cursor => tallies ++ tallies[cursor]?.toList
  | .next cursor => tallies.modify cursor fun tally ↦ { tally with asked := tally.asked + 1 }

/-- The tallies of the cursors that came up in some uses. -/
def tallies (uses : List CursorUse) : List CursorTally := uses.foldl tally []

end CursorUse

namespace NumberSequence

variable [Json.Writer]

/-- The cursors that there are after some uses. -/
def cursorsAfter (sequence : NumberSequence) (uses : List CursorUse) : List SequenceCursor :=
  uses.foldl (CursorUse.after sequence) []

/-- The answers to some uses, given the cursors that there are. -/
def answersFrom (sequence : NumberSequence) (cursors : List SequenceCursor) :
    List CursorUse → List CursorAnswer
  | [] => []
  | use :: uses => use.answer cursors :: sequence.answersFrom (use.after sequence cursors) uses

/-- The answers to some uses, beginning without cursors. -/
def answers (sequence : NumberSequence) (uses : List CursorUse) : List CursorAnswer :=
  sequence.answersFrom [] uses

/-! ## One cursor -/

/-- The cursor with a tally. -/
def cursorAt (sequence : NumberSequence) (tally : CursorTally) : SequenceCursor :=
  ⟨sequence, tally.count, min tally.asked tally.count, Nat.min_le_right _ _⟩

variable {sequence : NumberSequence} {tally : CursorTally}

/-- A cursor that was not asked as many times as it has elements gives the next one. -/
theorem next?_cursorAt (hasked : tally.asked < tally.count) :
    (sequence.cursorAt tally).next? = some (sequence.renderAt tally.asked,
      sequence.cursorAt { tally with asked := tally.asked + 1 }) := by
  have hposition : min tally.asked tally.count = tally.asked := Nat.min_eq_left (by omega)
  have hmoved : min (tally.asked + 1) tally.count = tally.asked + 1 := Nat.min_eq_left hasked
  simp only [SequenceCursor.next?, cursorAt, hposition, hmoved, hasked, dif_pos]

/-- A cursor that was asked as many times as it has elements gives nothing, and stays. -/
theorem next?_cursorAt_of_le (hasked : tally.count ≤ tally.asked) :
    (sequence.cursorAt tally).next? = none := by
  have hposition : min tally.asked tally.count = tally.count := Nat.min_eq_right hasked
  simp only [SequenceCursor.next?, cursorAt, hposition, Nat.lt_irrefl, dif_neg, not_false_eq_true]

/-- Asking a cursor counts one more time, behind the end as well. -/
theorem asked_cursorAt (sequence : NumberSequence) (tally : CursorTally) :
    (sequence.cursorAt tally).asked =
      sequence.cursorAt { tally with asked := tally.asked + 1 } := by
  unfold SequenceCursor.asked
  rcases Nat.lt_or_ge tally.asked tally.count with hinside | hbehind
  · rw [next?_cursorAt hinside]
  · have hposition : min tally.asked tally.count = min (tally.asked + 1) tally.count := by omega
    rw [next?_cursorAt_of_le hbehind]
    simp only [cursorAt, hposition]

/-! ## Cursors side by side -/

/-- The cursors keep to their tallies, whatever is done. -/
theorem after_map_cursorAt (sequence : NumberSequence) (tallies : List CursorTally)
    (use : CursorUse) : use.after sequence (tallies.map sequence.cursorAt) =
      (use.tally tallies).map sequence.cursorAt := by
  cases use with
  | start count =>
      have hstart : SequenceCursor.start sequence count = sequence.cursorAt ⟨count, 0⟩ := by
        simp only [SequenceCursor.start, cursorAt, Nat.zero_min]
      simp only [CursorUse.after, CursorUse.tally, List.map_append, List.map_cons, List.map_nil,
        hstart]
  | copy cursor =>
      simp only [CursorUse.after, CursorUse.tally, List.map_append, List.getElem?_map]
      cases tallies[cursor]? with
      | none => rfl
      | some original => rfl
  | next cursor =>
      apply List.ext_getElem?
      intro place
      simp only [CursorUse.after, CursorUse.tally, List.getElem?_modify, List.getElem?_map]
      cases tallies[place]? with
      | none => rfl
      | some tally =>
          by_cases hsame : cursor = place
          · simp [hsame, asked_cursorAt]
          · simp [hsame]

/-- After some uses every cursor stands where its tally says. -/
theorem cursorsAfter_eq (sequence : NumberSequence) (uses : List CursorUse) :
    sequence.cursorsAfter uses = (CursorUse.tallies uses).map sequence.cursorAt := by
  have hfold : ∀ tallies : List CursorTally,
      uses.foldl (CursorUse.after sequence) (tallies.map sequence.cursorAt) =
        (uses.foldl CursorUse.tally tallies).map sequence.cursorAt := by
    induction uses with
    | nil => exact fun tallies ↦ rfl
    | cons use uses ih =>
        intro tallies
        rw [List.foldl_cons, List.foldl_cons, after_map_cursorAt, ih]
  exact hfold []

/-- The answer to a use depends on the cursors that there are by then. -/
theorem getElem?_answersFrom (sequence : NumberSequence) {uses : List CursorUse} {place : Nat}
    {use : CursorUse} (cursors : List SequenceCursor) (huse : uses[place]? = some use) :
    (sequence.answersFrom cursors uses)[place]? =
      some (use.answer ((uses.take place).foldl (CursorUse.after sequence) cursors)) := by
  induction uses generalizing place cursors with
  | nil => cases huse
  | cons first uses ih =>
      cases place with
      | zero =>
          cases huse
          rfl
      | succ place => exact ih (first.after sequence cursors) huse

/-- One more use changes the cursors as they are after the uses before. -/
theorem cursorsAfter_append (sequence : NumberSequence) (uses : List CursorUse) (use : CursorUse) :
    sequence.cursorsAfter (uses ++ [use]) = use.after sequence (sequence.cursorsAfter uses) := by
  unfold cursorsAfter
  rw [List.foldl_append]
  rfl

/-- Nothing but asking a cursor moves it. -/
theorem getElem?_after {cursors : List SequenceCursor} {cursor : Nat} {live : SequenceCursor}
    {use : CursorUse} (hlive : cursors[cursor]? = some live) (huse : use ≠ .next cursor) :
    (use.after sequence cursors)[cursor]? = some live := by
  have hinside : cursor < cursors.length := (List.getElem?_eq_some_iff.1 hlive).1
  cases use with
  | start count => rw [CursorUse.after, List.getElem?_append_left hinside, hlive]
  | copy original => rw [CursorUse.after, List.getElem?_append_left hinside, hlive]
  | next other =>
      have hother : other ≠ cursor := fun hsame ↦ huse (congrArg CursorUse.next hsame)
      rw [CursorUse.after, List.getElem?_modify_ne _ _ hother, hlive]

/-- The answer to asking the cursor with a tally. -/
theorem answer_next {tallies : List CursorTally} {cursor : Nat}
    (htally : tallies[cursor]? = some tally) :
    CursorUse.answer (tallies.map sequence.cursorAt) (.next cursor) =
      if tally.asked < tally.count then .element (sequence.renderAt tally.asked)
      else .exhausted := by
  unfold CursorUse.answer
  dsimp only
  rw [List.getElem?_map, htally, Option.map_some]
  dsimp only
  split
  · rename_i hnext
    by_cases hasked : tally.asked < tally.count
    · rw [next?_cursorAt hasked] at hnext
      cases hnext
    · rw [if_neg hasked]
  · rename_i hnext
    by_cases hasked : tally.asked < tally.count
    · rw [next?_cursorAt hasked] at hnext
      cases hnext
      rw [if_pos hasked]
    · rw [next?_cursorAt_of_le (by omega)] at hnext
      cases hnext

/-- Cursors that are started, copied and asked in any order are exact. Each has taken as many
elements as the times it was asked, a copy with those of its original, up to its last element; what
it has left are the others. Asked once more, it gives the rendering of the number with just this
index, computed from the start and the step, whether or not earlier elements had an error, and
nothing any more behind the last one. Nothing but asking a cursor itself moves it; a copy is where
its original is, and a started cursor is in front of the first element at any time. Collecting all
elements is asking such a cursor to its end: there are the texts of all of them, or the error of the
first one that has none. -/
theorem cursors_exact (sequence : NumberSequence) (uses : List CursorUse) :
    let cursors := sequence.cursorsAfter uses
    let tallies := CursorUse.tallies uses
    (cursors.length = tallies.length ∧
      ∀ (cursor : Nat) (tally : CursorTally), tallies[cursor]? = some tally →
        ∃ live : SequenceCursor, cursors[cursor]? = some live ∧
          live.sequence = sequence ∧ live.count = tally.count ∧
          live.position = min tally.asked tally.count ∧
          live.position + live.remaining = live.count) ∧
    (∀ (place cursor : Nat) (tally : CursorTally), uses[place]? = some (.next cursor) →
      (CursorUse.tallies (uses.take place))[cursor]? = some tally →
      (sequence.answers uses)[place]? = some (if tally.asked < tally.count then
          .element (sequence.template.render
            [.number (sequence.start.add ((Binary64.ofNat tally.asked).mul sequence.step))])
        else .exhausted)) ∧
    (∀ (use : CursorUse) (cursor : Nat) (live : SequenceCursor),
      cursors[cursor]? = some live → use ≠ .next cursor →
      (sequence.cursorsAfter (uses ++ [use]))[cursor]? = some live) ∧
    (∀ (cursor : Nat) (live : SequenceCursor), cursors[cursor]? = some live →
      (sequence.cursorsAfter (uses ++ [.copy cursor]))[cursors.length]? = some live) ∧
    (∀ count, (sequence.cursorsAfter (uses ++ [.start count]))[cursors.length]? =
      some (.start sequence count)) ∧
    ∀ count, sequence.renderAll count = collect (SequenceCursor.start sequence count).drain ∧
      (∀ texts, sequence.renderAll count = .ok texts ↔ texts.length = count ∧
        ∀ index (hindex : index < texts.length), sequence.renderAt index = .ok texts[index]) ∧
      ∀ error, sequence.renderAll count = .error error ↔
        ∃ index, index < count ∧ sequence.renderAt index = .error error ∧
          ∀ earlier, earlier < index → ∃ text, sequence.renderAt earlier = .ok text := by
  intro cursors tallies
  have hcursors : cursors = tallies.map sequence.cursorAt := cursorsAfter_eq sequence uses
  refine ⟨⟨?_, ?_⟩, ?_, ?_, ?_, ?_, fun count ↦ ⟨renderAll_eq_collect_drain sequence count,
    fun texts ↦ renderAll_eq_ok_iff, fun error ↦ renderAll_eq_error_iff⟩⟩
  · rw [hcursors, List.length_map]
  · intro cursor tally htally
    refine ⟨sequence.cursorAt tally, ?_, rfl, rfl, rfl, ?_⟩
    · rw [hcursors, List.getElem?_map, htally, Option.map_some]
    · exact Nat.add_sub_of_le (sequence.cursorAt tally).position_le
  · intro place cursor tally huse htally
    have hanswer := getElem?_answersFrom sequence [] huse
    have hthere : (uses.take place).foldl (CursorUse.after sequence) [] =
        (CursorUse.tallies (uses.take place)).map sequence.cursorAt :=
      cursorsAfter_eq sequence (uses.take place)
    rw [hthere, answer_next htally] at hanswer
    exact hanswer
  · intro use cursor live hlive huse
    rw [cursorsAfter_append]
    exact getElem?_after hlive huse
  · intro cursor live hlive
    rw [cursorsAfter_append]
    show (cursors ++ cursors[cursor]?.toList)[cursors.length]? = some live
    rw [hlive]
    exact List.getElem?_concat_length
  · intro count
    rw [cursorsAfter_append]
    exact List.getElem?_concat_length

omit [Json.Writer] in
/-- A copy still has the last element when its original is behind it. -/
theorem cursors_exact_copied :
    letI := Json.Writer.shortest
    let sequence : NumberSequence := ⟨.integer, .ofNat 5, .ofNat 2⟩
    let uses : List CursorUse := [.start 2, .next 0, .copy 0, .next 0, .next 0, .next 1]
    (sequence.answers uses)[4]? = some .exhausted ∧
      (sequence.answers uses)[5]? = some (.element (.ok "7")) := by
  intro sequence uses
  let := Json.Writer.shortest
  obtain ⟨-, helement, -⟩ := cursors_exact sequence uses
  have hbehind := helement 4 0 ⟨2, 2⟩ rfl rfl
  have hlast := helement 5 1 ⟨2, 1⟩ rfl rfl
  have htext : sequence.template.render
      [.number (sequence.start.add ((Binary64.ofNat 1).mul sequence.step))] = .ok "7" := by
    decide +kernel
  rw [if_neg (by decide)] at hbehind
  rw [if_pos (by decide), htext] at hlast
  exact ⟨hbehind, hlast⟩

end NumberSequence

end Numbering
