import Mathlib.Data.List.Chain
import Numbering.Proofs.Template.Grammar

/-!
# Templates as sequences of pieces

A template text is a concatenation of runs of text without percent signs, doubled percent signs
and spelled directives. `Decomposition` says that pieces make up a text in this way, with runs as
long as can be. The first piece of a decomposition is the one that can be read at the front of the
text (`decomposition_cons_iff`), so that a text has at most one (`Decomposition.unique`).
-/

namespace Numbering

/-- The ways to spell a segment: literal text by a run, a percent sign by two of them, and a
directive by any of its spellings. -/
inductive Segment.Spelling : Segment → List Char → Prop where
  | run (chars) : chars ≠ [] → '%' ∉ chars → Spelling (.literal (String.ofList chars)) chars
  | escape : Spelling (.literal "%") ['%', '%']
  | directive (directive chars) : directive.Spelling chars → Spelling (.directive directive) chars

namespace Template

open Text

/-- A segment together with the text that spells it. -/
structure Piece where
  segment : Segment
  chars : List Char

/-- The pieces make up a text: every one is a spelled segment, and no run follows a run. -/
structure Decomposition (pieces : List Piece) (chars : List Char) : Prop where
  whole : pieces.flatMap Piece.chars = chars
  spelling : ∀ piece ∈ pieces, piece.segment.Spelling piece.chars
  maximal : pieces.IsChain fun first second ↦ '%' ∈ first.chars ∨ '%' ∈ second.chars

/-! ## The piece at the front of a text -/

/-- The piece at the front of a text and the rest behind it. -/
def readPiece? (chars : List Char) : Option (Piece × List Char) :=
  match chars with
  | [] => none
  | '%' :: '%' :: rest => some (⟨.literal "%", ['%', '%']⟩, rest)
  | '%' :: rest =>
      match Placeholder.scan? rest with
      | none => none
      | some (placeholder, after) =>
          match placeholder.directive with
          | .error _ => none
          | .ok directive => some (⟨.directive directive, '%' :: placeholder.text⟩, after)
  | char :: rest =>
      let run := char :: rest.takeWhile (· ≠ '%')
      some (⟨.literal (String.ofList run), run⟩, rest.dropWhile (· ≠ '%'))

/-- A directive is spelled by a percent sign and another character that is none. -/
theorem eq_cons_of_directiveSpelling {directive : Directive} {chars : List Char}
    (hspelling : directive.Spelling chars) :
    ∃ first others, first ≠ '%' ∧ chars = '%' :: first :: others := by
  obtain ⟨placeholder, hformed, -, rfl⟩ := Directive.spelling_iff.1 hspelling
  obtain ⟨first, others, hfirst, htext⟩ := hformed.text_eq_cons
  exact ⟨first, others, hfirst, congrArg _ htext⟩

/-- A text that contains a percent sign and spells a segment starts with it. -/
theorem head_of_spelling {segment : Segment} {chars : List Char}
    (hspelling : segment.Spelling chars) (hpercent : '%' ∈ chars) : chars.head? = some '%' := by
  cases hspelling with
  | run _ _ hnone => exact absurd hpercent hnone
  | escape => rfl
  | directive directive _ hdirective =>
      obtain ⟨first, rest, -, rfl⟩ := eq_cons_of_directiveSpelling hdirective
      rfl

/-- A run is read up to the next percent sign. -/
theorem readPiece?_run {run rest : List Char} (hne : run ≠ []) (hnone : '%' ∉ run)
    (hstop : StopsRun (· ≠ '%') rest) :
    readPiece? (run ++ rest) = some (⟨.literal (String.ofList run), run⟩, rest) := by
  cases run with
  | nil => exact absurd rfl hne
  | cons char run =>
      have hchar : char ≠ '%' := fun heq ↦ hnone (by simp [heq])
      have hrun : ∀ other ∈ run, decide (other ≠ '%') = true := by
        intro other hmem
        rw [decide_eq_true_eq]
        rintro rfl
        exact hnone (List.mem_cons_of_mem _ hmem)
      rw [List.cons_append, readPiece?]
      · rw [takeWhile_run hrun hstop, dropWhile_run hrun hstop]
      · exact fun _ heq ↦ absurd heq hchar
      · exact hchar

/-- A directive is read as it is spelled, whatever comes after it. -/
theorem readPiece?_directive {directive : Directive} {spelled : List Char}
    (hspelling : directive.Spelling spelled) (rest : List Char) :
    readPiece? (spelled ++ rest) = some (⟨.directive directive, spelled⟩, rest) := by
  obtain ⟨placeholder, hformed, hdenotes, rfl⟩ := Directive.spelling_iff.1 hspelling
  obtain ⟨first, others, hfirst, htext⟩ := hformed.text_eq_cons
  have hscan := hformed.scan? rest
  rw [List.cons_append, readPiece?]
  · rw [hscan]
    simp [hdenotes]
  · intro other heq
    rw [htext] at heq
    cases heq
    exact hfirst rfl

/-- A piece is read at the front of a text precisely when it is a spelled segment there; a run
has to reach to the next percent sign. -/
theorem readPiece?_eq_some_iff {chars rest spelled : List Char} {segment : Segment} :
    readPiece? chars = some (⟨segment, spelled⟩, rest) ↔
      segment.Spelling spelled ∧ chars = spelled ++ rest ∧
        ('%' ∉ spelled → StopsRun (· ≠ '%') rest) := by
  constructor
  · intro hread
    unfold readPiece? at hread
    split at hread
    · cases hread
    · cases hread
      exact ⟨.escape, rfl, by simp⟩
    · rename_i tail hescape
      split at hread
      · cases hread
      · rename_i placeholder after hscan
        obtain ⟨hformed, rfl⟩ := Placeholder.scan?_eq_some_iff.1 hscan
        split at hread
        · cases hread
        · rename_i directive hdenotes
          cases hread
          exact ⟨.directive _ _ (Directive.spelling_iff.2 ⟨_, hformed, hdenotes, rfl⟩), rfl,
            by simp⟩
    · rename_i char tail _ hne
      cases hread
      refine ⟨.run _ (by simp) ?_, ?_, fun _ ↦ stopsRun_dropWhile _ _⟩
      · intro hmem
        rcases List.mem_cons.1 hmem with heq | hmem
        · exact hne heq.symm
        · exact absurd (of_mem_takeWhile hmem) (by decide)
      · rw [List.cons_append, List.takeWhile_append_dropWhile]
  · rintro ⟨hspelling, rfl, hstop⟩
    cases hspelling with
    | run _ hne hnone => exact readPiece?_run hne hnone (hstop hnone)
    | escape => rfl
    | directive directive _ hdirective => exact readPiece?_directive hdirective rest

/-! ## Decompositions -/

/-- Every segment is spelled by at least one character. -/
theorem ne_nil_of_spelling {segment : Segment} {chars : List Char}
    (hspelling : segment.Spelling chars) : chars ≠ [] := by
  cases hspelling with
  | run _ hne _ => exact hne
  | escape => simp
  | directive directive _ hdirective =>
      obtain ⟨first, others, -, rfl⟩ := eq_cons_of_directiveSpelling hdirective
      simp

/-- The first piece of a decomposition is the one that is read at the front of the text. -/
theorem decomposition_cons_iff {piece : Piece} {pieces : List Piece} {chars : List Char} :
    Decomposition (piece :: pieces) chars ↔
      ∃ rest, readPiece? chars = some (piece, rest) ∧ Decomposition pieces rest := by
  constructor
  · rintro ⟨hwhole, hspelling, hmaximal⟩
    rw [List.flatMap_cons] at hwhole
    refine ⟨pieces.flatMap Piece.chars, ?_, rfl, fun other hmem ↦ hspelling other (by simp [hmem]),
      hmaximal.of_cons⟩
    refine readPiece?_eq_some_iff.2 ⟨hspelling piece (by simp), hwhole.symm, fun hnone ↦ ?_⟩
    cases pieces with
    | nil => simp
    | cons next others =>
        have hpercent : '%' ∈ next.chars :=
          (List.isChain_cons_cons.1 hmaximal).1.resolve_left hnone
        have hhead := head_of_spelling (hspelling next (by simp)) hpercent
        intro char hchar
        rw [List.flatMap_cons, List.head?_append, hhead] at hchar
        cases hchar
        rfl
  · rintro ⟨rest, hread, hrest⟩
    obtain ⟨hspelling, rfl, hstop⟩ := readPiece?_eq_some_iff.1 hread
    refine ⟨by rw [List.flatMap_cons, hrest.whole], ?_, ?_⟩
    · intro other hmem
      rcases List.mem_cons.1 hmem with rfl | hmem
      · exact hspelling
      · exact hrest.spelling other hmem
    · cases pieces with
      | nil => exact .singleton _
      | cons next others =>
          refine List.isChain_cons_cons.2 ⟨?_, hrest.maximal⟩
          by_cases hpercent : '%' ∈ piece.chars
          · exact .inl hpercent
          · -- The run stops before the next piece, which therefore starts with a percent sign.
            have hstop := hstop hpercent
            rw [← hrest.whole, List.flatMap_cons] at hstop
            cases hnext : next.chars with
            | nil => exact absurd hnext (ne_nil_of_spelling (hrest.spelling next (by simp)))
            | cons char tail =>
                rw [hnext, List.cons_append, stopsRun_cons] at hstop
                simp only [ne_eq, decide_not, Bool.not_eq_false', decide_eq_true_eq] at hstop
                exact .inr (by simp [hstop])

/-- Only the empty text decomposes into nothing. -/
theorem decomposition_nil_iff {chars : List Char} : Decomposition [] chars ↔ chars = [] := by
  constructor
  · intro hnil
    exact hnil.whole.symm
  · rintro rfl
    exact ⟨rfl, by simp, .nil⟩

/-- A text has at most one decomposition. -/
theorem Decomposition.unique {first second : List Piece} {chars : List Char}
    (hfirst : Decomposition first chars) (hsecond : Decomposition second chars) :
    first = second := by
  -- Both decompositions go on with the piece that is read at the front.
  induction first generalizing second chars with
  | nil =>
      cases second with
      | nil => rfl
      | cons piece second =>
          obtain rfl := decomposition_nil_iff.1 hfirst
          obtain ⟨rest, hread, -⟩ := decomposition_cons_iff.1 hsecond
          cases hread
  | cons piece first ih =>
      obtain ⟨rest, hread, hrest⟩ := decomposition_cons_iff.1 hfirst
      cases second with
      | nil =>
          obtain rfl := decomposition_nil_iff.1 hsecond
          cases hread
      | cons other second =>
          obtain ⟨otherRest, hotherRead, hotherRest⟩ := decomposition_cons_iff.1 hsecond
          rw [hread] at hotherRead
          cases hotherRead
          rw [ih hrest hotherRest]

end Template

end Numbering
