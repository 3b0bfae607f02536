import Numbering.Json.Writing
import Numbering.Proofs.Template.Parsing
import Numbering.Proofs.Template.Rendering

/-!
# Concatenated templates

Two templates one after the other are a template: nothing at the seam is read in another way than
before, except that a run of text at the end of the first one and a run at the start of the second
one become one run (`Decomposition.append`). So rendering the whole is rendering the first template
and then the second one, whose sequence of arguments starts where that of the first one ended
(`render_append`).
-/

namespace Numbering

open Text

namespace Template

/-! ## Reading -/

/-- The segments of two texts put together: those of the first one and then those of the second
one, where text at the end of the first and at the start of the second may become one. -/
inductive Joined : List Segment → List Segment → List Segment → Prop where
  | apart (first second) : Joined first second (first ++ second)
  | fused (first text other second) :
      Joined (first ++ [.literal text]) (.literal other :: second)
        (first ++ .literal (text ++ other) :: second)

/-- The same directives stand in segments that are put together. -/
theorem Joined.directivesOf {first second whole : List Segment}
    (hjoined : Joined first second whole) :
    directivesOf whole = directivesOf first ++ directivesOf second := by
  cases hjoined with
  | apart => exact List.filterMap_append
  | fused front text other back => simp [Template.directivesOf]

/-- A segment that is spelled without a percent sign is the text itself. -/
theorem segment_of_spelling {segment : Segment} {chars : List Char}
    (hspelling : segment.Spelling chars) (hnone : '%' ∉ chars) :
    segment = .literal (String.ofList chars) := by
  cases hspelling with
  | run => rfl
  | escape => simp at hnone
  | directive directive _ hdirective =>
      obtain ⟨first, others, -, rfl⟩ := eq_cons_of_directiveSpelling hdirective
      simp at hnone

/-- Two runs one after the other are one run, and decompose the texts around them as before. -/
theorem Decomposition.append_runs {front back : List Piece} {last next : Piece}
    {chars rest : List Char} (hfirst : Decomposition (front ++ [last]) chars)
    (hsecond : Decomposition (next :: back) rest) (hlast : '%' ∉ last.chars)
    (hnext : '%' ∉ next.chars) :
    Decomposition (front ++ ⟨.literal (String.ofList (last.chars ++ next.chars)),
      last.chars ++ next.chars⟩ :: back) (chars ++ rest) := by
  have hne : last.chars ≠ [] := ne_nil_of_spelling (hfirst.spelling last (by simp))
  refine ⟨?_, ?_, ?_⟩
  · rw [← hfirst.whole, ← hsecond.whole]
    simp
  · intro piece hmem
    rcases List.mem_append.1 hmem with hfront | hback
    · exact hfirst.spelling piece (by simp [hfront])
    · rcases List.mem_cons.1 hback with rfl | hback
      · exact .run _ (by simp [hne]) (by simp [hlast, hnext])
      · exact hsecond.spelling piece (by simp [hback])
  · -- The neighbours of the fused run are those of the two runs, which held percent signs.
    obtain ⟨hfront, -, hbefore⟩ := List.isChain_append.1 hfirst.maximal
    obtain ⟨hafter, hback⟩ := List.isChain_cons.1 hsecond.maximal
    refine List.isChain_append.2 ⟨hfront, List.isChain_cons.2 ⟨?_, hback⟩, ?_⟩
    · intro piece hpiece
      exact .inr ((hafter piece hpiece).resolve_left hnext)
    · intro piece hpiece _ _
      exact .inl ((hbefore piece hpiece last (by simp)).resolve_right hlast)

/-- Two decomposed texts one after the other are decomposed into pieces that have their
segments. -/
theorem Decomposition.append {first second : List Piece} {chars rest : List Char}
    (hfirst : Decomposition first chars) (hsecond : Decomposition second rest) :
    ∃ pieces, Decomposition pieces (chars ++ rest) ∧
      Joined (first.map Piece.segment) (second.map Piece.segment) (pieces.map Piece.segment) := by
  by_cases hseam : ∀ last ∈ first.getLast?, ∀ next ∈ second.head?,
      '%' ∈ last.chars ∨ '%' ∈ next.chars
  · refine ⟨first ++ second, ⟨?_, ?_, ?_⟩, ?_⟩
    · rw [List.flatMap_append, hfirst.whole, hsecond.whole]
    · intro piece hmem
      rcases List.mem_append.1 hmem with hmem | hmem
      · exact hfirst.spelling piece hmem
      · exact hsecond.spelling piece hmem
    · exact List.isChain_append.2 ⟨hfirst.maximal, hsecond.maximal, hseam⟩
    · rw [List.map_append]
      exact .apart _ _
  · -- Runs stand on both sides of the seam.
    push Not at hseam
    obtain ⟨last, hlast, next, hnext, hlastNone, hnextNone⟩ := hseam
    obtain ⟨front, rfl⟩ := List.getLast?_eq_some_iff.1 hlast
    obtain ⟨back, rfl⟩ := List.head?_eq_some_iff.1 hnext
    have hlastSegment := segment_of_spelling (hfirst.spelling last (by simp)) hlastNone
    have hnextSegment := segment_of_spelling (hsecond.spelling next (by simp)) hnextNone
    refine ⟨_, hfirst.append_runs hsecond hlastNone hnextNone, ?_⟩
    simp only [List.map_append, List.map_cons, List.map_nil, hlastSegment, hnextSegment,
      String.ofList_append]
    exact .fused _ _ _ _

/-- Two templates one after the other are read as the template of their segments, as long as the
directives of both together are not mixed. -/
theorem exists_parse_append {first second : String} {front back : Template}
    (hfirst : parse first = .ok front) (hsecond : parse second = .ok back)
    (hunmixed : Unmixed (front.segments ++ back.segments)) :
    ∃ whole, parse (first ++ second) = .ok whole ∧
      Joined front.segments back.segments whole.segments := by
  obtain ⟨rfl, firstPieces, hfirstPieces, hfirstSegments, -⟩ := parse_eq_ok_iff.1 hfirst
  obtain ⟨rfl, secondPieces, hsecondPieces, hsecondSegments, -⟩ := parse_eq_ok_iff.1 hsecond
  obtain ⟨pieces, hpieces, hjoined⟩ := hfirstPieces.append hsecondPieces
  rw [hfirstSegments, hsecondSegments] at hjoined
  refine ⟨⟨front.source ++ back.source, pieces.map Piece.segment⟩,
    parse_eq_ok_iff.2 ⟨rfl, pieces, ?_, rfl, ?_⟩, hjoined⟩
  · rw [String.toList_append]
    exact hpieces
  · have hsame : ∀ directive, Segment.directive directive ∈ pieces.map Piece.segment ↔
        Segment.directive directive ∈ front.segments ++ back.segments := by
      intro directive
      rw [← mem_directivesOf, hjoined.directivesOf, List.mem_append, List.mem_append,
        mem_directivesOf, mem_directivesOf]
    unfold Unmixed at hunmixed ⊢
    simpa only [hsame] using hunmixed

/-! ## Rendering -/

variable [Json.Writer]

/-- Joined segments are rendered one after the other. -/
theorem Joined.renderSegments {first second whole : List Segment}
    (hjoined : Joined first second whole) (arguments : List Value) (taken : Nat) :
    renderSegments arguments taken whole =
      Template.renderSegments arguments taken (first ++ second) := by
  cases hjoined with
  | apart => rfl
  | fused front text other back =>
      rw [List.append_assoc, List.singleton_append, renderSegments_append, renderSegments_append,
        renderSegments_literal, renderSegments_literal, renderSegments_literal, map_append_map]

/-- Render segments with two lists of arguments: directives that take the next argument take it
from the first list, and all others find theirs in the second one. An error comes with the
directive that it is about. -/
def renderApart (sequential others : List Value) :
    Nat → List Segment → Except (Directive × RenderError) String
  | _, [] => .ok ""
  | taken, .literal text :: segments =>
      (renderApart sequential others taken segments).map (text ++ ·)
  | taken, .directive directive :: segments =>
      match directive.render (if directive.takesNext then sequential else others) taken with
      | .ok text =>
          (renderApart sequential others (taken + directive.consumed) segments).map (text ++ ·)
      | .error error => .error (directive, error)

/-- Behind a number of arguments the sequence is what is left of the arguments, and a missing
argument of the sequence has a number that is so much greater. -/
theorem renderSegments_eq_renderApart (arguments : List Value) (count taken : Nat)
    (segments : List Segment) : renderSegments arguments (count + taken) segments =
      (renderApart (arguments.drop count) arguments taken segments).mapError fun fault ↦
        if fault.1.takesNext then fault.2.later count else fault.2 := by
  induction segments generalizing taken with
  | nil => rfl
  | cons segment segments ih =>
      cases segment with
      | literal text =>
          rw [renderSegments_literal, ih, renderApart]
          cases renderApart (arguments.drop count) arguments taken segments with
          | error fault => rfl
          | ok rest => rfl
      | directive directive =>
          rw [renderSegments_directive, directive.render_apart, renderApart, Nat.add_assoc, ih,
            Directive.consumed_eq]
          cases directive.render (if directive.takesNext then arguments.drop count else arguments)
            taken with
          | error error => rfl
          | ok text =>
              dsimp only [Except.mapError]
              cases renderApart (arguments.drop count) arguments
                (taken + directive.takesNext.toNat) segments with
              | error fault => rfl
              | ok rest => rfl

/-- With one list of arguments for all directives this is rendering. -/
theorem renderApart_self (arguments : List Value) (segments : List Segment) :
    (renderApart arguments arguments 0 segments).mapError Prod.snd =
      renderSegments arguments 0 segments := by
  have hlater : ∀ error : RenderError, error.later 0 = error := by
    intro error
    cases error <;> rfl
  have hshift := renderSegments_eq_renderApart arguments 0 0 segments
  simp only [hlater, ite_self, List.drop_zero] at hshift
  exact hshift.symm

/-- Segments that take nothing from the sequence render alike wherever it stands. -/
theorem renderSegments_of_not_takesNext {segments : List Segment}
    (hsegments : ∀ directive ∈ directivesOf segments, directive.takesNext = false)
    (arguments : List Value) (taken other : Nat) :
    renderSegments arguments taken segments = renderSegments arguments other segments := by
  induction segments generalizing taken other with
  | nil => rfl
  | cons segment segments ih =>
      cases segment with
      | literal text =>
          rw [renderSegments_literal, renderSegments_literal, ih hsegments taken other]
      | directive directive =>
          have hdirective := hsegments directive (by simp)
          have hothers := ih (fun other hmem ↦ hsegments other (by simp [hmem]))
          rw [renderSegments_directive, renderSegments_directive,
            Directive.render_of_not_takesNext hdirective arguments taken other,
            hothers (taken + directive.takesNext.toNat) (other + directive.takesNext.toNat)]

/-- Two templates that are not mixed make up a template. It fails to render with the error of the
first template, when there is one. Otherwise the text of the first template comes first, and then
the second template is rendered: its sequence of arguments begins behind those that the first one
took, which also raises the number of an argument that is missing from the sequence, while the
arguments with a number or a path are found where they were. A second template that takes nothing
from the sequence is rendered as it is. -/
theorem render_append {first second : String} {front back : Template}
    (hfirst : parse first = .ok front) (hsecond : parse second = .ok back)
    (hunmixed : Unmixed (front.segments ++ back.segments)) :
    ∃ whole, parse (first ++ second) = .ok whole ∧ ∀ arguments,
      (whole.render arguments =
        match front.render arguments with
        | .error error => .error error
        | .ok text =>
            let count := front.directives.countP Directive.takesNext
            match renderApart (arguments.drop count) arguments 0 back.segments with
            | .error (directive, error) =>
                .error (if directive.takesNext then error.later count else error)
            | .ok rest => .ok (text ++ rest)) ∧
      (renderApart arguments arguments 0 back.segments).mapError Prod.snd =
        back.render arguments ∧
      ((∀ directive ∈ back.directives, directive.reference ≠ .next) →
        whole.render arguments =
          match front.render arguments with
          | .error error => .error error
          | .ok text => (back.render arguments).map (text ++ ·)) := by
  obtain ⟨whole, hwhole, hjoined⟩ := exists_parse_append hfirst hsecond hunmixed
  refine ⟨whole, hwhole, fun arguments ↦ ⟨?_, renderApart_self arguments back.segments, ?_⟩⟩
  · unfold Template.render
    rw [hjoined.renderSegments, renderSegments_append, ← directives_eq]
    cases renderSegments arguments 0 front.segments with
    | error error => rfl
    | ok text =>
        dsimp only
        rw [Nat.zero_add, ← Nat.add_zero (front.directives.countP Directive.takesNext),
          renderSegments_eq_renderApart, Nat.add_zero]
        split
        · rename_i directive error hrest
          rw [hrest]
          rfl
        · rename_i rest hrest
          rw [hrest]
          rfl
  · intro hback
    have hsequence : ∀ directive ∈ directivesOf back.segments, directive.takesNext = false := by
      intro directive hmem
      rw [Bool.eq_false_iff, ne_eq, Directive.takesNext_iff]
      exact hback directive hmem
    unfold Template.render
    rw [hjoined.renderSegments, renderSegments_append]
    cases renderSegments arguments 0 front.segments with
    | error error => rfl
    | ok text => rw [renderSegments_of_not_takesNext hsequence arguments _ 0]

omit [Json.Writer] in
/-- Runs that meet at the seam, and a second template that takes one argument from the sequence. -/
theorem render_append_runs :
    letI := Json.Writer.shortest
    parse "é%s b" = .ok ⟨"é%s b", [.literal "é",
        .directive ⟨.next, false, none, false, none, none, .text⟩, .literal " b"]⟩ ∧
      parse "c%s%1$s" = .ok ⟨"c%s%1$s", [.literal "c",
        .directive ⟨.next, false, none, false, none, none, .text⟩,
        .directive ⟨.position 1, false, none, false, none, none, .text⟩]⟩ ∧
      ∃ whole, parse "é%s bc%s%1$s" = .ok whole ∧
        whole.render [.string "x", .string "y"] = .ok "éx bcyx" ∧
        whole.render [.string "x"] = .error (.missingArgument 2) := by
  let := Json.Writer.shortest
  have hfirst : parse "é%s b" = .ok ⟨"é%s b", [.literal "é",
      .directive ⟨.next, false, none, false, none, none, .text⟩, .literal " b"]⟩ := by
    decide +kernel
  have hsecond : parse "c%s%1$s" = .ok ⟨"c%s%1$s", [.literal "c",
      .directive ⟨.next, false, none, false, none, none, .text⟩,
      .directive ⟨.position 1, false, none, false, none, none, .text⟩]⟩ := by decide +kernel
  obtain ⟨whole, hwhole, hrender⟩ := render_append hfirst hsecond (by simp [Unmixed])
  refine ⟨hfirst, hsecond, whole, hwhole, ?_, ?_⟩
  · rw [(hrender _).1]
    decide +kernel
  · rw [(hrender _).1]
    decide +kernel

end Template

end Numbering
