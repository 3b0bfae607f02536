import Numbering.Json.Writing
import Numbering.Proofs.Template.Parsing
import Numbering.Proofs.Template.Rendering

/-!
# Counted positions

A directive that takes the next argument takes the one whose position is the number of such
directives up to it. So these positions may as well be written: `withPositions` puts them right
behind the percent signs, the pieces stay pieces (`Decomposition.withPositions`), and the template
that is read renders as before, errors included (`render_withPositions`).
-/

namespace Numbering

open Digits

/-! ## One directive -/

namespace Directive

/-- The directive with the argument at a position in the place of its own. -/
def atPosition (directive : Directive) (number : Nat) : Directive :=
  { directive with reference := .position number }

/-- The next argument of a sequence has a position. -/
theorem render_atPosition [Json.Writer] {directive : Directive} (hnext : directive.takesNext = true)
    (arguments : List Value) (taken other : Nat) :
    (directive.atPosition (taken + 1)).render arguments other =
      directive.render arguments taken := by
  have hresolve : (directive.atPosition (taken + 1)).resolve arguments other =
      directive.resolve arguments taken := by
    unfold resolve
    rw [takesNext_iff.1 hnext, atPosition]
  unfold render
  rw [hresolve]
  rfl

end Directive

/-- A directive that takes the next argument is spelled without a reference, and with a position
right behind its percent sign it is the directive with that position. -/
theorem Directive.Spelling.atPosition {directive : Directive} {chars : List Char}
    (hspelling : directive.Spelling chars) (hnext : directive.takesNext = true) {number : Nat}
    (hpos : 1 ≤ number) (hbound : number ≤ greatestCount) :
    (directive.atPosition number).Spelling ('%' :: (numeral number ++ '$' :: chars.tail)) := by
  obtain ⟨reference, sign, padding, alignment, width, precision, hreference, hsign, hpadding,
    halign, hwidth, hprecision, hzero⟩ := hspelling
  rw [Directive.takesNext_iff.1 hnext] at hreference
  cases hreference
  have hcount : IsCount number (numeral number) :=
    ⟨isRun_numeral number, decimalNat_numeral number, hbound⟩
  have hspelling : (directive.atPosition number).Spelling _ :=
    .intro _ sign padding alignment width precision
      (.position number _ hcount (head?_numeral hpos) hpos) hsign hpadding halign hwidth hprecision
      hzero
  simpa [Directive.atPosition] using hspelling

namespace Template

/-! ## Pieces -/

namespace Piece

/-- The piece is a directive that takes the next argument. -/
def takesNext (piece : Piece) : Bool :=
  match piece.segment with
  | .directive directive => directive.takesNext
  | .literal _ => false

/-- A directive that takes the next argument, with a position written right behind its percent
sign; any other piece as it is. -/
def withPosition (number : Nat) (piece : Piece) : Piece :=
  match piece.segment with
  | .directive directive =>
      if directive.takesNext then
        ⟨.directive (directive.atPosition number),
          '%' :: (numeral number ++ '$' :: piece.chars.tail)⟩
      else piece
  | .literal _ => piece

end Piece

/-- The pieces with a position written in every directive that takes the next argument: so many
more than have been taken before, as there are of these directives up to it. -/
def withPositions : Nat → List Piece → List Piece
  | _, [] => []
  | taken, piece :: pieces =>
      piece.withPosition (taken + 1) :: withPositions (taken + piece.takesNext.toNat) pieces

section Pieces

variable {piece : Piece} {pieces : List Piece} {number taken : Nat}

/-- A piece takes the next argument when its directive does. -/
theorem takesNext_directive {directive : Directive}
    (hsegment : piece.segment = .directive directive) : piece.takesNext = directive.takesNext := by
  rw [Piece.takesNext, hsegment]

/-- Other pieces than those that take the next argument are left as they are. -/
theorem withPosition_of_not_takesNext (hnext : piece.takesNext = false) :
    piece.withPosition number = piece := by
  unfold Piece.withPosition
  split
  · rename_i directive hsegment
    rw [takesNext_directive hsegment] at hnext
    exact if_neg (Bool.eq_false_iff.1 hnext)
  · rfl

/-- A piece that takes the next argument gets a position behind its percent sign. -/
theorem withPosition_of_takesNext (hnext : piece.takesNext = true) : ∃ directive,
    piece.segment = .directive directive ∧ directive.takesNext = true ∧
      piece.withPosition number = ⟨.directive (directive.atPosition number),
        '%' :: (numeral number ++ '$' :: piece.chars.tail)⟩ := by
  unfold Piece.takesNext at hnext
  split at hnext
  · rename_i directive hsegment
    refine ⟨directive, hsegment, hnext, ?_⟩
    unfold Piece.withPosition
    rw [hsegment]
    exact if_pos hnext
  · cases hnext

/-- A piece with a position is a piece. -/
theorem spelling_withPosition (hspelling : piece.segment.Spelling piece.chars)
    (hpos : 1 ≤ number) (hbound : number ≤ greatestCount) :
    (piece.withPosition number).segment.Spelling (piece.withPosition number).chars := by
  cases hnext : piece.takesNext with
  | false => rwa [withPosition_of_not_takesNext hnext]
  | true =>
      obtain ⟨directive, hsegment, htakes, hposition⟩ := @withPosition_of_takesNext _ number hnext
      rw [hsegment] at hspelling
      rw [hposition]
      cases hspelling with
      | directive _ _ hdirective => exact .directive _ _ (hdirective.atPosition htakes hpos hbound)

/-- A position is written behind a percent sign, so it makes no run of a piece that was none. -/
theorem percent_mem_withPosition (hpercent : '%' ∈ piece.chars) :
    '%' ∈ (piece.withPosition number).chars := by
  cases hnext : piece.takesNext with
  | false => rwa [withPosition_of_not_takesNext hnext]
  | true =>
      obtain ⟨directive, -, -, hposition⟩ := @withPosition_of_takesNext _ number hnext
      rw [hposition]
      exact List.mem_cons_self

/-- With positions every piece still is spelled by its characters. -/
theorem spelling_withPositions
    (hspelling : ∀ piece ∈ pieces, piece.segment.Spelling piece.chars)
    (hcount : taken + pieces.countP Piece.takesNext ≤ greatestCount) :
    ∀ piece ∈ withPositions taken pieces, piece.segment.Spelling piece.chars := by
  induction pieces generalizing taken with
  | nil => simp [withPositions]
  | cons piece pieces ih =>
      obtain ⟨hpiece, hpieces⟩ := List.forall_mem_cons.1 hspelling
      rw [List.countP_cons] at hcount
      refine List.forall_mem_cons.2 ⟨?_, ih hpieces ?_⟩
      · cases hnext : piece.takesNext with
        | false => rwa [withPosition_of_not_takesNext hnext]
        | true =>
            rw [if_pos hnext] at hcount
            exact spelling_withPosition hpiece (Nat.le_add_left 1 taken) (by omega)
      · cases hnext : piece.takesNext <;> simp [hnext] at hcount ⊢ <;> omega

/-- Positions bring no two literals together. -/
theorem isChain_withPositions
    (hchain : pieces.IsChain fun first second ↦ '%' ∈ first.chars ∨ '%' ∈ second.chars) :
    (withPositions taken pieces).IsChain
      fun first second ↦ '%' ∈ first.chars ∨ '%' ∈ second.chars := by
  induction pieces generalizing taken with
  | nil => exact .nil
  | cons piece pieces ih =>
      cases pieces with
      | nil => exact .singleton _
      | cons next others =>
          obtain ⟨hpair, hrest⟩ := List.isChain_cons_cons.1 hchain
          exact List.isChain_cons_cons.2
            ⟨hpair.imp percent_mem_withPosition percent_mem_withPosition, ih hrest⟩

/-- With positions in them the pieces of a text are the pieces of the text that they make up. -/
theorem Decomposition.withPositions {chars : List Char} (hpieces : Decomposition pieces chars)
    (hcount : taken + pieces.countP Piece.takesNext ≤ greatestCount) :
    Decomposition (Template.withPositions taken pieces)
      ((Template.withPositions taken pieces).flatMap Piece.chars) :=
  ⟨rfl, spelling_withPositions hpieces.spelling hcount, isChain_withPositions hpieces.maximal⟩

end Pieces

/-! ## Rendering -/

section Rendering

variable {pieces : List Piece} {taken : Nat}

/-- As many pieces as directives take the next argument. -/
theorem countP_takesNext (pieces : List Piece) :
    pieces.countP Piece.takesNext =
      (directivesOf (pieces.map Piece.segment)).countP Directive.takesNext := by
  induction pieces with
  | nil => rfl
  | cons piece pieces ih =>
      rw [List.countP_cons, ih, List.map_cons]
      unfold Piece.takesNext
      cases piece.segment with
      | literal text => rfl
      | directive directive => rw [directivesOf_directive, List.countP_cons]

/-- No directive takes the next argument any more, and each is in the style of one that was there
before. -/
theorem exists_of_mem_withPositions {directive : Directive}
    (hdirective : directive ∈ directivesOf ((withPositions taken pieces).map Piece.segment)) :
    directive.takesNext = false ∧ ∃ original ∈ directivesOf (pieces.map Piece.segment),
      directive.reference.style = original.reference.style := by
  induction pieces generalizing taken with
  | nil => simp [withPositions] at hdirective
  | cons piece pieces ih =>
      rw [withPositions, List.map_cons] at hdirective
      rw [List.map_cons]
      cases hnext : piece.takesNext with
      | true =>
          obtain ⟨original, hsegment, htakes, hposition⟩ :=
            @withPosition_of_takesNext _ (taken + 1) hnext
          rw [hposition, directivesOf_directive] at hdirective
          rw [hsegment, directivesOf_directive]
          rcases List.mem_cons.1 hdirective with rfl | hrest
          · refine ⟨by simp [Directive.takesNext, Directive.atPosition], original,
              List.mem_cons_self, ?_⟩
            rw [Directive.takesNext_iff.1 htakes]
            rfl
          · obtain ⟨hnone, other, hother, hstyle⟩ := ih hrest
            exact ⟨hnone, other, List.mem_cons_of_mem _ hother, hstyle⟩
      | false =>
          rw [withPosition_of_not_takesNext hnext] at hdirective
          cases hsegment : piece.segment with
          | literal text =>
              rw [hsegment] at hdirective
              exact ih hdirective
          | directive original =>
              rw [takesNext_directive hsegment] at hnext
              rw [hsegment, directivesOf_directive] at hdirective
              rw [directivesOf_directive]
              rcases List.mem_cons.1 hdirective with rfl | hrest
              · exact ⟨hnext, directive, List.mem_cons_self, rfl⟩
              · obtain ⟨hnone, other, hother, hstyle⟩ := ih hrest
                exact ⟨hnone, other, List.mem_cons_of_mem _ hother, hstyle⟩

/-- With positions the references of a template are not mixed. -/
theorem unmixed_withPositions (hunmixed : Unmixed (pieces.map Piece.segment)) :
    Unmixed ((withPositions taken pieces).map Piece.segment) := by
  obtain ⟨common, hfixed, hall⟩ := uniform_none_iff.2 hunmixed
  refine uniform_none_iff.1 ⟨common, hfixed, fun directive hdirective ↦ ?_⟩
  obtain ⟨-, original, horiginal, hstyle⟩ :=
    exists_of_mem_withPositions (mem_directivesOf.2 hdirective)
  rw [hstyle, hall original (mem_directivesOf.1 horiginal)]

/-- With positions the pieces render as before, and take nothing from the sequence. -/
theorem renderSegments_withPositions [Json.Writer] (arguments : List Value) (taken other : Nat)
    (pieces : List Piece) :
    renderSegments arguments other ((withPositions taken pieces).map Piece.segment) =
      renderSegments arguments taken (pieces.map Piece.segment) := by
  induction pieces generalizing taken with
  | nil => rfl
  | cons piece pieces ih =>
      rw [withPositions, List.map_cons, List.map_cons]
      cases hnext : piece.takesNext with
      | true =>
          obtain ⟨directive, hsegment, htakes, hposition⟩ :=
            @withPosition_of_takesNext _ (taken + 1) hnext
          have hnone : (directive.atPosition (taken + 1)).takesNext = false := by
            simp [Directive.takesNext, Directive.atPosition]
          rw [hposition, hsegment, renderSegments_directive, renderSegments_directive,
            Directive.render_atPosition htakes, hnone, htakes, Bool.toNat_false, Nat.add_zero, ih]
      | false =>
          rw [withPosition_of_not_takesNext hnext, Bool.toNat_false, Nat.add_zero]
          cases hsegment : piece.segment with
          | literal text => rw [renderSegments_literal, renderSegments_literal, ih]
          | directive directive =>
              rw [takesNext_directive hsegment] at hnext
              rw [renderSegments_directive, renderSegments_directive,
                Directive.render_of_not_takesNext hnext arguments other taken, hnext,
                Bool.toNat_false, Nat.add_zero, Nat.add_zero, ih]

end Rendering

/-- The number of directives that take the next argument is one that a position may have, as it is
in every text of less than `2 ^ 64` bytes. Then the text with such a position behind the percent
sign of each of them, counted from one, is a template as well. All its directives have a position or
a path, and it renders to the same text or the same error against all arguments. -/
theorem render_withPositions [Json.Writer] {source : String} {template : Template}
    (hparse : parse source = .ok template)
    (hcount : template.directives.countP Directive.takesNext ≤ greatestCount) :
    ∃ pieces, Decomposition pieces source.toList ∧
      pieces.map Piece.segment = template.segments ∧
      ∃ numbered, parse (String.ofList ((withPositions 0 pieces).flatMap Piece.chars)) =
          .ok numbered ∧
        (∀ directive ∈ numbered.directives, directive.reference ≠ .next) ∧
        ∀ arguments, numbered.render arguments = template.render arguments := by
  obtain ⟨-, pieces, hpieces, hsegments, hunmixed⟩ := parse_eq_ok_iff.1 hparse
  rw [directives_eq, ← hsegments, ← countP_takesNext] at hcount
  rw [← hsegments] at hunmixed
  refine ⟨pieces, hpieces, hsegments, ⟨_, (withPositions 0 pieces).map Piece.segment⟩,
    parse_eq_ok_iff.2 ⟨rfl, withPositions 0 pieces, ?_, rfl, unmixed_withPositions hunmixed⟩,
    fun directive hdirective hnext ↦ ?_, fun arguments ↦ ?_⟩
  · rw [String.toList_ofList]
    exact hpieces.withPositions (by rwa [Nat.zero_add])
  · have hnone := (exists_of_mem_withPositions hdirective).1
    rw [Directive.takesNext_iff.2 hnext] at hnone
    cases hnone
  · rw [render, render, renderSegments_withPositions, hsegments]

/-- A pad behind the percent sign, a doubled percent sign, a directive that has a position already,
and a second argument that may be missing. -/
theorem render_withPositions_mixed :
    letI := Json.Writer.shortest
    ∃ numbered, parse "%1$05d%%%1$s%2$+d" = .ok numbered ∧
      numbered.render [.number .one, .number .one] = .ok "00001%1+1" ∧
      numbered.render [.number .one] = .error (.missingArgument 2) := by
  let := Json.Writer.shortest
  have hparse : parse "%05d%%%1$s%+d" = .ok ⟨"%05d%%%1$s%+d",
      [.directive ⟨.next, false, some .zero, false, some 5, none, .decimal⟩, .literal "%",
        .directive ⟨.position 1, false, none, false, none, none, .text⟩,
        .directive ⟨.next, true, none, false, none, none, .decimal⟩]⟩ := by decide +kernel
  obtain ⟨pieces, hpieces, hsegments, numbered, hnumbered, -, hrender⟩ :=
    render_withPositions hparse (by decide)
  have hcut : Decomposition
      [⟨.directive ⟨.next, false, some .zero, false, some 5, none, .decimal⟩, "%05d".toList⟩,
        ⟨.literal "%", "%%".toList⟩,
        ⟨.directive ⟨.position 1, false, none, false, none, none, .text⟩, "%1$s".toList⟩,
        ⟨.directive ⟨.next, true, none, false, none, none, .decimal⟩, "%+d".toList⟩]
      "%05d%%%1$s%+d".toList := by
    refine decomposition_cons_iff.2 ⟨"%%%1$s%+d".toList, rfl, ?_⟩
    refine decomposition_cons_iff.2 ⟨"%1$s%+d".toList, rfl, ?_⟩
    refine decomposition_cons_iff.2 ⟨"%+d".toList, rfl, ?_⟩
    exact decomposition_cons_iff.2 ⟨[], rfl, decomposition_nil_iff.2 rfl⟩
  obtain rfl := hpieces.unique hcut
  have hread : parse "%1$05d%%%1$s%2$+d" = .ok numbered := by
    rw [← hnumbered]
    congr 1
    decide +kernel
  refine ⟨numbered, hread, ?_, ?_⟩
  · rw [hrender]
    decide +kernel
  · rw [hrender]
    decide +kernel

end Template

end Numbering
