import Numbering.Proofs.Template.Decomposition

/-!
# Reading templates

The segments of a template are read piece by piece, and a text is read as a template precisely
when it has a decomposition whose directives refer to their arguments in one style
(`parse_iff_unique_decomposition`).
-/

namespace Numbering

namespace Template

open Text

/-! ## Styles of reference -/

/-- There are not both a directive with a path and a directive without one. -/
def Unmixed (segments : List Segment) : Prop :=
  ¬ ((∃ directive path, .directive directive ∈ segments ∧ directive.reference = .path path) ∧
    ∃ directive, .directive directive ∈ segments ∧ ∀ path, directive.reference ≠ .path path)

/-- The directives that a style was fixed by, if any, and those that follow agree on one. -/
def Uniform (style : Option ReferenceStyle) (segments : List Segment) : Prop :=
  ∃ common, (∀ fixed ∈ style, fixed = common) ∧
    ∀ directive, .directive directive ∈ segments → directive.reference.style = common

/-- No segments are uniform in every style. -/
theorem uniform_nil (style : Option ReferenceStyle) : Uniform style [] := by
  cases style with
  | none => exact ⟨.named, by simp, by simp⟩
  | some fixed => exact ⟨fixed, by simp, by simp⟩

/-- The style that is fixed after a segment; a directive in another style is refused. -/
def styleAfter (style : Option ReferenceStyle) :
    Segment → Except TemplateError (Option ReferenceStyle)
  | .literal _ => .ok style
  | .directive directive =>
      if style.any (· ≠ directive.reference.style) then .error .mixedReference
      else .ok (some directive.reference.style)

/-- A sequence of segments is uniform when its first segment is not refused and the others are
uniform in the style that it leaves. -/
theorem uniform_cons_iff {style : Option ReferenceStyle} {segment : Segment}
    {segments : List Segment} : Uniform style (segment :: segments) ↔
      ∃ next, styleAfter style segment = .ok next ∧ Uniform next segments := by
  cases segment with
  | literal text => simp [Uniform, styleAfter]
  | directive directive =>
      constructor
      · rintro ⟨common, hfixed, hall⟩
        have hdirective := hall directive (by simp)
        refine ⟨some directive.reference.style, ?_, common, by simp [hdirective],
          fun other hmem ↦ hall other (by simp [hmem])⟩
        cases style with
        | none => rfl
        | some fixed => simp [styleAfter, hfixed fixed rfl, hdirective]
      · rintro ⟨next, hafter, common, hfixed, hall⟩
        simp only [styleAfter] at hafter
        split at hafter
        · cases hafter
        · rename_i hagree
          cases hafter
          have hdirective := hfixed _ rfl
          refine ⟨common, ?_, ?_⟩
          · rintro fixed ⟨⟩
            simpa [hdirective] using hagree
          · intro other hmem
            rcases List.mem_cons.1 hmem with heq | hmem
            · cases heq
              exact hdirective
            · exact hall other hmem

/-- Without a style fixed before, the directives agree precisely when they are not mixed. -/
theorem uniform_none_iff {segments : List Segment} : Uniform none segments ↔ Unmixed segments := by
  have hstyle : ∀ reference : Reference,
      reference.style = .named ↔ ∃ path, reference = .path path := by
    intro reference
    cases reference <;> simp [Reference.style]
  constructor
  · rintro ⟨common, -, hall⟩ ⟨⟨directive, path, hmem, hpath⟩, other, hother, hnone⟩
    have hnamed : other.reference.style = .named := by
      rw [hall other hother, ← hall directive hmem]
      exact (hstyle _).2 ⟨path, hpath⟩
    obtain ⟨otherPath, hotherPath⟩ := (hstyle _).1 hnamed
    exact hnone otherPath hotherPath
  · intro hunmixed
    -- The style is that of any directive with a path; without one it is the other style.
    by_cases hnamed : ∃ directive path, .directive directive ∈ segments ∧
        directive.reference = .path path
    · refine ⟨.named, by simp, fun directive hmem ↦ (hstyle _).2 ?_⟩
      by_contra hnone
      exact hunmixed ⟨hnamed, directive, hmem, fun path hpath ↦ hnone ⟨path, hpath⟩⟩
    · refine ⟨.positional, by simp, fun directive hmem ↦ ?_⟩
      cases hreference : directive.reference with
      | next => rfl
      | position number => rfl
      | path path => exact absurd ⟨directive, path, hmem, hreference⟩ hnamed

/-! ## Reading the segments -/

/-- Behind a percent sign that is not doubled a placeholder is scanned. -/
theorem parseSegments_percent {rest : List Char} (hescape : ∀ tail, rest ≠ '%' :: tail)
    (size : Nat) (style : Option ReferenceStyle) : parseSegments size style ('%' :: rest) =
      match Placeholder.scan? rest with
      | none => .error (.unexpectedPlaceholder (size - byteLength ('%' :: rest)))
      | some (placeholder, after) =>
          match placeholder.directive with
          | .error fault => .error (fault.locate (size - byteLength ('%' :: rest)))
          | .ok directive =>
              if style.any (· ≠ directive.reference.style) then .error .mixedReference
              else (parseSegments size (some directive.reference.style) after).map
                (.directive directive :: ·) := by
  rw [parseSegments]
  · split
    · rename_i hscan
      rw [hscan]
    · rename_i placeholder after hscan
      cases hdirective : placeholder.directive with
      | error fault => simp only [hscan, hdirective]
      | ok directive => simp only [hscan, hdirective]
  · exact fun tail heq ↦ hescape tail heq

/-- The segment of the piece at the front is read first; a directive has to keep to the style. -/
theorem parseSegments_of_readPiece? {chars rest : List Char} {piece : Piece}
    (hread : readPiece? chars = some (piece, rest)) (size : Nat)
    (style : Option ReferenceStyle) : parseSegments size style chars =
      (styleAfter style piece.segment).bind fun next ↦
        (parseSegments size next rest).map (piece.segment :: ·) := by
  unfold readPiece? at hread
  split at hread
  · cases hread
  · cases hread
    rw [parseSegments]
    rfl
  · rename_i tail hescape
    rw [parseSegments_percent fun other heq ↦ hescape other heq]
    cases hscan : Placeholder.scan? tail with
    | none => simp [hscan] at hread
    | some scanned =>
        obtain ⟨placeholder, after⟩ := scanned
        cases hdenotes : placeholder.directive with
        | error fault => simp [hscan, hdenotes] at hread
        | ok directive =>
            simp only [hscan, hdenotes, Option.some.injEq, Prod.mk.injEq] at hread
            obtain ⟨rfl, rfl⟩ := hread
            simp only [hdenotes, styleAfter]
            split <;> rfl
  · rename_i char tail hescape hne
    cases hread
    rw [parseSegments]
    · rfl
    · exact hescape
    · exact hne

/-- Where no piece can be read the text is refused. -/
theorem parseSegments_of_readPiece?_eq_none {chars : List Char} (hne : chars ≠ [])
    (hread : readPiece? chars = none) (size : Nat) (style : Option ReferenceStyle) :
    ∃ error, parseSegments size style chars = .error error := by
  unfold readPiece? at hread
  split at hread
  · exact absurd rfl hne
  · cases hread
  · rename_i tail hescape
    rw [parseSegments_percent fun other heq ↦ hescape other heq]
    cases hscan : Placeholder.scan? tail with
    | none => exact ⟨_, rfl⟩
    | some scanned =>
        obtain ⟨placeholder, after⟩ := scanned
        cases hdenotes : placeholder.directive with
        | error fault => exact ⟨_, by simp only [hdenotes]; rfl⟩
        | ok directive => simp [hscan, hdenotes] at hread
  · cases hread

/-- The pieces that are read leave less text than there was. -/
theorem length_of_readPiece? {chars rest : List Char} {piece : Piece}
    (hread : readPiece? chars = some (piece, rest)) : rest.length < chars.length := by
  obtain ⟨hspelling, rfl, -⟩ := readPiece?_eq_some_iff.1 hread
  have hpos := List.length_pos_iff.2 (ne_nil_of_spelling hspelling)
  rw [List.length_append]
  omega

/-- The segments that are read are those of a decomposition and keep to one style. -/
theorem exists_decomposition_of_parseSegments {size : Nat} {style : Option ReferenceStyle}
    {chars : List Char} {segments : List Segment}
    (hparse : parseSegments size style chars = .ok segments) :
    ∃ pieces, Decomposition pieces chars ∧ pieces.map Piece.segment = segments ∧
      Uniform style segments := by
  -- A piece is never empty, so the induction is on the length of the text that is left.
  induction hlength : chars.length using Nat.strongRecOn generalizing chars style segments with
  | ind length ih =>
      cases hread : readPiece? chars with
      | none =>
          cases chars with
          | nil =>
              rw [parseSegments] at hparse
              cases hparse
              exact ⟨[], decomposition_nil_iff.2 rfl, rfl, uniform_nil style⟩
          | cons char chars =>
              obtain ⟨error, herror⟩ :=
                parseSegments_of_readPiece?_eq_none (by simp) hread size style
              rw [hparse] at herror
              cases herror
      | some read =>
          obtain ⟨piece, rest⟩ := read
          have hshorter := length_of_readPiece? hread
          rw [hlength] at hshorter
          rw [parseSegments_of_readPiece? hread] at hparse
          cases hafter : styleAfter style piece.segment with
          | error error =>
              rw [hafter] at hparse
              cases hparse
          | ok next =>
              cases hrest : parseSegments size next rest with
              | error error =>
                  rw [hafter, Except.bind, hrest] at hparse
                  cases hparse
              | ok others =>
                  rw [hafter, Except.bind, hrest] at hparse
                  cases hparse
                  obtain ⟨pieces, hpieces, hsegments, huniform⟩ := ih _ hshorter hrest rfl
                  exact ⟨piece :: pieces, decomposition_cons_iff.2 ⟨rest, hread, hpieces⟩,
                    by rw [List.map_cons, hsegments], uniform_cons_iff.2 ⟨next, hafter, huniform⟩⟩

/-- The segments of a decomposition are read, as long as they keep to one style. -/
theorem Decomposition.parseSegments {pieces : List Piece} {chars : List Char}
    (hpieces : Decomposition pieces chars) (size : Nat) {style : Option ReferenceStyle}
    (huniform : Uniform style (pieces.map Piece.segment)) :
    Template.parseSegments size style chars = .ok (pieces.map Piece.segment) := by
  induction pieces generalizing chars style with
  | nil =>
      obtain rfl := decomposition_nil_iff.1 hpieces
      rw [Template.parseSegments, List.map_nil]
  | cons piece pieces ih =>
      obtain ⟨rest, hread, hrest⟩ := decomposition_cons_iff.1 hpieces
      obtain ⟨next, hafter, huniform⟩ := uniform_cons_iff.1 huniform
      rw [parseSegments_of_readPiece? hread, hafter, Except.bind, ih hrest huniform]
      rfl

/-- A text is read as the template of its decomposition, unless the directives are mixed. -/
theorem parse_eq_ok_iff {source : String} {template : Template} :
    parse source = .ok template ↔ template.source = source ∧
      ∃ pieces, Decomposition pieces source.toList ∧ pieces.map Piece.segment = template.segments ∧
        Unmixed template.segments := by
  unfold parse
  constructor
  · intro hparse
    cases hsegments : parseSegments (byteLength source.toList) none source.toList with
    | error error =>
        rw [hsegments] at hparse
        cases hparse
    | ok segments =>
        rw [hsegments] at hparse
        cases hparse
        obtain ⟨pieces, hpieces, rfl, huniform⟩ := exists_decomposition_of_parseSegments hsegments
        exact ⟨rfl, pieces, hpieces, rfl, uniform_none_iff.1 huniform⟩
  · rintro ⟨rfl, pieces, hpieces, hsegments, hunmixed⟩
    rw [← hsegments] at hunmixed
    rw [hpieces.parseSegments _ (uniform_none_iff.2 hunmixed), hsegments]
    rfl

/-- A text is read as a template precisely when it has a decomposition whose directives are not
mixed. The template keeps the text and has the segments of the decomposition, and there is no
other decomposition of the text. -/
theorem parse_iff_unique_decomposition (source : String) :
    ((∃ template, parse source = .ok template) ↔
      ∃ pieces, Decomposition pieces source.toList ∧ Unmixed (pieces.map Piece.segment)) ∧
    (∀ template, parse source = .ok template → template.source = source ∧
      ∃ pieces, Decomposition pieces source.toList ∧
        pieces.map Piece.segment = template.segments) ∧
    ∀ first second, Decomposition first source.toList → Decomposition second source.toList →
      first = second := by
  refine ⟨⟨?_, ?_⟩, ?_, ?_⟩
  · rintro ⟨template, hparse⟩
    obtain ⟨-, pieces, hpieces, hsegments, hunmixed⟩ := parse_eq_ok_iff.1 hparse
    exact ⟨pieces, hpieces, by rwa [hsegments]⟩
  · rintro ⟨pieces, hpieces, hunmixed⟩
    exact ⟨⟨source, _⟩, parse_eq_ok_iff.2 ⟨rfl, pieces, hpieces, rfl, hunmixed⟩⟩
  · intro template hparse
    obtain ⟨hsource, pieces, hpieces, hsegments, -⟩ := parse_eq_ok_iff.1 hparse
    exact ⟨hsource, pieces, hpieces, hsegments⟩
  · intro first second hfirst hsecond
    exact hfirst.unique hsecond

end Template

end Numbering
