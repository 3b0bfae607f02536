import Numbering.Proofs.Template.Parsing

/-!
# The template in front of an unexpected placeholder

An error at an offset says how far a text can be read. The pieces in front of the offset are read in
the same way when the text is cut anywhere behind them (`Decomposition.of_append`), and the
placeholder at the offset is not read from any part of the text behind it (`readPiece?_append`). So
the text up to the offset is the longest template at the front of the text
(`parse_longest_template`).
-/

namespace Numbering

open Text

namespace Template

/-! ## Pieces of a text that is cut -/

section Cut

variable {piece : Piece} {chars front rest : List Char}

/-- A piece at the front is read in the same way when the text behind it is cut off somewhere. -/
theorem readPiece?_of_append
    (hread : readPiece? (piece.chars ++ (front ++ rest)) = some (piece, front ++ rest)) :
    readPiece? (piece.chars ++ front) = some (piece, front) := by
  obtain ⟨hspelling, -, hstop⟩ := readPiece?_eq_some_iff.1 hread
  refine readPiece?_eq_some_iff.2 ⟨hspelling, rfl, fun hnone ↦ ?_⟩
  cases front with
  | nil => exact stopsRun_nil _
  | cons char front => exact stopsRun_cons.2 (stopsRun_cons.1 (hstop hnone))

/-- A piece that is read off a percent sign is read whatever comes behind the text. -/
theorem readPiece?_append (hread : readPiece? ('%' :: chars) = some (piece, front)) :
    readPiece? ('%' :: chars ++ rest) = some (piece, front ++ rest) := by
  obtain ⟨hspelling, hchars, -⟩ := readPiece?_eq_some_iff.1 hread
  refine readPiece?_eq_some_iff.2 ⟨hspelling, by rw [hchars, List.append_assoc], fun hnone ↦ ?_⟩
  obtain ⟨first, others, hcons⟩ := List.exists_cons_of_ne_nil (ne_nil_of_spelling hspelling)
  rw [hcons, List.cons_append] at hchars
  rw [hcons, ← (List.cons.inj hchars).1] at hnone
  exact absurd List.mem_cons_self hnone

/-- A text that ends in front of a percent sign has the pieces of its own, whatever is behind. -/
theorem Decomposition.of_append {pieces : List Piece} (hfront : Decomposition pieces front)
    {whole : List Piece} (hwhole : Decomposition whole (front ++ '%' :: rest)) :
    ∃ others, Decomposition others ('%' :: rest) ∧ whole = pieces ++ others := by
  induction pieces generalizing front whole with
  | nil =>
      obtain rfl := decomposition_nil_iff.1 hfront
      exact ⟨whole, hwhole, rfl⟩
  | cons piece pieces ih =>
      obtain ⟨after, hread, hpieces⟩ := decomposition_cons_iff.1 hfront
      obtain ⟨hspelling, rfl, hstop⟩ := readPiece?_eq_some_iff.1 hread
      have hagain : readPiece? (piece.chars ++ after ++ '%' :: rest) =
          some (piece, after ++ '%' :: rest) :=
        readPiece?_eq_some_iff.2 ⟨hspelling, List.append_assoc _ _ _,
          fun hnone ↦ (hstop hnone).append (stopsRun_cons.2 (by decide))⟩
      cases whole with
      | nil =>
          have hnil := decomposition_nil_iff.1 hwhole
          simp at hnil
      | cons other whole =>
          obtain ⟨left, hother, hleft⟩ := decomposition_cons_iff.1 hwhole
          rw [hagain] at hother
          cases hother
          obtain ⟨others, hothers, rfl⟩ := ih hpieces hleft
          exact ⟨others, hothers, rfl⟩

end Cut

/-! ## Where reading stops -/

section Stop

variable {size : Nat} {style : Option ReferenceStyle} {chars : List Char}

/-- Where no piece can be read there is a percent sign, and the offset of an unexpected placeholder
is the one of that sign. -/
theorem offset_of_readPiece?_eq_none (hne : chars ≠ []) (hread : readPiece? chars = none)
    {offset : Nat} (hparse : parseSegments size style chars =
      .error (.unexpectedPlaceholder offset)) :
    ∃ tail, chars = '%' :: tail ∧ offset = size - byteLength chars := by
  unfold readPiece? at hread
  split at hread
  · exact absurd rfl hne
  · cases hread
  · rename_i tail hescape
    refine ⟨tail, rfl, ?_⟩
    rw [parseSegments_percent fun other heq ↦ hescape other heq] at hparse
    cases hscan : Placeholder.scan? tail with
    | none =>
        rw [hscan] at hparse
        cases hparse
        rfl
    | some scanned =>
        obtain ⟨placeholder, after⟩ := scanned
        cases hdenotes : placeholder.directive with
        | error fault =>
            simp only [hscan, hdenotes, Except.error.injEq] at hparse
            cases fault with
            | malformedKey key => cases hparse
            | numberTooGreat => exact (TemplateError.unexpectedPlaceholder.inj hparse).symm
        | ok directive => simp [hscan, hdenotes] at hread
  · cases hread

/-- The text in front of an unexpected placeholder has a decomposition in one style, and no piece
can be read behind it. -/
theorem exists_decomposition_of_unexpected {offset : Nat}
    (hparse : parseSegments size style chars = .error (.unexpectedPlaceholder offset)) :
    ∃ pieces front back, Decomposition pieces front ∧ Uniform style (pieces.map Piece.segment) ∧
      chars = front ++ '%' :: back ∧ readPiece? ('%' :: back) = none ∧
        offset = size - byteLength ('%' :: back) := by
  -- A piece is never empty, so the induction is on the length of the text that is left.
  induction hlength : chars.length using Nat.strongRecOn generalizing chars style with
  | ind length ih =>
      cases hread : readPiece? chars with
      | none =>
          have hne : chars ≠ [] := by
            rintro rfl
            rw [parseSegments] at hparse
            cases hparse
          obtain ⟨tail, rfl, hoffset⟩ := offset_of_readPiece?_eq_none hne hread hparse
          exact ⟨[], [], tail, decomposition_nil_iff.2 rfl, uniform_nil style, rfl, hread, hoffset⟩
      | some read =>
          obtain ⟨piece, rest⟩ := read
          have hshorter := length_of_readPiece? hread
          rw [hlength] at hshorter
          rw [parseSegments_of_readPiece? hread] at hparse
          cases hafter : styleAfter style piece.segment with
          | error error =>
              -- A directive in another style is not what was unexpected.
              rw [hafter] at hparse
              cases hparse
              unfold styleAfter at hafter
              split at hafter
              · cases hafter
              · split at hafter <;> cases hafter
          | ok next =>
              cases hrest : parseSegments size next rest with
              | ok others =>
                  rw [hafter, Except.bind, hrest] at hparse
                  cases hparse
              | error error =>
                  rw [hafter, Except.bind, hrest] at hparse
                  cases hparse
                  obtain ⟨pieces, front, back, hpieces, huniform, rfl, hnone, hoffset⟩ :=
                    ih _ hshorter hrest rfl
                  obtain ⟨-, rfl, -⟩ := readPiece?_eq_some_iff.1 hread
                  exact ⟨piece :: pieces, piece.chars ++ front, back,
                    decomposition_cons_iff.2 ⟨front, readPiece?_of_append hread, hpieces⟩,
                    uniform_cons_iff.2 ⟨next, hafter, huniform⟩, (List.append_assoc _ _ _).symm,
                    hnone, hoffset⟩

end Stop

/-- What is read behind a template in front of a percent sign where no piece can be read is no
template, wherever it is cut behind that sign. -/
theorem parse_ne_ok_of_readPiece?_eq_none {pieces : List Piece} {front back tail : List Char}
    (hpieces : Decomposition pieces front) (hnone : readPiece? ('%' :: back) = none)
    (htail : tail <+: back) (template : Template) :
    parse (String.ofList (front ++ '%' :: tail)) ≠ .ok template := by
  intro hparse
  obtain ⟨-, whole, hwhole, -, -⟩ := parse_eq_ok_iff.1 hparse
  rw [String.toList_ofList] at hwhole
  obtain ⟨others, hothers, -⟩ := hpieces.of_append hwhole
  cases others with
  | nil => cases decomposition_nil_iff.1 hothers
  | cons piece others =>
      obtain ⟨after, hread, -⟩ := decomposition_cons_iff.1 hothers
      obtain ⟨rest, rfl⟩ := htail
      have hagain := @readPiece?_append piece tail after rest hread
      rw [List.cons_append, hnone] at hagain
      cases hagain

/-- The offset of an unexpected placeholder is the one of a percent sign inside the text. What is in
front of that sign is a template, and nothing longer at the front of the text is one. -/
theorem parse_longest_template {source : String} {offset : Nat}
    (hparse : parse source = .error (.unexpectedPlaceholder offset)) :
    ∃ front back : List Char, splitAt? offset source.toList = some (front, '%' :: back) ∧
      offset < byteLength source.toList ∧
      (∃ template, parse (String.ofList front) = .ok template) ∧
      ∀ longer : List Char, longer <+: source.toList → offset < byteLength longer →
        ∀ template, parse (String.ofList longer) ≠ .ok template := by
  have hsegments : parseSegments (byteLength source.toList) none source.toList =
      .error (.unexpectedPlaceholder offset) := by
    unfold parse at hparse
    cases hread : parseSegments (byteLength source.toList) none source.toList with
    | error error =>
        rw [hread] at hparse
        cases hparse
        rfl
    | ok segments =>
        rw [hread] at hparse
        cases hparse
  obtain ⟨pieces, front, back, hpieces, huniform, hsource, hnone, hoffset⟩ :=
    exists_decomposition_of_unexpected hsegments
  have hlength : byteLength front = offset := by
    rw [hoffset, hsource, byteLength_append, Nat.add_sub_cancel]
  have hpos : 0 < byteLength ('%' :: back) := by
    have hsize := Char.utf8Size_pos '%'
    rw [byteLength]
    omega
  refine ⟨front, back, ?_, ?_, ?_, fun longer hlonger hmore ↦ ?_⟩
  · rw [hsource, ← hlength]
    exact splitAt?_append front _
  · rw [hsource, byteLength_append, hlength]
    omega
  · exact ⟨⟨String.ofList front, pieces.map Piece.segment⟩, parse_eq_ok_iff.2 ⟨rfl, pieces,
      by rwa [String.toList_ofList], rfl, uniform_none_iff.1 huniform⟩⟩
  · -- The longer part reaches behind the percent sign.
    rw [hsource] at hlonger
    rcases List.prefix_or_prefix_of_prefix hlonger (List.prefix_append front _) with hshort | hfront
    · obtain ⟨rest, rfl⟩ := hshort
      rw [← hlength, byteLength_append] at hmore
      omega
    · obtain ⟨rest, rfl⟩ := hfront
      have hrest := (List.prefix_append_right_inj front).1 hlonger
      cases rest with
      | nil =>
          rw [List.append_nil, hlength] at hmore
          omega
      | cons char tail =>
          obtain ⟨rfl, htail⟩ := List.cons_prefix_cons.1 hrest
          exact parse_ne_ok_of_readPiece?_eq_none hpieces hnone htail

/-- A width that is too great, behind two bytes of text, a directive and a doubled percent sign: its
first digits do not make a template either. -/
theorem parse_longest_template_great :
    parse "é%d%%%99999999999999999999x" = .error (.unexpectedPlaceholder 6) ∧
      (∃ template, parse "é%d%%" = .ok template) ∧ ∀ template, parse "é%d%%%99" ≠ .ok template := by
  have hparse : parse "é%d%%%99999999999999999999x" = .error (.unexpectedPlaceholder 6) := by
    decide +kernel
  obtain ⟨front, back, hsplit, -, hfront, hlonger⟩ := parse_longest_template hparse
  have hcut : splitAt? 6 "é%d%%%99999999999999999999x".toList =
      some ("é%d%%".toList, "%99999999999999999999x".toList) := by decide +kernel
  rw [hcut] at hsplit
  cases hsplit
  exact ⟨hparse, hfront, hlonger "é%d%%%99".toList (by decide) (by decide)⟩

end Template

end Numbering
