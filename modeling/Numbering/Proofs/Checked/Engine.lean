import Numbering.Json.Writing
import Numbering.Proofs.Checked.Rendering
import Numbering.Proofs.Checked.Templates
import Numbering.Proofs.NumberSequence.Numberable
import Numbering.Proofs.Template.CacheHistory

/-!
# Every step has a result

Reading a text as a template and rendering it is made of checked steps: cuts of texts, lengths and
offsets, positions of arguments, exponents and digits. None of them is out of its range, whatever
the text, the arguments and the numbers are: the checked computation always has a result, and it is
the one that is not checked (`Checked.every_step_has_a_result`).
-/

namespace Numbering

open Text

namespace Template

/-- There are no more pieces than characters. -/
theorem length_le_of_spelling {pieces : List Piece}
    (hspelling : ∀ piece ∈ pieces, piece.segment.Spelling piece.chars) :
    pieces.length ≤ (pieces.flatMap Piece.chars).length := by
  induction pieces with
  | nil => exact le_rfl
  | cons piece pieces ih =>
      obtain ⟨hpiece, hpieces⟩ := List.forall_mem_cons.1 hspelling
      have hpos := List.length_pos_iff.2 (ne_nil_of_spelling hpiece)
      have hothers := ih hpieces
      rw [List.flatMap_cons, List.length_append, List.length_cons]
      omega

/-- A template has no more segments than its text has bytes. -/
theorem length_segments_le {source : String} {template : Template}
    (hparse : parse source = .ok template) :
    template.segments.length ≤ byteLength source.toList := by
  obtain ⟨-, pieces, hpieces, hsegments, -⟩ := parse_eq_ok_iff.1 hparse
  calc template.segments.length = pieces.length := by rw [← hsegments, List.length_map]
    _ ≤ (pieces.flatMap Piece.chars).length := length_le_of_spelling hpieces.spelling
    _ = source.toList.length := by rw [hpieces.whole]
    _ ≤ byteLength source.toList := Checked.length_le_byteLength _

end Template

namespace Checked

/-- Read a text and render it. -/
def formatAnew [Json.Writer] (source : String) (arguments : List Value) :
    Option (Except FormatError String) := do
  match ← parse source with
  | .ok template =>
      (renderSegments arguments 0 template.segments).map (·.mapError .render)
  | .error error => return .error (.template error)

/-- The checked reading and rendering of a text is its reading and rendering. -/
theorem formatAnew_eq [Json.Writer] {source : String} {arguments : List Value}
    (hsource : byteLength source.toList < 2 ^ 63)
    (hmemory : ∀ template, Template.parse source = .ok template →
      ∀ directive ∈ template.directives, directive.FitsInMemory arguments) :
    formatAnew source arguments = some (Template.formatAnew source arguments) := by
  unfold formatAnew Template.formatAnew
  refine Option.bind_eq_some_iff.2 ⟨_, parse_eq (by omega), ?_⟩
  cases hparse : Template.parse source with
  | error error => rfl
  | ok template =>
      have hlength := Template.length_segments_le hparse
      dsimp only
      rw [renderSegments_eq (fun _ hmem _ ↦ position_bounds_of_parse hparse hmem)
        (hmemory template hparse) (by omega)]
      rfl

/-- **Every step has a result.** A text of any content can be read as a template and rendered
against any arguments, and gives a text or an error: no cut of a text is out of bounds or inside a
character, no length, offset, position or exponent is out of the range of its machine integer, and
every loop ends. All that is asked for is that the text and the texts of the arguments fit in
memory. In the same way every number has its texts, whatever number of digits is asked for and in
whatever base from two on. -/
theorem every_step_has_a_result [Json.Writer] :
    (∀ (source : String) (arguments : List Value), byteLength source.toList < 2 ^ 63 →
      (∀ template, Template.parse source = .ok template →
        ∀ directive ∈ template.directives, directive.FitsInMemory arguments) →
      formatAnew source arguments = some (Template.formatAnew source arguments)) ∧
    ∀ number : Binary64,
      plain number = some (Numeral.plain number) ∧
      shortestExponential number = some (Numeral.shortestExponential number) ∧
      (∀ digits,
        exponential number digits = some (Numeral.exponential number digits) ∧
        fixed number digits = some (Numeral.fixed number digits) ∧
        precise number digits = some (Numeral.precise number digits)) ∧
      ∀ base, 2 ≤ base → base < 2 ^ 32 → radix number base = some (Numeral.radix number base) :=
  ⟨fun _ _ ↦ formatAnew_eq, fun number ↦ ⟨plain_eq number, shortestExponential_eq number,
    fun digits ↦ ⟨exponential_eq number digits, fixed_eq number digits, precise_eq number digits⟩,
    fun _ hbase hbound ↦ radix_eq number hbase (by omega)⟩⟩

/-- The number one with two digits behind the point, and in a base with more digits than there are
letters for them. -/
theorem every_step_has_a_result_exponential :
    letI := Json.Writer.shortest
    byteLength "%1$.2e%%".toList < 2 ^ 63 ∧
      formatAnew "%1$.2e%%" [.number .one] = some (.ok "1.00e+0%") ∧ 2 ≤ 37 ∧
      radix .one 37 = some ['1'] := by
  let := Json.Writer.shortest
  have hparse : Template.parse "%1$.2e%%" = .ok ⟨"%1$.2e%%",
      [.directive ⟨.position 1, false, none, false, none, some 2, .exponential⟩,
        .literal "%"]⟩ := by
    decide +kernel
  have hmemory : ∀ template, Template.parse "%1$.2e%%" = .ok template →
      ∀ directive ∈ template.directives, directive.FitsInMemory [.number .one] := by
    intro template htemplate directive hmem taken value hvalue
    rw [hparse] at htemplate
    cases htemplate
    obtain rfl := List.mem_singleton.1 hmem
    cases hvalue
    intro text htext
    have hwritten : text = "1.00e+0" := by
      apply Except.ok.inj (htext.symm.trans _)
      decide +kernel
    rw [hwritten]
    decide
  have hformat : Template.formatAnew "%1$.2e%%" [.number .one] = .ok "1.00e+0%" := by
    decide +kernel
  have hradix : Numeral.radix .one 37 = ['1'] := by decide +kernel
  obtain ⟨hengine, hnumbers⟩ := every_step_has_a_result
  refine ⟨by decide, ?_, by decide, ?_⟩
  · rw [hengine _ _ (by decide) hmemory, hformat]
  · rw [(hnumbers .one).2.2.2 37 (by decide) (by decide), hradix]

end Checked

end Numbering
