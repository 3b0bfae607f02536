import Mathlib.Control.Monad.Basic
import Numbering.Json.Writing
import Numbering.Proofs.NumberingPass.Pass

/-!
# All or nothing

A pass fills every mark or changes nothing (`insert_all_or_nothing`). It fails in two ways only:
the template cannot be read, or an element does not render, and then the first such element gives
the error. That the number of elements is not the number of marks never happens.
-/

namespace Numbering

open MarkedText

namespace Settings

variable {cache : TemplateCache} {settings : Settings} {text : MarkedText}

variable [Json.Writer]

/-- A finished pass has put one element into each mark, in order, and left the gaps. -/
theorem exists_of_insert_ok (hcache : cache.Faithful)
    (hresult : (settings.insert cache text).result = .ok ()) :
    ∃ template texts, Template.parse settings.format = .ok template ∧ texts.length = text.size ∧
      (∀ index (hindex : index < texts.length),
        settings.elementAt template index = .ok texts[index]) ∧
      (settings.insert cache text).text.text =
        interleave (text.pieces.map MarkedPiece.gap ++ [text.tail]) texts ∧
      (settings.insert cache text).text.marks = texts := by
  cases happly : settings.applyTo text with
  | error error =>
      rw [(insert_of_applyTo_error hcache happly).1] at hresult
      cases hresult
  | ok filled =>
      obtain ⟨template, texts, hparse, hrender, hfilled⟩ := applyTo_eq_ok_iff.1 happly
      obtain ⟨hlength, helements⟩ := NumberSequence.renderAll_eq_ok_iff.1 hrender
      refine ⟨template, texts, hparse, hlength, helements, ?_, ?_⟩
      · rw [(insert_of_applyTo_ok hcache happly).2, hfilled, ← String.toList_inj, toList_text,
          toList_interleave _ hlength]
      · rw [(insert_of_applyTo_ok hcache happly).2, hfilled]
        exact marks_replacePieces hlength

/-- A pass over a text with a marking fills every mark or changes nothing. Either the template is
read and every element renders, and then the elements stand between the gaps of the text, each one
in the range of its own mark; or the template is refused, or one of the elements does not render
while all before it do, and then that is the error and text and ranges are what they were. -/
theorem insert_all_or_nothing (hcache : cache.Reachable) (settings : Settings) {text : String}
    {ranges : List ByteRange} (hmarking : IsMarking text.toList ranges) :
    ∃ marked gaps,
      (∀ other : MarkedText, other.text = text ∧ other.ranges = ranges ↔ other = marked) ∧
      gaps? text 0 ranges = some gaps ∧
      -- All marks are filled.
      ((∃ template texts, Template.parse settings.format = .ok template ∧
          texts.length = ranges.length ∧
          (∀ index (hindex : index < texts.length),
            settings.elementAt template index = .ok texts[index]) ∧
          ∃ filled, (settings.insert cache marked).result = .ok () ∧
            (settings.insert cache marked).text = filled ∧
            filled.text = interleave gaps texts ∧
            selected? filled.text filled.ranges = some texts) ∨
        -- The template is refused.
        (∃ error, Template.parse settings.format = .error error ∧
          (settings.insert cache marked).result = .error (.template error) ∧
          (settings.insert cache marked).text = marked) ∨
        -- The first element that does not render is refused.
        ∃ template index error, Template.parse settings.format = .ok template ∧
          index < ranges.length ∧
          (∀ earlier, earlier < index → ∃ text, settings.elementAt template earlier = .ok text) ∧
          settings.elementAt template index = .error error ∧
          (settings.insert cache marked).result = .error (.render error) ∧
          (settings.insert cache marked).text = marked) := by
  obtain ⟨marked, rfl, rfl⟩ := exists_of_isMarking hmarking
  refine ⟨marked, _, fun other ↦ text_ranges_iff, gaps?_ranges marked, ?_⟩
  rw [length_ranges]
  have hfaithful := hcache.faithful
  cases happly : settings.applyTo marked with
  | ok filled =>
      have hresult := (insert_of_applyTo_ok hfaithful happly).1
      obtain ⟨template, texts, hparse, hlength, helements, htext, hmarks⟩ :=
        exists_of_insert_ok hfaithful hresult
      refine .inl ⟨template, texts, hparse, hlength, helements, _, hresult, rfl, htext, ?_⟩
      rw [selected?_ranges, hmarks]
  | error error =>
      obtain ⟨hresult, htext⟩ := insert_of_applyTo_error hfaithful happly
      rcases applyTo_eq_error_iff.1 happly with
        ⟨fault, hparse, rfl⟩ | ⟨template, fault, hparse, hrender, rfl⟩
      · exact .inr (.inl ⟨fault, hparse, hresult, htext⟩)
      · obtain ⟨index, hindex, herror, hearlier⟩ :=
          NumberSequence.renderAll_eq_error_iff.1 hrender
        exact .inr (.inr ⟨template, index, fault, hparse, hindex, hearlier, herror, hresult, htext⟩)

/-- The elements of a pass are the texts that its template renders. -/
theorem eq_of_elementAt {settings : Settings} {template : Template} {texts others : List String}
    (hlength : texts.length = others.length)
    (htexts : ∀ index (hindex : index < texts.length),
      settings.elementAt template index = .ok texts[index])
    (hothers : ∀ index (hindex : index < others.length),
      settings.elementAt template index = .ok others[index]) : texts = others := by
  apply List.ext_getElem hlength
  intro index hindex hindex'
  have helement := htexts index hindex
  rw [hothers index hindex'] at helement
  exact (Except.ok.inj helement).symm

omit [Json.Writer] in
/-- Three marks around an accented letter take three numbers of two digits. -/
theorem insert_all_or_nothing_accented :
    letI := Json.Writer.shortest
    TemplateCache.empty.Reachable ∧
      IsMarking "é-x".toList [⟨0, 2⟩, ⟨3, 3⟩, ⟨3, 4⟩] ∧
      ∃ marked : MarkedText, marked.text = "é-x" ∧
        marked.ranges = [⟨0, 2⟩, ⟨3, 3⟩, ⟨3, 4⟩] ∧
        (insert ⟨"%02d", .one, .one⟩ .empty marked).result = .ok () ∧
        (insert ⟨"%02d", .one, .one⟩ .empty marked).text.text = "01-0203" := by
  let := Json.Writer.shortest
  have hmarking : IsMarking "é-x".toList [⟨0, 2⟩, ⟨3, 3⟩, ⟨3, 4⟩] :=
    (fault?_eq_none_iff.1 (by decide : fault? "é-x".toList 0 _ = none)).1
  obtain ⟨marked, gaps, hmarked, hgaps, hends⟩ :=
    insert_all_or_nothing .empty ⟨"%02d", .one, .one⟩ hmarking
  obtain ⟨htext, hranges⟩ := (hmarked marked).2 rfl
  refine ⟨.empty, hmarking, marked, htext, hranges, ?_⟩
  have hcut : gaps? "é-x" 0 [⟨0, 2⟩, ⟨3, 3⟩, ⟨3, 4⟩] = some ["", "-", "", ""] := by decide
  rw [hcut] at hgaps
  cases hgaps
  have hparse : Template.parse "%02d" = .ok ⟨"%02d",
      [.directive ⟨.next, false, some .zero, false, some 2, none, .decimal⟩]⟩ := by decide +kernel
  have hrender : ∀ index (hindex : index < ["01", "02", "03"].length),
      elementAt ⟨"%02d", .one, .one⟩ ⟨"%02d",
        [.directive ⟨.next, false, some .zero, false, some 2, none, .decimal⟩]⟩ index =
          .ok ["01", "02", "03"][index] := by decide +kernel
  rcases hends with
    ⟨template, texts, hread, hlength, helements, filled, hresult, hfilled, hwhole, -⟩ |
    ⟨error, hread, -⟩ | ⟨template, index, error, hread, hindex, -, herror, -⟩
  · rw [hparse] at hread
    cases hread
    rw [eq_of_elementAt hlength helements hrender] at hwhole
    exact ⟨hresult, by rw [hfilled]; exact hwhole⟩
  · rw [hparse] at hread
    cases hread
  · rw [hparse] at hread
    cases hread
    rw [hrender index hindex] at herror
    cases herror

end Settings

end Numbering
