import Numbering.CommandLine.Options
import Numbering.CommandLine.StandardLibraries
import Numbering.Proofs.MarkedText.LineStarts
import Numbering.Proofs.NumberingPass.AllOrNothing
import Numbering.Proofs.Pattern.Anchors

/-!
# Numbering every line

A library of patterns finds the starts of lines for the standard pattern
(`Finder.Compiler.FindsLineStarts`), and the standard library does
(`Libraries.findsLineStarts_standard`). Then the start of every line of a text is marked, and
nothing else, so that a pass puts one number in front of each line (`insert_every_line`). It makes
no difference how the text ends: behind a line break at the end there is no line, and no number
comes there.
-/

namespace Numbering

open MarkedText Text

/-- The anchor of line starts finds them. -/
theorem Pattern.findsLineStarts_lineStart :
    (Pattern.holding .lineStart).finder.FindsLineStarts := by
  intro chars
  show (Pattern.holding .lineStart).findAll chars.toArray = _
  rw [Pattern.findAll_holding, List.size_toArray]
  congr 1
  apply List.filter_congr
  intro place _
  simp [Anchor.holds, isLineStart]

/-- A library that finds the starts of lines for the standard pattern. -/
def Finder.Compiler.FindsLineStarts [Finder.Compiler] : Prop :=
  ∃ finder, compile Options.standardPattern = .ok finder ∧ finder.FindsLineStarts

/-- For the standard library the standard pattern is the anchor of line starts. -/
theorem Libraries.compile_standardPattern :
    Libraries.standard.compile Options.standardPattern =
      .ok (Pattern.holding .lineStart).finder := rfl

/-- The standard library finds the starts of lines. -/
theorem Libraries.findsLineStarts_standard :
    letI := Libraries.standard
    Finder.Compiler.FindsLineStarts :=
  ⟨_, compile_standardPattern, Pattern.findsLineStarts_lineStart⟩

/-- Texts between pieces stand each in front of its piece, but for the first piece. -/
theorem MarkedText.interleave_cons (gap : List Char) {lines : List (List Char)}
    {texts : List String} (hlength : texts.length = lines.length) :
    interleave ((gap :: lines).map String.ofList) texts = String.ofList gap ++
      String.join (List.zipWith (fun text line ↦ text ++ String.ofList line) texts lines) := by
  induction lines generalizing gap texts with
  | nil =>
      rw [List.length_eq_zero_iff.1 hlength]
      simp [interleave]
  | cons line lines ih =>
      cases texts with
      | nil => cases hlength
      | cons text texts =>
          rw [List.map_cons, interleave, ih line (Nat.succ.inj hlength), List.zipWith_cons_cons,
            String.join_cons, String.append_assoc]

namespace Settings

variable {cache : TemplateCache}

/-- With a library that finds the starts of lines for it, the standard pattern marks every line
once: there are as many marks as lines, in order, and each of them is empty and stands at the start
of its line. When a pass over these marks succeeds, the text is every line with its number in front
of it. -/
theorem insert_every_line [Json.Writer] [Finder.Compiler]
    (hlines : Finder.Compiler.FindsLineStarts) (hcache : cache.Reachable) (settings : Settings)
    (text : String) :
    ∃ finder, Finder.Compiler.compile Options.standardPattern = .ok finder ∧
      (ofMatches text finder).text = text ∧
      (ofMatches text finder).ranges = (List.range (lines text.toList).length).map (fun index ↦
        ⟨lineStart (lines text.toList) index, lineStart (lines text.toList) index⟩) ∧
      ((settings.insert cache (ofMatches text finder)).result = .ok () →
        ∃ template numbers, Template.parse settings.format = .ok template ∧
          numbers.length = (lines text.toList).length ∧
          (∀ index (hindex : index < numbers.length),
            settings.elementAt template index = .ok numbers[index]) ∧
          (settings.insert cache (ofMatches text finder)).text.text = String.join
            (List.zipWith (fun number line ↦ number ++ String.ofList line) numbers
              (lines text.toList))) := by
  obtain ⟨finder, hcompile, hstarts⟩ := hlines
  refine ⟨finder, hcompile, text_ofMatches _ _, ?_, ?_⟩
  · rw [ofMatches_lineStart hstarts, ranges, rangesFrom_separated]
    simp only [byteLength_nil, Nat.zero_add]
  · intro hresult
    obtain ⟨template, numbers, hparse, hlength, helements, htext, -⟩ :=
      exists_of_insert_ok hcache.faithful hresult
    rw [ofMatches_lineStart hstarts, size_separated] at hlength
    refine ⟨template, numbers, hparse, hlength, helements, ?_⟩
    rw [htext, ofMatches_lineStart hstarts, gaps_separated, interleave_cons [] hlength]
    exact String.empty_append

/-- A text with an accented letter, an empty line and no line break at its end. -/
theorem insert_every_line_accented :
    letI := Libraries.standard
    Finder.Compiler.FindsLineStarts ∧ TemplateCache.empty.Reachable ∧ ∃ finder,
      Finder.Compiler.compile Options.standardPattern = .ok finder ∧
      (ofMatches "é\r\n\nb" finder).ranges = [⟨0, 0⟩, ⟨4, 4⟩, ⟨5, 5⟩] ∧
      (insert ⟨"%d. ", .one, .one⟩ .empty (ofMatches "é\r\n\nb" finder)).result = .ok () ∧
      (insert ⟨"%d. ", .one, .one⟩ .empty (ofMatches "é\r\n\nb" finder)).text.text =
        "1. é\r\n2. \n3. b" := by
  let := Libraries.standard
  obtain ⟨finder, hfinder, -, hranges, hnumbered⟩ := insert_every_line
    Libraries.findsLineStarts_standard .empty ⟨"%d. ", .one, .one⟩ "é\r\n\nb"
  have hlines : lines "é\r\n\nb".toList = ["é\r\n".toList, "\n".toList, "b".toList] := by decide
  have hholding : finder = (Pattern.holding .lineStart).finder :=
    Except.ok.inj (hfinder.symm.trans Libraries.compile_standardPattern)
  have hresult : (insert ⟨"%d. ", .one, .one⟩ .empty (ofMatches "é\r\n\nb" finder)).result =
      .ok () := by
    rw [hholding]
    decide +kernel
  have hparse : Template.parse "%d. " = .ok ⟨"%d. ",
      [.directive ⟨.next, false, none, false, none, none, .decimal⟩, .literal ". "]⟩ := by
    decide +kernel
  obtain ⟨template, numbers, hread, hlength, helements, htext⟩ := hnumbered hresult
  rw [hparse] at hread
  cases hread
  rw [hlines] at hranges hlength htext
  have hnumbers : numbers = ["1. ", "2. ", "3. "] := by
    apply eq_of_elementAt hlength helements
    decide +kernel
  rw [hnumbers] at htext
  exact ⟨Libraries.findsLineStarts_standard, .empty, finder, hfinder, hranges, hresult, htext⟩

end Settings

end Numbering
