import Numbering.Json.Writing
import Numbering.Proofs.NumberingPass.Override
import Numbering.Proofs.Override.SettingsTexts
import Numbering.Proofs.Template.Parsing
import Numbering.Proofs.Template.Rendering

/-!
# Formats without a percent sign

The format of a line is what stands in front of its first colon. A percent sign anywhere in the line
makes it an override, so one that stands behind the first colon only lets a format through that has
none (`Override.parse_format_marker`). Such a format is a constant text: it is a template, it
renders to itself against all arguments, and a pass puts it in the place of every mark.
-/

namespace Numbering

/-! ## Constant templates -/

namespace Template

/-- The segments of a text without percent signs: the text as one run, if there is any. -/
def constantSegments (text : String) : List Segment := if text = "" then [] else [.literal text]

/-- A text without percent signs is a template. -/
theorem parse_constant {text : String} (hnone : '%' ∉ text.toList) :
    parse text = .ok ⟨text, constantSegments text⟩ := by
  unfold constantSegments
  refine parse_eq_ok_iff.2 ⟨rfl, ?_⟩
  split
  · rename_i hempty
    subst hempty
    exact ⟨[], decomposition_nil_iff.2 rfl, rfl, by simp [Unmixed]⟩
  · rename_i hne
    have hspelling : Segment.Spelling (.literal text) text.toList := by
      have hrun := Segment.Spelling.run text.toList (by simpa using hne) hnone
      rwa [String.ofList_toList] at hrun
    exact ⟨[⟨.literal text, text.toList⟩], ⟨by simp, by simpa using hspelling, .singleton _⟩, rfl,
      by simp [Unmixed]⟩

/-- A constant template renders to its text. -/
theorem render_constant [Json.Writer] (text : String) (arguments : List Value) :
    render ⟨text, constantSegments text⟩ arguments = .ok text := by
  unfold render constantSegments
  dsimp only
  split
  · rename_i hempty
    rw [hempty, renderSegments]
  · rw [renderSegments_literal, renderSegments]
    exact congrArg Except.ok String.append_empty

end Template

/-- All elements of a sequence with a constant template are its text. -/
theorem NumberSequence.renderAll_constant [Json.Writer] (text : String) (start step : Binary64)
    (count : Nat) :
    renderAll ⟨⟨text, Template.constantSegments text⟩, start, step⟩ count =
      .ok (List.replicate count text) := by
  refine renderAll_eq_ok_iff.2 ⟨List.length_replicate, fun index hindex ↦ ?_⟩
  rw [List.getElem_replicate]
  exact Template.render_constant text _

namespace MarkedText

/-- The text with one and the same text in the place of every mark. -/
def replaceAll (marked : MarkedText) (text : String) : MarkedText :=
  { marked with pieces := marked.pieces.map fun piece ↦ { piece with mark := text } }

/-- One text in every mark. -/
theorem replacePieces_replicate (pieces : List MarkedPiece) (text : String) :
    replacePieces pieces (List.replicate pieces.length text) =
      pieces.map fun piece ↦ { piece with mark := text } := by
  induction pieces with
  | nil => rfl
  | cons piece pieces ih =>
      rw [List.length_cons, List.replicate_succ, replacePieces, ih, List.map_cons]

end MarkedText

/-- A pass with a format that has no percent sign never fails: it overwrites all marks. -/
theorem Settings.applyTo_constant [Json.Writer] {settings : Settings}
    (hnone : '%' ∉ settings.format.toList) (text : MarkedText) :
    settings.applyTo text = .ok (text.replaceAll settings.format) :=
  Settings.applyTo_eq_ok_iff.2 ⟨_, _, Template.parse_constant hnone,
    NumberSequence.renderAll_constant _ _ _ _,
    by rw [MarkedText.size, MarkedText.replacePieces_replicate, MarkedText.replaceAll]⟩

/-! ## The format of a line -/

namespace Override

/-- The text of a line in front of its first colon. -/
def front (line : String) : String := String.ofList (line.toList.takeWhile (· ≠ ':'))

/-- The first field ends at the first colon. -/
theorem headD_fields (chars : List Char) :
    (fields chars).headD [] = chars.takeWhile (· ≠ ':') := by
  induction chars with
  | nil => rfl
  | cons char chars ih =>
      rw [fields]
      by_cases hcolon : char = ':'
      · simp [hcolon]
      · rw [if_neg hcolon, List.takeWhile_cons_of_pos (by simpa using hcolon), ← ih]
        cases fields chars <;> rfl

/-- The settings of a line have the text in front of the first colon as their format. -/
theorem format_settingsOf_fields (line : String) :
    (settingsOf (fields line.toList)).format = front line := by
  rw [settingsOf, headD_fields, front]

/-- A percent sign of the format is one of the line. -/
theorem mem_of_mem_front {line : String} (hfront : '%' ∈ (front line).toList) :
    '%' ∈ line.toList := by
  rw [front, String.toList_ofList] at hfront
  exact (List.takeWhile_prefix _).subset hfront

/-- Only a line with a percent sign stands for settings. -/
theorem mem_of_parse {line : String} {settings : Settings}
    (hparse : parse line = .ok (some settings)) : '%' ∈ line.toList := by
  by_contra hnone
  by_cases hempty : line = ""
  · rw [hempty] at hparse
    cases hparse
  · rw [parse_of_not_mem hempty hnone] at hparse
    cases hparse

/-- The format of an override is what stands in front of the first colon of the line, so it has a
percent sign precisely when there is one in front of that colon. With one only behind the colon the
line is accepted all the same, and the pass puts the format, which is a constant text or empty, in
the place of every mark of any text. A line without any percent sign is refused, and the text stays
as it is. -/
theorem parse_format_marker [Json.Writer] (line : String) {cache : TemplateCache}
    (hcache : cache.Reachable) (text : MarkedText) :
    (∀ settings, parse line = .ok (some settings) → settings.format = front line) ∧
    ('%' ∈ (front line).toList → ∃ settings, parse line = .ok (some settings)) ∧
    ('%' ∈ line.toList → '%' ∉ (front line).toList →
      ∃ settings, parse line = .ok (some settings) ∧
        (insert (some line) cache text).seen =
          (.ok (some settings), text.replaceAll (front line))) ∧
    (line ≠ "" → '%' ∉ line.toList →
      parse line = .error (.noPercentSign line) ∧
        (insert (some line) cache text).seen =
          (.error (.override (.noPercentSign line)), text)) := by
  refine ⟨fun settings hparse ↦ ?_, fun hfront ↦ ⟨_, parse_of_mem (mem_of_mem_front hfront)⟩,
    fun hsign hfront ↦ ⟨_, parse_of_mem hsign, ?_⟩,
    fun hline hsign ↦ ⟨parse_of_not_mem hline hsign, insert_of_not_mem hline hsign⟩⟩
  · rw [parse_of_mem (mem_of_parse hparse)] at hparse
    cases hparse
    exact format_settingsOf_fields line
  · have hformat := format_settingsOf_fields line
    have happly := Settings.applyTo_constant (hformat ▸ hfront) text
    obtain ⟨hresult, htext⟩ := Settings.insert_of_applyTo_ok hcache.faithful happly
    rw [insert_of_parse (parse_of_mem hsign), hresult, htext, hformat]
    rfl

/-- The last field of a line, which is ignored, has its only percent sign. -/
theorem parse_format_marker_ignored :
    letI := Json.Writer.shortest
    TemplateCache.empty.Reachable ∧
      '%' ∈ "-:5:2:%d".toList ∧ '%' ∉ (front "-:5:2:%d").toList ∧
      (insert (some "-:5:2:%d") .empty ⟨[⟨"é", "0"⟩, ⟨" ", "1"⟩], "."⟩).seen.2 =
        ⟨[⟨"é", "-"⟩, ⟨" ", "-"⟩], "."⟩ := by
  let := Json.Writer.shortest
  have hsign : '%' ∈ "-:5:2:%d".toList := by decide
  have hfront : '%' ∉ (front "-:5:2:%d").toList := by decide
  obtain ⟨-, -, haccepted, -⟩ := parse_format_marker "-:5:2:%d" .empty
    ⟨[⟨"é", "0"⟩, ⟨" ", "1"⟩], "."⟩
  obtain ⟨settings, -, hinsert⟩ := haccepted hsign hfront
  exact ⟨.empty, hsign, hfront, by rw [hinsert]; rfl⟩

/-- A line is accepted although its format has no percent sign, and the numbers of a first pass
are overwritten by it. -/
theorem parse_without_marker :
    letI := Json.Writer.shortest
    parse "abc:%d" = .ok (some ⟨"abc", .nan, .one⟩) ∧ '%' ∉ "abc".toList ∧
      (insert (some "abc:%d") .empty ⟨[⟨"[", "0"⟩, ⟨"] [", "1"⟩], "]"⟩).seen =
        (.ok (some ⟨"abc", .nan, .one⟩), ⟨[⟨"[", "abc"⟩, ⟨"] [", "abc"⟩], "]"⟩) := by
  let := Json.Writer.shortest
  decide +kernel

end Override

end Numbering
