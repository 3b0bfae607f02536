import Numbering.Json.Writing
import Numbering.Proofs.NumberingPass.Pass
import Numbering.Proofs.NumberSequence.Numberable

/-!
# Failing sequences and passes

Whether a number sequence renders depends on its template and not on its numbers, so that a pass
never fails at a later element when the first one renders (`renderAll_by_template`). This takes a
library that writes every finite number as JSON.
-/

namespace Numbering

open Template

namespace NumberSequence

variable [Json.Writer]

/-- A number sequence renders up to any count when one number after the other renders. -/
theorem exists_renderAll {template : Template}
    (hrender : ∀ amount, ∃ text, template.render [.number amount] = .ok text)
    (start step : Binary64) (count : Nat) :
    ∃ texts, renderAll ⟨template, start, step⟩ count = .ok texts := by
  cases hall : renderAll ⟨template, start, step⟩ count with
  | ok texts => exact ⟨texts, rfl⟩
  | error error =>
      obtain ⟨index, -, herror, -⟩ := renderAll_eq_error_iff.1 hall
      obtain ⟨text, htext⟩ := hrender (valueAt ⟨template, start, step⟩ index)
      rw [renderAt, htext] at herror
      cases herror

/-- A number sequence with an element gives the error that every number gives. -/
theorem renderAll_eq_error {template : Template} {error : RenderError}
    (hrender : ∀ amount, template.render [.number amount] = .error error)
    (start step : Binary64) {count : Nat} (hcount : 1 ≤ count) :
    renderAll ⟨template, start, step⟩ count = .error error := by
  rw [renderAll_eq_error_iff]
  refine ⟨0, hcount, hrender _, ?_⟩
  intro earlier hearlier
  omega

end NumberSequence

/-- A pass that does not render fails with the error of a number. -/
theorem Settings.exists_of_insert_eq_error [Json.Writer] {cache : TemplateCache}
    (hcache : cache.Faithful) {settings : Settings} {text : MarkedText} {error : RenderError}
    (hresult : (settings.insert cache text).result = .error (.render error)) :
    ∃ template amount, parse settings.format = .ok template ∧
      template.render [.number amount] = .error error := by
  rcases applyTo_eq_error_iff.1 (applyTo_of_insert_error hcache hresult) with
    ⟨_, -, herror⟩ | ⟨template, fault, hparse, hrender, herror⟩
  · cases herror
  · cases herror
    obtain ⟨index, -, hindex, -⟩ := NumberSequence.renderAll_eq_error_iff.1 hrender
    exact ⟨template, _, hparse, hindex⟩

/-- Whether a number sequence renders is a matter of its template, with a library that writes every
finite number as JSON. What the elements collect to, each of them as the next one of a cursor, are
texts when there are no elements or the directives keep to the rules; otherwise the first directive
that breaks a rule gives the error, which is the same for every start, every step and every count.
No pass ever finds a value of the wrong kind, or a number that cannot be written as JSON. -/
theorem renderAll_by_template [Json.Writer] (hwriter : Json.Writer.WritesFinite) {source : String}
    {template : Template} (hparse : parse source = .ok template) :
    (∀ start step count,
      NumberSequence.renderAll ⟨template, start, step⟩ count =
        NumberSequence.collect (SequenceCursor.start ⟨template, start, step⟩ count).drain ∧
      ((∃ texts, NumberSequence.renderAll ⟨template, start, step⟩ count = .ok texts) ↔
        count = 0 ∨ Numberable template.directives)) ∧
    (¬ Numberable template.directives → ∃ front directive back error,
      template.directives = front ++ directive :: back ∧ Numberable front ∧
      Breach front directive error ∧
      ∀ start step count, 1 ≤ count →
        NumberSequence.renderAll ⟨template, start, step⟩ count = .error error) ∧
    ∀ (settings : Settings) (cache : TemplateCache) text, cache.Reachable →
      (∀ found, (settings.insert cache text).result ≠ .error (.render (.typeMismatch found))) ∧
      ∀ message, (settings.insert cache text).result ≠ .error (.render (.json message)) := by
  refine ⟨?_, ?_, ?_⟩
  · intro start step count
    refine ⟨NumberSequence.renderAll_eq_collect_drain _ _, ?_, ?_⟩
    · intro hexists
      obtain ⟨texts, htexts⟩ := hexists
      rcases render_number hwriter hparse with
        ⟨hall, -⟩ | ⟨front, directive, back, error, -, -, -, hrender⟩
      · exact .inr hall
      · refine .inl (Nat.eq_zero_of_not_pos fun hcount ↦ ?_)
        rw [NumberSequence.renderAll_eq_error hrender start step hcount] at htexts
        cases htexts
    · intro hcases
      rcases hcases with rfl | hall
      · exact ⟨[], rfl⟩
      · rcases render_number hwriter hparse with
          ⟨-, hrender⟩ | ⟨front, directive, back, error, hdirectives, -, hbreach, -⟩
        · exact NumberSequence.exists_renderAll hrender start step count
        · rw [hdirectives] at hall
          exact absurd hall hbreach.not_numberable
  · intro hall
    rcases render_number hwriter hparse with ⟨hnumberable, -⟩ |
      ⟨front, directive, back, error, hdirectives, hfront, hbreach, hrender⟩
    · exact absurd hnumberable hall
    · exact ⟨front, directive, back, error, hdirectives, hfront, hbreach,
        fun start step count hcount ↦ NumberSequence.renderAll_eq_error hrender start step hcount⟩
  · intro settings cache text hcache
    constructor
    · intro found hresult
      obtain ⟨other, amount, hother, hrender⟩ :=
        Settings.exists_of_insert_eq_error hcache.faithful hresult
      exact (render_number_ne hwriter hother amount).1 found hrender
    · intro message hresult
      obtain ⟨other, amount, hother, hrender⟩ :=
        Settings.exists_of_insert_eq_error hcache.faithful hresult
      exact (render_number_ne hwriter hother amount).2 message hrender

/-- A directive that is too wide and also names a second argument is refused for its width, whereas
a JSON text of no number at all is not refused. -/
theorem renderAll_by_template_wide :
    letI := Json.Writer.shortest
    Json.Writer.WritesFinite ∧
      parse "%2$70000d%s" = .ok ⟨"%2$70000d%s", [
        .directive ⟨.position 2, false, none, false, some 70000, none, .decimal⟩,
        .directive ⟨.next, false, none, false, none, none, .text⟩]⟩ ∧
      NumberSequence.renderAll ⟨⟨"%2$70000d%s", [
        .directive ⟨.position 2, false, none, false, some 70000, none, .decimal⟩,
        .directive ⟨.next, false, none, false, none, none, .text⟩]⟩, .nan, .one⟩ 3 =
          .error (.widthTooLarge 70000) ∧
      parse "%j" = .ok ⟨"%j", [.directive ⟨.next, false, none, false, none, none, .json⟩]⟩ ∧
      ∃ texts, NumberSequence.renderAll
        ⟨⟨"%j", [.directive ⟨.next, false, none, false, none, none, .json⟩]⟩, .nan, .one⟩ 3 =
          .ok texts := by
  let := Json.Writer.shortest
  have hwriter := Json.Writer.writesFinite_shortest
  have hparse : parse "%2$70000d%s" = .ok ⟨"%2$70000d%s", [
      .directive ⟨.position 2, false, none, false, some 70000, none, .decimal⟩,
      .directive ⟨.next, false, none, false, none, none, .text⟩]⟩ := by decide +kernel
  have hjson : parse "%j" =
      .ok ⟨"%j", [.directive ⟨.next, false, none, false, none, none, .json⟩]⟩ := by decide +kernel
  have hwide : ∀ directives, ¬ Numberable
      (⟨.position 2, false, none, false, some 70000, none, .decimal⟩ :: directives) := by
    intro directives hall
    exact absurd (hall.isNarrow _ List.mem_cons_self 70000 rfl) (by decide)
  have hkept : Numberable [⟨.next, false, none, false, none, none, .json⟩] :=
    ⟨by simp, by decide, by simp, by simp [Directive.IsNarrow]⟩
  obtain ⟨-, hbroken, -⟩ := renderAll_by_template hwriter hparse
  obtain ⟨front, directive, back, error, hdirectives, hfront, hbreach, hrender⟩ :=
    hbroken (hwide _)
  refine ⟨hwriter, hparse, ?_, hjson,
    ((renderAll_by_template hwriter hjson).1 .nan .one 3).2.2 (.inr hkept)⟩
  rw [hrender .nan .one 3 (by decide)]
  cases front with
  | cons first front =>
      obtain ⟨rfl, -⟩ := List.cons.inj hdirectives
      exact absurd hfront (hwide front)
  | nil =>
      cases hdirectives
      cases hbreach with
      | width width hwidth hlt =>
          cases hwidth
          rfl
      | path path _ hreference => cases hreference
      | position number hnarrow _ _ => exact absurd (hnarrow 70000 rfl) (by decide)
      | next _ hreference _ => cases hreference

end Numbering
