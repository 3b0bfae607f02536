import Numbering.Json.Writing
import Numbering.Proofs.NumberSequence.Numberable
import Numbering.Proofs.Template.SameArguments

/-!
# Arguments behind the given ones

A directive looks up one argument, and arguments behind that one do not change what it comes to
(`Directive.render_surplus`). So only a rendering that misses an argument can come to something else
when more arguments are given, and it does so precisely when the missing one is among them
(`Template.render_surplus_arguments`).
-/

namespace Numbering

/-! ## One directive -/

namespace Directive

/-- The number of the argument that a directive looks up, when so many arguments have been taken in
sequence before. -/
def wanted (directive : Directive) (taken : Nat) : Nat :=
  match directive.reference with
  | .next => taken + 1
  | .position number => number
  | .path _ => 1

variable {directive : Directive} {arguments : List Value} {taken number : Nat}

/-- Behind the last argument there is none. -/
theorem argumentAt_of_length_lt (hlength : arguments.length < number) :
    argumentAt arguments number = .error (.missingArgument number) := by
  have hnone : arguments[number - 1]? = none := List.getElem?_eq_none (by omega)
  rw [argumentAt, hnone]

/-- An argument that is there stays when further ones come behind. -/
theorem argumentAt_of_le_length (hpos : 1 ≤ number) (hlength : number ≤ arguments.length) :
    ∃ value, argumentAt arguments number = .ok value ∧
      ∀ surplus, argumentAt (arguments ++ surplus) number = .ok value := by
  have hindex : number - 1 < arguments.length := by omega
  have hfound : arguments[number - 1]? = some arguments[number - 1] :=
    List.getElem?_eq_getElem hindex
  refine ⟨arguments[number - 1], by rw [argumentAt, hfound], fun surplus ↦ ?_⟩
  rw [argumentAt, List.getElem?_append_left hindex, hfound]

/-- When the argument is not there, that is the error. -/
theorem resolve_of_length_lt (hlength : arguments.length < directive.wanted taken) :
    directive.resolve arguments taken = .error (.missingArgument (directive.wanted taken)) := by
  rw [resolve_eq]
  unfold wanted at hlength ⊢
  cases hreference : directive.reference with
  | next => exact argumentAt_of_length_lt (by rwa [hreference] at hlength)
  | position number => exact argumentAt_of_length_lt (by rwa [hreference] at hlength)
  | path path =>
      dsimp only
      rw [argumentAt_of_length_lt (by rwa [hreference] at hlength)]
      rfl

/-- When the argument is there, it is not missing, and the arguments behind it are not looked at. -/
theorem resolve_of_le_length (hpos : 1 ≤ directive.wanted taken)
    (hlength : directive.wanted taken ≤ arguments.length) :
    (∀ number, directive.resolve arguments taken ≠ .error (.missingArgument number)) ∧
      ∀ surplus, directive.resolve (arguments ++ surplus) taken =
        directive.resolve arguments taken := by
  obtain ⟨value, hvalue, hsurplus⟩ := argumentAt_of_le_length hpos hlength
  simp only [resolve_eq]
  unfold wanted at hvalue hsurplus
  cases hreference : directive.reference with
  | next | position number =>
      simp only [hreference] at hvalue hsurplus
      simp [hvalue, hsurplus]
  | path path =>
      simp only [hreference] at hvalue hsurplus
      simp only [hvalue, hsurplus, implies_true, and_true]
      intro number
      show (value.get path).mapError RenderError.missingProperty ≠ _
      cases value.get path with
      | ok part => exact fun herror ↦ by cases herror
      | error key => exact fun herror ↦ by cases herror

/-- A directive misses an argument when it is not too wide and looks up one that is not there. -/
theorem render_eq_missingArgument_iff [Json.Writer] (hpos : 1 ≤ directive.wanted taken) :
    directive.render arguments taken = .error (.missingArgument number) ↔
      directive.IsNarrow ∧ number = directive.wanted taken ∧ arguments.length < number := by
  by_cases hnarrow : directive.IsNarrow
  · rw [render_of_isNarrow hnarrow]
    rcases Nat.lt_or_ge arguments.length (directive.wanted taken) with hlength | hlength
    · rw [resolve_of_length_lt hlength]
      simp only [Except.error.injEq, RenderError.missingArgument.injEq, hnarrow, true_and]
      constructor
      · rintro rfl
        exact ⟨rfl, hlength⟩
      · exact fun h ↦ h.1.symm
    · refine iff_of_false (fun herror ↦ ?_) (by omega)
      have hmissing := (resolve_of_le_length hpos hlength).1 number
      cases hresolve : directive.resolve arguments taken with
      | error error =>
          rw [hresolve] at herror
          cases herror
          exact hmissing hresolve
      | ok value =>
          rw [hresolve] at herror
          rcases exists_of_format_eq_error herror with ⟨found, hfound⟩ | ⟨message, hfound⟩
          · cases hfound
          · cases hfound
  · refine iff_of_false (fun herror ↦ ?_) fun h ↦ hnarrow h.1
    rw [render, if_pos (by_contra fun hwidth ↦ hnarrow (isNarrow_iff.2 hwidth))] at herror
    cases herror

/-- Arguments behind the given ones change nothing for a directive that misses none. -/
theorem render_surplus [Json.Writer] (hpos : 1 ≤ directive.wanted taken)
    (hfound : ∀ number, directive.render arguments taken ≠ .error (.missingArgument number))
    (surplus : List Value) :
    directive.render (arguments ++ surplus) taken = directive.render arguments taken := by
  by_cases hnarrow : directive.IsNarrow
  · have hlength : directive.wanted taken ≤ arguments.length := by
      by_contra hlt
      exact hfound _ ((render_eq_missingArgument_iff hpos).2 ⟨hnarrow, rfl, by omega⟩)
    rw [render_of_isNarrow hnarrow, render_of_isNarrow hnarrow,
      (resolve_of_le_length hpos hlength).2]
  · have hwidth := by_contra fun hwidth ↦ hnarrow (isNarrow_iff.2 hwidth)
    rw [render, render, if_pos hwidth, if_pos hwidth]

end Directive

/-! ## Segments -/

namespace Template

section Segments

variable {arguments : List Value} {taken : Nat} {segments : List Segment}

variable [Json.Writer]

/-- The error of a rendering is the one of a directive behind segments that render. -/
theorem exists_of_renderSegments_eq_error {error : RenderError}
    (herror : renderSegments arguments taken segments = .error error) :
    ∃ front directive back text, segments = front ++ .directive directive :: back ∧
      renderSegments arguments taken front = .ok text ∧
      directive.render arguments (taken + (directivesOf front).countP Directive.takesNext) =
        .error error := by
  induction segments using List.reverseRecOn with
  | nil => cases herror
  | append_singleton front last ih =>
      rw [renderSegments_append] at herror
      cases hfront : renderSegments arguments taken front with
      | error other =>
          rw [hfront] at herror ih
          obtain ⟨first, directive, back, text, rfl, hfirst⟩ := ih herror
          exact ⟨first, directive, back ++ [last], text, by simp, hfirst⟩
      | ok text =>
          rw [hfront] at herror
          dsimp only at herror
          cases last with
          | literal literal => cases herror
          | directive directive =>
              refine ⟨front, directive, [], text, rfl, hfront, ?_⟩
              rw [renderSegments_directive] at herror
              cases hdirective : directive.render arguments
                  (taken + (directivesOf front).countP Directive.takesNext) with
              | error other =>
                  rw [hdirective] at herror
                  exact herror
              | ok written =>
                  rw [hdirective] at herror
                  cases herror

variable (hpos : ∀ directive ∈ directivesOf segments, ∀ taken, 1 ≤ directive.wanted taken)

include hpos

/-- An argument that a rendering misses is behind the given ones. -/
theorem length_lt_of_renderSegments {number : Nat}
    (herror : renderSegments arguments taken segments = .error (.missingArgument number)) :
    arguments.length < number := by
  obtain ⟨front, directive, back, text, rfl, -, hdirective⟩ :=
    exists_of_renderSegments_eq_error herror
  have hmem : directive ∈ directivesOf (front ++ .directive directive :: back) :=
    mem_directivesOf.2 (by simp)
  exact ((Directive.render_eq_missingArgument_iff (hpos directive hmem _)).1 hdirective).2.2

/-- Arguments behind the given ones change nothing for a rendering that misses none. -/
theorem renderSegments_surplus
    (hfound : ∀ number, renderSegments arguments taken segments ≠ .error (.missingArgument number))
    (surplus : List Value) :
    renderSegments (arguments ++ surplus) taken segments =
      renderSegments arguments taken segments := by
  induction segments generalizing taken with
  | nil => rfl
  | cons segment segments ih =>
      cases segment with
      | literal text =>
          rw [renderSegments_literal] at hfound
          rw [renderSegments_literal, renderSegments_literal, ih hpos]
          intro number hmissing
          exact hfound number (congrArg (Except.map _) hmissing)
      | directive directive =>
          rw [directivesOf_directive, List.forall_mem_cons] at hpos
          rw [renderSegments_directive] at hfound
          have hsame : directive.render (arguments ++ surplus) taken =
              directive.render arguments taken :=
            Directive.render_surplus (hpos.1 taken)
              (fun number hmissing ↦ hfound number (by rw [hmissing])) surplus
          rw [renderSegments_directive, renderSegments_directive, hsame]
          cases hdirective : directive.render arguments taken with
          | error error => rfl
          | ok text =>
              rw [hdirective] at hfound
              dsimp only
              rw [ih hpos.2 fun number hmissing ↦ hfound number (congrArg (Except.map _) hmissing)]

/-- A rendering that misses an argument misses it as long as there are too few of them. -/
theorem renderSegments_surplus_eq_error_iff {number : Nat}
    (herror : renderSegments arguments taken segments = .error (.missingArgument number))
    (surplus : List Value) :
    renderSegments (arguments ++ surplus) taken segments = .error (.missingArgument number) ↔
      (arguments ++ surplus).length < number := by
  refine ⟨length_lt_of_renderSegments hpos, fun hlength ↦ ?_⟩
  obtain ⟨front, directive, back, text, rfl, hfront, hdirective⟩ :=
    exists_of_renderSegments_eq_error herror
  have hmem : directive ∈ directivesOf (front ++ .directive directive :: back) :=
    mem_directivesOf.2 (by simp)
  have hwanted := hpos directive hmem
    (taken + (directivesOf front).countP Directive.takesNext)
  have hfrontPos : ∀ other ∈ directivesOf front, ∀ taken, 1 ≤ other.wanted taken := by
    intro other hother
    refine hpos other (mem_directivesOf.2 ?_)
    exact List.mem_append_left _ (mem_directivesOf.1 hother)
  have hfrontSame : renderSegments (arguments ++ surplus) taken front = .ok text := by
    rw [renderSegments_surplus hfrontPos (by simp [hfront]), hfront]
  obtain ⟨hnarrow, hnumber, -⟩ := (Directive.render_eq_missingArgument_iff hwanted).1 hdirective
  rw [renderSegments_append, hfrontSame]
  dsimp only
  rw [renderSegments_directive,
    (Directive.render_eq_missingArgument_iff hwanted).2 ⟨hnarrow, hnumber, hlength⟩]
  rfl

end Segments

/-! ## Templates -/

/-- A template that renders, or that fails for another reason than a missing argument, does the same
when more arguments are given. A missing argument is behind all that are given, the segments in
front of the directive that looks it up render, and the result is another one precisely when so
many arguments are given that it is among them. -/
theorem render_surplus_arguments [Json.Writer] {source : String} {template : Template}
    (hparse : parse source = .ok template) (arguments surplus : List Value) :
    ((∀ number, template.render arguments ≠ .error (.missingArgument number)) →
      template.render (arguments ++ surplus) = template.render arguments) ∧
    ∀ number, template.render arguments = .error (.missingArgument number) →
      arguments.length < number ∧
      (∃ front directive back text, template.segments = front ++ .directive directive :: back ∧
        renderSegments arguments 0 front = .ok text ∧
        directive.render arguments ((directivesOf front).countP Directive.takesNext) =
          .error (.missingArgument number)) ∧
      (template.render (arguments ++ surplus) = template.render arguments ↔
        (arguments ++ surplus).length < number) := by
  have hpos : ∀ directive ∈ directivesOf template.segments, ∀ taken,
      1 ≤ directive.wanted taken := by
    intro directive hmem taken
    unfold Directive.wanted
    cases hreference : directive.reference with
    | next => exact Nat.le_add_left 1 taken
    | position number => exact (position_bounds_of_parse hparse hmem hreference).1
    | path path => exact le_rfl
  refine ⟨fun hfound ↦ renderSegments_surplus hpos hfound surplus, fun number herror ↦ ?_⟩
  refine ⟨length_lt_of_renderSegments hpos herror, ?_, ?_⟩
  · obtain ⟨front, directive, back, text, hsegments, hfront, hdirective⟩ :=
      exists_of_renderSegments_eq_error herror
    rw [Nat.zero_add] at hdirective
    exact ⟨front, directive, back, text, hsegments, hfront, hdirective⟩
  · rw [herror]
    exact renderSegments_surplus_eq_error_iff hpos herror surplus

/-- The third argument is missing behind one that is there, until there are three. -/
theorem render_surplus_arguments_third :
    letI := Json.Writer.shortest
    let template : Template := ⟨"%s%%%3$s",
      [.directive ⟨.next, false, none, false, none, none, .text⟩, .literal "%",
        .directive ⟨.position 3, false, none, false, none, none, .text⟩]⟩
    parse "%s%%%3$s" = .ok template ∧
      template.render [.string "é"] = .error (.missingArgument 3) ∧
      template.render [.string "é", .null] = .error (.missingArgument 3) ∧
      template.render [.string "é", .null, .string "x"] = .ok "é%x" ∧
      template.render [.string "é", .null, .string "x", .null] = .ok "é%x" := by
  intro template
  let := Json.Writer.shortest
  have hparse : parse "%s%%%3$s" = .ok template := by decide +kernel
  have hmissing : template.render [.string "é"] = .error (.missingArgument 3) := rfl
  have hfound : template.render [.string "é", .null, .string "x"] = .ok "é%x" := by
    decide +kernel
  obtain ⟨-, -, hsame⟩ := (render_surplus_arguments hparse [.string "é"] [.null]).2 3 hmissing
  have hsurplus := (render_surplus_arguments hparse [.string "é", .null, .string "x"] [.null]).1
    (by simp [hfound])
  exact ⟨hparse, hmissing, (hsame.2 (by decide)).trans hmissing, hfound, hsurplus.trans hfound⟩

end Template

end Numbering
