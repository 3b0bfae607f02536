import Numbering.Template.Rendering

/-!
# Rendering segment by segment

Segments one after the other are rendered one after the other: the second part goes on with the
arguments that the first part left in the sequence (`renderSegments_append`). A directive that
takes the next argument depends on those that are left only, and any other directive does not
depend on the sequence (`Directive.render_next`, `Directive.render_of_not_takesNext`).
-/

namespace Numbering

/-! ## One directive -/

/-- Only a JSON text is refused, for what keeps the value from being written. -/
theorem Conversion.exists_of_textOf_eq_error [Json.Writer] {conversion : Conversion}
    {precision : Option Nat} {value : Value} {error : RenderError}
    (htext : conversion.textOf precision value = .error error) :
    ∃ message, error = .json message ∧ conversion = .json ∧
      value.json (precision.getD 0) = .error message := by
  cases conversion with
  | json =>
      cases hjson : value.json (precision.getD 0) with
      | ok text =>
          rw [textOf, hjson] at htext
          cases htext
      | error message =>
          rw [textOf, hjson] at htext
          cases htext
          exact ⟨message, rfl, rfl, rfl⟩
  | exponential | fixed | general => cases precision <;> cases htext
  | octal | primitive => cases value <;> cases htext
  | _ => cases htext

namespace Directive

variable {directive : Directive}

/-- The directive takes the next argument of the sequence. -/
def takesNext (directive : Directive) : Bool := directive.reference = .next

/-- A directive takes the next argument when its reference says so. -/
theorem takesNext_iff : directive.takesNext = true ↔ directive.reference = .next := by
  rw [takesNext, decide_eq_true_eq]

/-- A directive consumes one argument when it takes the next one, and none otherwise. -/
theorem consumed_eq (directive : Directive) : directive.consumed = directive.takesNext.toNat := by
  unfold consumed takesNext
  cases directive.reference <;> rfl

variable [Json.Writer]

/-- Only a value of the wrong kind, or one that cannot be written as JSON, keeps a directive from
writing the argument it found. -/
theorem exists_of_format_eq_error {value : Value} {error : RenderError}
    (hformat : directive.format value = .error error) :
    (∃ found, error = .typeMismatch found) ∨ ∃ message, error = .json message := by
  unfold format at hformat
  generalize (if directive.conversion.forcesDelayed then value.force else value) = shown
    at hformat
  dsimp only at hformat
  split at hformat
  · cases htext : directive.conversion.textOf directive.precision shown with
    | ok text =>
        rw [htext] at hformat
        cases hformat
    | error refused =>
        rw [htext] at hformat
        cases hformat
        obtain ⟨message, hmessage, -⟩ := Conversion.exists_of_textOf_eq_error htext
        exact .inr ⟨message, hmessage⟩
  · cases hformat
    exact .inl ⟨shown.kind, rfl⟩

/-- A directive that names its argument does not look at the sequence. -/
theorem render_of_not_takesNext (hreference : directive.takesNext = false) (arguments : List Value)
    (taken other : Nat) : directive.render arguments taken = directive.render arguments other := by
  have hresolve : directive.resolve arguments taken = directive.resolve arguments other := by
    unfold resolve
    cases hcase : directive.reference with
    | next => simp [takesNext, hcase] at hreference
    | position number => rfl
    | path path => rfl
  unfold render
  rw [hresolve]

end Directive

/-- The same error when so many arguments stand in front: a missing argument comes later. -/
def RenderError.later (count : Nat) : RenderError → RenderError
  | .missingArgument number => .missingArgument (number + count)
  | error => error

/-- A directive that takes the next argument looks at the arguments that are left. -/
theorem Directive.render_next [Json.Writer] {directive : Directive}
    (hreference : directive.takesNext = true)
    (arguments : List Value) (count taken : Nat) :
    directive.render arguments (count + taken) =
      (directive.render (arguments.drop count) taken).mapError (RenderError.later count) := by
  have hnext := takesNext_iff.1 hreference
  have hresolve : directive.resolve arguments (count + taken) =
      (directive.resolve (arguments.drop count) taken).mapError (RenderError.later count) := by
    unfold resolve
    rw [hnext]
    simp only [Nat.add_sub_cancel, List.getElem?_drop]
    cases arguments[count + taken]? with
    | some value => rfl
    | none =>
        show Except.error (RenderError.missingArgument (count + taken + 1)) =
          .error (.missingArgument (taken + 1 + count))
        rw [show count + taken + 1 = taken + 1 + count by omega]
  unfold render
  rw [hresolve]
  split
  · rfl
  · cases directive.resolve (arguments.drop count) taken with
    | error error => rfl
    | ok value =>
        show directive.format value = (directive.format value).mapError (RenderError.later count)
        cases hformat : directive.format value with
        | ok text => rfl
        | error error =>
            rcases exists_of_format_eq_error hformat with ⟨found, rfl⟩ | ⟨message, rfl⟩
            · rfl
            · rfl

/-- Behind a number of arguments a directive looks at those that are left if it takes the next one,
and at all of them otherwise. -/
theorem Directive.render_apart [Json.Writer] (directive : Directive) (arguments : List Value)
    (count taken : Nat) : directive.render arguments (count + taken) =
      (directive.render (if directive.takesNext then arguments.drop count else arguments)
        taken).mapError fun error ↦
          if directive.takesNext then error.later count else error := by
  cases hnext : directive.takesNext with
  | true => exact Directive.render_next hnext arguments count taken
  | false =>
      rw [Directive.render_of_not_takesNext hnext arguments (count + taken) taken]
      simp only [Bool.false_eq_true, if_false]
      cases directive.render arguments taken with
      | error error => rfl
      | ok text => rfl

/-! ## Segments -/

namespace Template

/-- The directives among some segments, in order. -/
def directivesOf (segments : List Segment) : List Directive :=
  segments.filterMap fun
    | .directive directive => some directive
    | .literal _ => none

/-- There is no directive in no segments. -/
@[simp] theorem directivesOf_nil : directivesOf [] = [] := rfl

/-- A literal is no directive. -/
@[simp] theorem directivesOf_literal (text : String) (segments : List Segment) :
    directivesOf (.literal text :: segments) = directivesOf segments := rfl

/-- A directive comes in front of those behind it. -/
@[simp] theorem directivesOf_directive (directive : Directive) (segments : List Segment) :
    directivesOf (.directive directive :: segments) = directive :: directivesOf segments := rfl

/-- The directives of a template are those of its segments. -/
theorem directives_eq (template : Template) :
    template.directives = directivesOf template.segments := rfl

/-- The directives are the segments that are one. -/
theorem mem_directivesOf {directive : Directive} {segments : List Segment} :
    directive ∈ directivesOf segments ↔ .directive directive ∈ segments := by
  induction segments with
  | nil => simp
  | cons segment segments ih =>
      cases segment with
      | literal text => simp [ih]
      | directive other => simp [ih]

/-- Where a directive stands among the directives, it stands among the segments. -/
theorem exists_eq_append_of_directivesOf {segments : List Segment} {front back : List Directive}
    {directive : Directive} (hsegments : directivesOf segments = front ++ directive :: back) :
    ∃ first second, segments = first ++ .directive directive :: second ∧
      directivesOf first = front := by
  induction segments generalizing front with
  | nil => simp at hsegments
  | cons segment segments ih =>
      cases segment with
      | literal text =>
          obtain ⟨first, second, rfl, hfirst⟩ := ih hsegments
          exact ⟨.literal text :: first, second, rfl, hfirst⟩
      | directive other =>
          rw [directivesOf_directive] at hsegments
          cases front with
          | nil =>
              cases hsegments
              exact ⟨[], segments, rfl, rfl⟩
          | cons found front =>
              obtain ⟨rfl, hrest⟩ := List.cons.inj hsegments
              obtain ⟨first, second, rfl, hfirst⟩ := ih hrest
              exact ⟨.directive other :: first, second, rfl, by simp [hfirst]⟩

/-- Text in front of text in front of a result. -/
theorem map_append_map (first second : String) (result : Except RenderError String) :
    (result.map (second ++ ·)).map (first ++ ·) = result.map (first ++ second ++ ·) := by
  cases result with
  | error error => rfl
  | ok text =>
      show Except.ok (first ++ (second ++ text)) = .ok (first ++ second ++ text)
      rw [String.append_assoc]

variable [Json.Writer]

/-- Text in front of segments stands in front of what they render to. -/
theorem renderSegments_literal (arguments : List Value) (taken : Nat) (text : String)
    (segments : List Segment) : renderSegments arguments taken (.literal text :: segments) =
      (renderSegments arguments taken segments).map (text ++ ·) := rfl

/-- The text of a directive stands in front of what the segments behind it render to. -/
theorem renderSegments_directive (arguments : List Value) (taken : Nat) (directive : Directive)
    (segments : List Segment) : renderSegments arguments taken (.directive directive :: segments) =
      match directive.render arguments taken with
      | .ok text =>
          (renderSegments arguments (taken + directive.takesNext.toNat) segments).map (text ++ ·)
      | .error error => .error error := by
  rw [← Directive.consumed_eq]
  rfl

/-- A template that is one directive without a width writes what the directive writes. -/
theorem render_of_format {template : Template} {directive : Directive} {value : Value}
    {text : String} (hsegments : template.segments = [.directive directive])
    (hreference : directive.reference = .next) (hwidth : directive.width = none)
    (hformat : directive.format value = .ok text) : template.render [value] = .ok text := by
  have hrender : directive.render [value] 0 = .ok text := by
    unfold Directive.render Directive.resolve
    rw [hwidth, hreference]
    exact hformat
  rw [render, hsegments, renderSegments_directive, hrender]
  show Except.ok (text ++ "") = _
  rw [String.append_empty]

/-- Segments render alike for two lists of arguments when every directive among them does. -/
theorem renderSegments_congr {firsts seconds : List Value} {segments : List Segment}
    (hdirectives : ∀ directive ∈ directivesOf segments, ∀ taken,
      directive.render firsts taken = directive.render seconds taken) (taken : Nat) :
    renderSegments firsts taken segments = renderSegments seconds taken segments := by
  induction segments generalizing taken with
  | nil => rfl
  | cons segment segments ih =>
      cases segment with
      | literal text =>
          rw [directivesOf_literal] at hdirectives
          rw [renderSegments_literal, renderSegments_literal, ih hdirectives]
      | directive directive =>
          rw [directivesOf_directive, List.forall_mem_cons] at hdirectives
          rw [renderSegments_directive, renderSegments_directive, hdirectives.1,
            ih hdirectives.2]

/-- Segments one after the other are rendered one after the other. The first error counts, and the
sequence of arguments goes on where the first segments left it. -/
theorem renderSegments_append (arguments : List Value) (taken : Nat)
    (first second : List Segment) : renderSegments arguments taken (first ++ second) =
      match renderSegments arguments taken first with
      | .error error => .error error
      | .ok text =>
          (renderSegments arguments (taken + (directivesOf first).countP Directive.takesNext)
            second).map (text ++ ·) := by
  induction first generalizing taken with
  | nil =>
      show renderSegments arguments taken second =
        (renderSegments arguments taken second).map ("" ++ ·)
      cases renderSegments arguments taken second with
      | error error => rfl
      | ok text => rw [Except.map, String.empty_append]
  | cons segment first ih =>
      cases segment with
      | literal literal =>
          rw [List.cons_append, renderSegments_literal, renderSegments_literal, ih,
            directivesOf_literal]
          cases renderSegments arguments taken first with
          | error error => rfl
          | ok text => exact map_append_map literal text _
      | directive directive =>
          rw [List.cons_append, renderSegments_directive, renderSegments_directive, ih,
            directivesOf_directive, List.countP_cons]
          cases directive.render arguments taken with
          | error error => rfl
          | ok written =>
              have hcount : taken + directive.takesNext.toNat +
                  (directivesOf first).countP Directive.takesNext =
                    taken + ((directivesOf first).countP Directive.takesNext +
                      if directive.takesNext = true then 1 else 0) := by
                cases directive.takesNext with
                | true =>
                    simp only [Bool.toNat_true, if_true]
                    omega
                | false =>
                    simp only [Bool.toNat_false, Bool.false_eq_true, if_false]
                    omega
              dsimp only
              rw [hcount]
              cases renderSegments arguments (taken + directive.takesNext.toNat) first with
              | error error => rfl
              | ok text => exact map_append_map written text _

end Template

end Numbering
