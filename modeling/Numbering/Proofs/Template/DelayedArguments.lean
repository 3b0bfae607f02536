import Numbering.Json.Writing
import Numbering.Proofs.NumberSequence.Numberable
import Numbering.Proofs.Template.SameArguments

/-!
# Delayed arguments and their results

A value yields itself, and a delayed value yields its result unless that is delayed again. A
conversion that looks at results writes a value and what it yields alike
(`Directive.format_of_yields`), so arguments may be replaced by what they yield. A path may end at a
delayed value but does not lead through one (`Value.walk_through_delayed`); both are put together in
`Template.render_yielded_arguments`.
-/

namespace Numbering

/-! ## Values -/

namespace Value

/-- The second value is the first one, or the result that the first one delays. A result that is
delayed itself is not yielded. -/
inductive Yields : Value → Value → Prop where
  | self (value) : Yields value value
  | result (identity) {result} :
      result.isDelayed = false → Yields (.delayed identity result) result

/-- A path is followed step by step, so its front comes first. -/
theorem walk_append (value : Value) (front back : List Accessor) :
    value.walk (front ++ back) = (value.walk front).bind fun part ↦ part.walk back := by
  induction front generalizing value with
  | nil => rfl
  | cons accessor front ih =>
      rw [List.cons_append, walk, walk]
      cases value.member? accessor with
      | none => rfl
      | some part => exact ih part

/-- A path that goes on behind a delayed value fails at the step that leaves it. -/
theorem walk_through_delayed {root result : Value} {front : List Accessor} {identity : Nat}
    (hfront : root.walk front = .ok (.delayed identity result)) (accessor : Accessor)
    (back : List Accessor) : root.walk (front ++ accessor :: back) = .error accessor.name := by
  rw [walk_append, hfront]
  rfl

end Value

/-! ## Directives -/

namespace Directive

variable {directive : Directive}

/-- The directive is neither `%T` nor `%v`, which look at a delayed value itself. -/
def WritesResult (directive : Directive) : Prop :=
  directive.conversion ≠ .kind ∧ directive.conversion ≠ .primitive

/-- A directive that writes the result of a delayed value forces it. -/
theorem WritesResult.forcesDelayed (hwrites : directive.WritesResult) :
    directive.conversion.forcesDelayed = true := by
  obtain ⟨hkind, hprimitive⟩ := hwrites
  cases hconversion : directive.conversion with
  | kind => exact absurd hconversion hkind
  | primitive => exact absurd hconversion hprimitive
  | _ => rfl

/-- All that a directive looks at is the value that is left when its argument is forced. -/
theorem format_of_forced [Json.Writer] {first second : Value}
    (hforced : directive.forced first = directive.forced second) :
    directive.format first = directive.format second := by
  unfold forced at hforced
  unfold format
  rw [hforced]

/-- A value and what it yields are written alike, or refused alike. -/
theorem format_of_yields [Json.Writer] (hwrites : directive.WritesResult) {first second : Value}
    (hyields : first.Yields second) : directive.format first = directive.format second := by
  cases hyields with
  | self => rfl
  | result identity hresult =>
      have hdelayed : directive.forced (.delayed identity second) = second := by
        rw [forced, if_pos hwrites.forcesDelayed, Value.force]
      exact format_of_forced (hdelayed.trans (forced_eq_self directive hresult).symm)

/-- A reference that is no path finds what an argument yields in the place of the argument. -/
theorem resolve_of_yields (hpath : ∀ path, directive.reference ≠ .path path)
    {firsts seconds : List Value} (hyields : List.Forall₂ Value.Yields firsts seconds)
    (taken : Nat) :
    Agrees Value.Yields (directive.resolve firsts taken) (directive.resolve seconds taken) := by
  rw [resolve_eq, resolve_eq]
  cases hreference : directive.reference with
  | next => exact argumentAt_of_forall₂ hyields (taken + 1)
  | position number => exact argumentAt_of_forall₂ hyields number
  | path path => exact absurd hreference (hpath path)

/-- A path starts at the first argument. -/
theorem resolve_path {path : KeyPath} (hreference : directive.reference = .path path)
    (root : Value) (others : List Value) (taken : Nat) :
    directive.resolve (root :: others) taken = (root.get path).mapError .missingProperty := by
  rw [resolve_eq, hreference]
  rfl

/-- An argument that is not found is the error of the directive, unless it is too wide. -/
theorem render_of_resolve_error [Json.Writer] {arguments : List Value} {taken : Nat}
    {error : RenderError} (hresolve : directive.resolve arguments taken = .error error) :
    directive.render arguments taken =
      .error (if widthLimit < directive.width.getD 0 then
        .widthTooLarge (directive.width.getD 0) else error) := by
  rw [render, hresolve]
  split <;> rfl

end Directive

/-! ## Templates -/

namespace Template

/-- Arguments may be replaced by what they yield. A template renders to the same text, or to the
same error, when none of its directives follows a path or writes a delayed value itself. A directive
whose path ends at a delayed value renders as it does where the path ends at the result, and a path
that goes on behind a delayed value, be it the first argument, names a property that is missing. -/
theorem render_yielded_arguments [Json.Writer] :
    (∀ (template : Template) (firsts seconds : List Value),
      (∀ directive ∈ template.directives,
        directive.WritesResult ∧ ∀ path, directive.reference ≠ .path path) →
      List.Forall₂ Value.Yields firsts seconds →
      template.render firsts = template.render seconds) ∧
    ∀ (directive : Directive) (path : KeyPath), directive.reference = .path path →
      (∀ (root other result : Value) (rest others : List Value) (identity taken : Nat),
        directive.WritesResult → result.isDelayed = false →
        root.get path = .ok (.delayed identity result) → other.get path = .ok result →
        directive.render (root :: rest) taken = directive.render (other :: others) taken) ∧
      ∀ (root result : Value) (rest : List Value) (identity taken : Nat)
        (front back : List Accessor) (accessor : Accessor),
        path.accessors = front ++ accessor :: back →
        root.walk front = .ok (.delayed identity result) →
        directive.resolve (root :: rest) taken = .error (.missingProperty accessor.name) ∧
        directive.render (root :: rest) taken =
          .error (if widthLimit < directive.width.getD 0 then
            .widthTooLarge (directive.width.getD 0) else .missingProperty accessor.name) := by
  refine ⟨?_, fun directive path hreference ↦ ⟨?_, ?_⟩⟩
  · intro template firsts seconds hdirectives hyields
    rw [directives_eq] at hdirectives
    refine renderSegments_congr (fun directive hmem taken ↦ ?_) 0
    obtain ⟨hwrites, hpath⟩ := hdirectives directive hmem
    exact Directive.render_of_agrees (Directive.resolve_of_yields hpath hyields taken)
      fun _ _ ↦ Directive.format_of_yields hwrites
  · intro root other result rest others identity taken hwrites hresult hroot hother
    have hresolve : Agrees Value.Yields (directive.resolve (root :: rest) taken)
        (directive.resolve (other :: others) taken) := by
      rw [Directive.resolve_path hreference, Directive.resolve_path hreference, hroot, hother]
      exact .ok (.result identity hresult)
    exact Directive.render_of_agrees hresolve fun _ _ ↦ Directive.format_of_yields hwrites
  · intro root result rest identity taken front back accessor haccessors hfront
    have hresolve : directive.resolve (root :: rest) taken =
        .error (.missingProperty accessor.name) := by
      rw [Directive.resolve_path hreference, Value.get, haccessors,
        Value.walk_through_delayed hfront]
      rfl
    exact ⟨hresolve, Directive.render_of_resolve_error hresolve⟩

/-- One delayed argument is written twice, a path ends at a delayed name, and another path would go
through it. -/
theorem render_yielded_arguments_shared :
    letI := Json.Writer.shortest
    let template : Template := ⟨"%1$s%%%1$j",
      [.directive ⟨.position 1, false, none, false, none, none, .text⟩, .literal "%",
        .directive ⟨.position 1, false, none, false, none, none, .json⟩]⟩
    let name : Directive := ⟨.path ⟨"name", []⟩, false, none, true, some 3, none, .text⟩
    let letter : Directive := ⟨.path ⟨"name", [.index 0]⟩, false, none, true, some 3, none, .text⟩
    let root (value : Value) : Value := .object [("name", value)]
    parse "%1$s%%%1$j" = .ok template ∧
      template.render [.delayed 4 (.string "é")] = .ok "é%\"é\"" ∧
      name.render [root (.delayed 4 (.string "é"))] 0 = .ok "é  " ∧
      letter.render [root (.delayed 4 (.string "é"))] 0 = .error (.missingProperty "0") ∧
      letter.render [.delayed 4 (root (.string "é"))] 0 = .error (.missingProperty "name") := by
  intro template name letter root
  let := Json.Writer.shortest
  obtain ⟨htemplate, hpath⟩ := render_yielded_arguments
  have hshared : template.render [.delayed 4 (.string "é")] = template.render [.string "é"] := by
    apply htemplate
    · simp [template, directives, Directive.WritesResult]
    · exact .cons (.result 4 rfl) .nil
  have hname := (hpath name _ rfl).1 (root (.delayed 4 (.string "é"))) (root (.string "é"))
    (.string "é") [] [] 4 0 ⟨by decide, by decide⟩ rfl rfl rfl
  have hletter := (hpath letter _ rfl).2 (root (.delayed 4 (.string "é"))) (.string "é") [] 4 0
    [.key "name"] [] (.index 0) rfl rfl
  have hroot := (hpath letter _ rfl).2 (.delayed 4 (root (.string "é"))) (root (.string "é")) [] 4 0
    [] [.index 0] (.key "name") rfl rfl
  exact ⟨by decide +kernel, hshared.trans (by decide +kernel), hname.trans (by decide +kernel),
    hletter.2.trans (by decide +kernel), hroot.2.trans (by decide +kernel)⟩

end Template

end Numbering
