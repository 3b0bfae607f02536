import Numbering.Proofs.Template.Parsing
import Numbering.Proofs.Template.Rendering

/-!
# Templates that can number

An element of a number sequence has one number as its only argument. The directives of a template
are `Numberable` when they keep to it: they follow no path, take the next argument at most once,
name no argument but the first one, and are not too wide. Then every number renders. Otherwise the
first directive that breaks a rule gives the error, which `Breach` names, whatever the number is
(`render_number`).
-/

namespace Numbering

open Template

/-- The directive fills up to no more than the limit. -/
def Directive.IsNarrow (directive : Directive) : Prop :=
  ∀ width ∈ directive.width, width ≤ widthLimit

/-- The directives keep to the one number that they are given. -/
structure Numberable (directives : List Directive) : Prop where
  noPath : ∀ directive ∈ directives, ∀ path, directive.reference ≠ .path path
  oneNext : directives.countP Directive.takesNext ≤ 1
  firstOnly : ∀ directive ∈ directives, ∀ number,
    directive.reference = .position number → number = 1
  isNarrow : ∀ directive ∈ directives, directive.IsNarrow

/-- The error of a directive that breaks a rule, given the directives in front of it. A width that
is too great comes before anything else. -/
inductive Breach (before : List Directive) (directive : Directive) : RenderError → Prop where
  | width (width) :
      directive.width = some width → widthLimit < width →
      Breach before directive (.widthTooLarge width)
  | path (path) :
      directive.IsNarrow → directive.reference = .path path →
      Breach before directive (.missingProperty path.first)
  | position (number) :
      directive.IsNarrow → directive.reference = .position number → number ≠ 1 →
      Breach before directive (.missingArgument number)
  | next :
      directive.IsNarrow → directive.reference = .next →
      (∃ other ∈ before, other.reference = .next) →
      Breach before directive (.missingArgument 2)

/-! ## The rules -/

section Rules

variable {before after : List Directive} {directive : Directive} {error : RenderError}

/-- A directive is narrow when its width, zero if it has none, is not above the limit. -/
theorem isNarrow_iff : directive.IsNarrow ↔ ¬ widthLimit < directive.width.getD 0 := by
  unfold Directive.IsNarrow
  cases directive.width with
  | none => simp
  | some width => simp

/-- None of the directives takes the next argument. -/
theorem countP_takesNext_eq_zero_iff : before.countP Directive.takesNext = 0 ↔
    ¬ ∃ other ∈ before, other.reference = .next := by
  simp only [List.countP_eq_zero, Directive.takesNext_iff, not_exists, not_and]

/-- Directives that stand in front of others keep to the rules as well. -/
theorem Numberable.of_append (hall : Numberable (before ++ after)) : Numberable before := by
  refine ⟨fun other hmem ↦ hall.noPath other (by simp [hmem]), ?_,
    fun other hmem ↦ hall.firstOnly other (by simp [hmem]),
    fun other hmem ↦ hall.isNarrow other (by simp [hmem])⟩
  have hcount := hall.oneNext
  rw [List.countP_append] at hcount
  omega

/-- One more directive keeps to the rules when it breaks none of them. -/
theorem numberable_append_singleton_iff : Numberable (before ++ [directive]) ↔
    Numberable before ∧ directive.IsNarrow ∧ (∀ path, directive.reference ≠ .path path) ∧
      (∀ number, directive.reference = .position number → number = 1) ∧
      (directive.reference = .next → ¬ ∃ other ∈ before, other.reference = .next) := by
  constructor
  · intro hall
    refine ⟨hall.of_append, hall.isNarrow directive (by simp), hall.noPath directive (by simp),
      hall.firstOnly directive (by simp), ?_⟩
    intro hnext
    have hcount := hall.oneNext
    rw [List.countP_append, List.countP_singleton, if_pos (Directive.takesNext_iff.2 hnext)]
      at hcount
    rw [← countP_takesNext_eq_zero_iff]
    omega
  · intro hrules
    obtain ⟨hbefore, hnarrow, hpath, hposition, hnext⟩ := hrules
    have hmem : ∀ {rule : Directive → Prop}, (∀ other ∈ before, rule other) → rule directive →
        ∀ other ∈ before ++ [directive], rule other := by
      intro rule hothers hdirective other hmem
      rcases List.mem_append.1 hmem with hfront | hlast
      · exact hothers other hfront
      · rw [List.mem_singleton.1 hlast]
        exact hdirective
    refine ⟨hmem hbefore.noPath hpath, ?_, hmem hbefore.firstOnly hposition,
      hmem hbefore.isNarrow hnarrow⟩
    rw [List.countP_append, List.countP_singleton]
    split
    · rename_i htakes
      rw [countP_takesNext_eq_zero_iff.2 (hnext (Directive.takesNext_iff.1 htakes))]
    · exact hbefore.oneNext

/-- One more directive keeps to the rules or breaks one of them. -/
theorem numberable_or_breach (directive : Directive) (hbefore : Numberable before) :
    Numberable (before ++ [directive]) ∨ ∃ error, Breach before directive error := by
  rw [numberable_append_singleton_iff]
  by_cases hnarrow : directive.IsNarrow
  · cases hreference : directive.reference with
    | path path => exact .inr ⟨_, .path path hnarrow hreference⟩
    | position number =>
        by_cases hfirst : number = 1
        · exact .inl ⟨hbefore, hnarrow, by simp, by simp [hfirst], by simp⟩
        · exact .inr ⟨_, .position number hnarrow hreference hfirst⟩
    | next =>
        by_cases hnext : ∃ other ∈ before, other.reference = .next
        · exact .inr ⟨_, .next hnarrow hreference hnext⟩
        · exact .inl ⟨hbefore, hnarrow, by simp, by simp, fun _ ↦ hnext⟩
  · have hwide := not_not.1 (isNarrow_iff.not.1 hnarrow)
    cases hwidth : directive.width with
    | none => simp [hwidth] at hwide
    | some width =>
        rw [hwidth, Option.getD_some] at hwide
        exact .inr ⟨_, .width width hwidth hwide⟩

/-- Directives of which one breaks a rule do not keep to the rules. -/
theorem Breach.not_numberable (hbreach : Breach before directive error) :
    ¬ Numberable (before ++ directive :: after) := by
  intro hall
  rw [List.append_cons] at hall
  obtain ⟨-, hnarrow, hpath, hposition, hnext⟩ := numberable_append_singleton_iff.1 hall.of_append
  cases hbreach with
  | width width hwidth hlt =>
      have hle := hnarrow width hwidth
      omega
  | path path _ hreference => exact hpath path hreference
  | position number _ hreference hne => exact hne (hposition number hreference)
  | next _ hreference hother => exact hnext hreference hother

end Rules

/-! ## Rendering one number -/

section OneNumber

variable {before : List Directive} {directive : Directive} {error : RenderError}

variable [Json.Writer]

/-- With a library that writes every finite number, a number can be written by any directive. -/
theorem exists_format_number (hwriter : Json.Writer.WritesFinite)
    (directive : Directive) (amount : Binary64) :
    ∃ text, directive.format (.number amount) = .ok text := by
  have haccepts : directive.accepts (.number amount) = true := by
    rw [Directive.accepts, Value.isNumber, Bool.or_true, Bool.true_or]
  have hforce : (if directive.conversion.forcesDelayed then (Value.number amount).force
      else .number amount) = .number amount := ite_self _
  unfold Directive.format
  rw [hforce]
  dsimp only
  rw [if_pos haccepts]
  cases htext : directive.conversion.textOf directive.precision (.number amount) with
  | ok text => exact ⟨_, rfl⟩
  | error error =>
      obtain ⟨message, -, -, hrefused⟩ := Conversion.exists_of_textOf_eq_error htext
      obtain ⟨written, hwritten⟩ := hwriter.exists_number amount
      rw [Value.json, Value.jsonAt, hwritten] at hrefused
      cases hrefused

/-- What a directive that is not too wide comes to is up to the argument that it finds. -/
theorem render_of_isNarrow (hnarrow : directive.IsNarrow) (arguments : List Value) (taken : Nat) :
    directive.render arguments taken =
      match directive.resolve arguments taken with
      | .ok value => directive.format value
      | .error error => .error error := by
  unfold Directive.render
  exact if_neg (isNarrow_iff.1 hnarrow)

/-- A directive that keeps to the rules renders any number. -/
theorem Numberable.exists_render (hwriter : Json.Writer.WritesFinite)
    (hall : Numberable (before ++ [directive]))
    (amount : Binary64) : ∃ text,
      directive.render [.number amount] (before.countP Directive.takesNext) = .ok text := by
  obtain ⟨-, hnarrow, hpath, hposition, hnext⟩ := numberable_append_singleton_iff.1 hall
  have hresolve : directive.resolve [.number amount] (before.countP Directive.takesNext) =
      .ok (.number amount) := by
    unfold Directive.resolve
    cases hreference : directive.reference with
    | path path => exact absurd hreference (hpath path)
    | position number =>
        rw [hposition number hreference]
        rfl
    | next =>
        rw [countP_takesNext_eq_zero_iff.2 (hnext hreference)]
        rfl
  rw [render_of_isNarrow hnarrow, hresolve]
  exact exists_format_number hwriter directive amount

/-- A directive that breaks a rule gives its error, whatever the number is. -/
theorem Breach.render_eq (hbreach : Breach before directive error)
    (hbefore : before.countP Directive.takesNext ≤ 1)
    (hposition : ∀ number, directive.reference = .position number → 1 ≤ number)
    (amount : Binary64) :
    directive.render [.number amount] (before.countP Directive.takesNext) = .error error := by
  cases hbreach with
  | width width hwidth hlt =>
      unfold Directive.render
      rw [hwidth, Option.getD_some, if_pos hlt]
  | path path hnarrow hreference =>
      rw [render_of_isNarrow hnarrow, Directive.resolve, hreference]
      rfl
  | position number hnarrow hreference hne =>
      have hpos := hposition number hreference
      have hnone : [Value.number amount][number - 1]? = none := by
        rw [List.getElem?_eq_none_iff, List.length_singleton]
        omega
      rw [render_of_isNarrow hnarrow, Directive.resolve, hreference]
      dsimp only
      rw [hnone]
  | next hnarrow hreference hother =>
      -- The one number has been taken by the directive in front.
      have hcount : before.countP Directive.takesNext ≠ 0 :=
        fun hzero ↦ countP_takesNext_eq_zero_iff.1 hzero hother
      rw [show before.countP Directive.takesNext = 1 by omega, render_of_isNarrow hnarrow,
        Directive.resolve, hreference]
      rfl

/-- Segments whose directives keep to the rules render any number. -/
theorem Numberable.exists_renderSegments (hwriter : Json.Writer.WritesFinite)
    {segments : List Segment} (hall : Numberable (before ++ directivesOf segments))
    (amount : Binary64) : ∃ text,
      renderSegments [.number amount] (before.countP Directive.takesNext) segments = .ok text := by
  induction segments generalizing before with
  | nil => exact ⟨"", rfl⟩
  | cons segment segments ih =>
      cases segment with
      | literal text =>
          obtain ⟨rest, hrest⟩ := ih hall
          rw [renderSegments_literal, hrest]
          exact ⟨text ++ rest, rfl⟩
      | directive directive =>
          rw [directivesOf_directive, List.append_cons] at hall
          obtain ⟨text, htext⟩ := hall.of_append.exists_render hwriter amount
          obtain ⟨rest, hrest⟩ := ih hall
          have hcount : (before ++ [directive]).countP Directive.takesNext =
              before.countP Directive.takesNext + directive.takesNext.toNat := by
            rw [List.countP_append, List.countP_singleton]
            cases directive.takesNext <;> rfl
          rw [hcount] at hrest
          rw [renderSegments_directive, htext]
          dsimp only
          rw [hrest]
          exact ⟨text ++ rest, rfl⟩

/-- Segments with a directive that breaks a rule, behind directives that break none, give its error
for every number. -/
theorem Breach.renderSegments_eq (hwriter : Json.Writer.WritesFinite)
    {segments : List Segment} {front back : List Directive}
    (hbreach : Breach front directive error) (hfront : Numberable front)
    (hsegments : directivesOf segments = front ++ directive :: back)
    (hposition : ∀ number, directive.reference = .position number → 1 ≤ number)
    (amount : Binary64) : renderSegments [.number amount] 0 segments = .error error := by
  obtain ⟨first, second, rfl, rfl⟩ := exists_eq_append_of_directivesOf hsegments
  have hfirst : Numberable ([] ++ directivesOf first) := hfront
  obtain ⟨text, htext⟩ := hfirst.exists_renderSegments hwriter amount
  rw [List.countP_nil] at htext
  rw [renderSegments_append, htext, Nat.zero_add]
  dsimp only
  rw [renderSegments_directive, hbreach.render_eq hfront.oneNext hposition]
  rfl

omit [Json.Writer] in
/-- Directives that do not keep to the rules have a first one that breaks a rule. -/
theorem exists_breach {directives : List Directive} (hall : ¬ Numberable directives) :
    ∃ front directive back error, directives = front ++ directive :: back ∧ Numberable front ∧
      Breach front directive error := by
  induction directives using List.reverseRecOn with
  | nil => exact absurd ⟨by simp, by simp, by simp, by simp⟩ hall
  | append_singleton directives last ih =>
      by_cases hfront : Numberable directives
      · obtain ⟨error, hbreach⟩ := (numberable_or_breach last hfront).resolve_left hall
        exact ⟨directives, last, [], error, rfl, hfront, hbreach⟩
      · obtain ⟨front, directive, back, error, rfl, hfront, hbreach⟩ := ih hfront
        exact ⟨front, directive, back ++ [last], error, by simp, hfront, hbreach⟩

end OneNumber

/-! ## Templates -/

/-- The number of an argument that a template refers to is at least one and can be written. -/
theorem position_bounds_of_parse {source : String} {template : Template}
    (hparse : parse source = .ok template) {directive : Directive}
    (hmem : directive ∈ template.directives) {number : Nat}
    (hreference : directive.reference = .position number) :
    1 ≤ number ∧ number ≤ Digits.greatestCount := by
  obtain ⟨-, pieces, hpieces, hsegments, -⟩ := parse_eq_ok_iff.1 hparse
  rw [directives_eq, mem_directivesOf, ← hsegments, List.mem_map] at hmem
  obtain ⟨⟨segment, chars⟩, hpiece, rfl⟩ := hmem
  cases hpieces.spelling _ hpiece with
  | directive _ _ hdirective =>
      obtain ⟨_, _, _, _, _, _, hspelled, -⟩ := hdirective
      rw [hreference] at hspelled
      cases hspelled with
      | position _ _ hcount _ hpos => exact ⟨hpos, hcount.bounded⟩

/-- A template either keeps to the rules and renders any number, or gives the error of the first
directive that breaks a rule for any number. -/
theorem render_number [Json.Writer] (hwriter : Json.Writer.WritesFinite) {source : String}
    {template : Template} (hparse : parse source = .ok template) :
    (Numberable template.directives ∧
      ∀ amount, ∃ text, template.render [.number amount] = .ok text) ∨
    ∃ front directive back error, template.directives = front ++ directive :: back ∧
      Numberable front ∧ Breach front directive error ∧
      ∀ amount, template.render [.number amount] = .error error := by
  by_cases hall : Numberable template.directives
  · have hsegments : Numberable ([] ++ directivesOf template.segments) := hall
    exact .inl ⟨hall, fun amount ↦ hsegments.exists_renderSegments hwriter amount⟩
  · obtain ⟨front, directive, back, error, hdirectives, hfront, hbreach⟩ := exists_breach hall
    refine .inr ⟨front, directive, back, error, hdirectives, hfront, hbreach, fun amount ↦ ?_⟩
    have hmem : directive ∈ template.directives := by simp [hdirectives]
    exact hbreach.renderSegments_eq hwriter hfront hdirectives
      (fun number hreference ↦ (position_bounds_of_parse hparse hmem hreference).1) amount

/-- A number is never a value of the wrong kind, and never refused as JSON. -/
theorem render_number_ne [Json.Writer] (hwriter : Json.Writer.WritesFinite) {source : String}
    {template : Template} (hparse : parse source = .ok template) (amount : Binary64) :
    (∀ found, template.render [.number amount] ≠ .error (.typeMismatch found)) ∧
      ∀ message, template.render [.number amount] ≠ .error (.json message) := by
  rcases render_number hwriter hparse with ⟨-, hrender⟩ |
    ⟨front, directive, back, error, -, -, hbreach, hrender⟩
  · obtain ⟨text, htext⟩ := hrender amount
    rw [htext]
    exact ⟨fun found ↦ by simp, fun message ↦ by simp⟩
  · rw [hrender]
    cases hbreach <;> exact ⟨fun found ↦ by simp, fun message ↦ by simp⟩

end Numbering
