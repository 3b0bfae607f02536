import Numbering.Json.Writing
import Numbering.Proofs.Template.ConversionTexts
import Numbering.Proofs.Template.Rendering

/-!
# Rendering arguments that are the same

A part of a value is the same as the part of another value that is the same
(`Value.Interchangeable.member`), and so a reference to arguments that are the same, position by
position, finds values that are the same or fails alike (`Directive.resolve_of_interchangeable`).
Delayed values are the same when they have one identity; they are interchangeable when the identity
determines the result. With this a template renders interchangeable arguments to one result.
-/

namespace Numbering

/-- At one position of related lists there are related elements, or none. -/
theorem rel_getElem?_of_forall₂ {α : Type} {related : α → α → Prop} {firsts seconds : List α}
    (hrelated : List.Forall₂ related firsts seconds) (position : Nat) :
    Option.Rel related firsts[position]? seconds[position]? := by
  induction hrelated generalizing position with
  | nil => exact .none
  | cons hhead _ ih =>
      cases position with
      | zero => exact .some hhead
      | succ position => exact ih position

namespace Value

/-! ## Parts of values that are the same -/

section Member

variable (items : List Value) (text name : String)

/-- The only key of an array is its length. -/
theorem member?_array_key : (array items).member? (.key name) =
    if name = "length" then some (.number (.ofNat items.length)) else none := by
  split
  · subst name
    rfl
  · unfold member?
    split <;> simp_all

/-- The only key of a string is its length. -/
theorem member?_string_key : (string text).member? (.key name) =
    if name = "length" then some (.number (.ofNat text.toList.length)) else none := by
  split
  · subst name
    rfl
  · unfold member?
    split <;> simp_all

/-- A member of an object is that of its first entry, or of the others. -/
theorem member?_object_cons (key : String) (value : Value) (entries : List (String × Value))
    (accessor : Accessor) : (object ((key, value) :: entries)).member? accessor =
      if key = accessor.name then some value else (object entries).member? accessor := rfl

end Member

/-- A string is the same as itself. -/
theorem same_string (text : String) : same (.string text) (.string text) = true := by
  rw [same, decide_eq_true_eq]

/-- A count is the same as itself. -/
theorem same_count (count : Nat) :
    same (.number (.ofNat count)) (.number (.ofNat count)) = true := by
  rw [same, Binary64.equals_self, Binary64.isNaN_ofNat, Bool.not_false]

/-- The parts of a string are strings and a number, and each is the same as itself. -/
theorem rel_member?_string (text : String) (accessor : Accessor) :
    Option.Rel (fun part other ↦ part.same other = true) ((string text).member? accessor)
      ((string text).member? accessor) := by
  cases accessor with
  | key name =>
      rw [member?_string_key]
      split
      · exact .some (same_count _)
      · exact .none
  | index position =>
      rw [member?]
      cases text.toList[position]? with
      | none => exact .none
      | some char => exact .some (same_string _)

/-- One step finds parts that are the same in values that are the same. -/
theorem sameCases_member :
    SameCases
      (fun first second ↦ ∀ accessor,
        Option.Rel (fun part other ↦ part.same other = true) (first.member? accessor)
          (second.member? accessor))
      (List.Forall₂ fun first second ↦ first.same second = true)
      (fun firsts seconds ↦ ∀ accessor,
        Option.Rel (fun part other ↦ part.same other = true) ((object firsts).member? accessor)
          ((object seconds).member? accessor)) where
  null _ := .none
  bool _ _ := .none
  number _ _ _ _ := .none
  string text accessor := rel_member?_string text accessor
  array firsts seconds _ hitems accessor := by
    cases accessor with
    | key name =>
        rw [member?_array_key, member?_array_key, hitems.length_eq]
        split
        · exact .some (same_count _)
        · exact .none
    | index position => exact rel_getElem?_of_forall₂ hitems position
  object _ _ _ hentries := hentries
  delayed _ _ _ _ := .none
  noItems := .nil
  item _ _ _ _ hsame _ hitems := .cons hsame hitems
  noEntries _ := .none
  entry _ _ _ _ _ hsame _ hentries accessor := by
    rw [member?_object_cons, member?_object_cons]
    split
    · exact .some hsame
    · exact hentries accessor

/-! ## Delayed values whose identity determines the result -/

/-- The result of every delayed value in a value is the outcome of its identity. What is in a
result does not count. -/
inductive Deterministic (outcome : Nat → Value) : Value → Prop
  | null : Deterministic outcome .null
  | bool (truth : Bool) : Deterministic outcome (.bool truth)
  | number (amount : Binary64) : Deterministic outcome (.number amount)
  | string (text : String) : Deterministic outcome (.string text)
  | array {items : List Value} (hitems : ∀ item ∈ items, Deterministic outcome item) :
      Deterministic outcome (.array items)
  | object {entries : List (String × Value)}
      (hentries : ∀ entry ∈ entries, Deterministic outcome entry.2) :
      Deterministic outcome (.object entries)
  | delayed (identity : Nat) : Deterministic outcome (.delayed identity (outcome identity))

/-- A member of an object is the value of an entry. -/
theorem mem_of_member?_object {entries : List (String × Value)} {accessor : Accessor}
    {part : Value} (hpart : (object entries).member? accessor = some part) :
    (accessor.name, part) ∈ entries := by
  induction entries with
  | nil => cases hpart
  | cons entry entries ih =>
      obtain ⟨key, value⟩ := entry
      rw [member?_object_cons] at hpart
      split at hpart
      · rename_i hkey
        cases hpart
        exact hkey ▸ List.mem_cons_self
      · exact List.mem_cons_of_mem _ (ih hpart)

/-- The members of a deterministic value are deterministic. -/
theorem Deterministic.member {outcome : Nat → Value} {value part : Value} {accessor : Accessor}
    (hvalue : value.Deterministic outcome) (hpart : value.member? accessor = some part) :
    part.Deterministic outcome := by
  cases hvalue with
  | null | bool | number | delayed => cases hpart
  | string text =>
      cases accessor with
      | key name =>
          rw [member?_string_key] at hpart
          split at hpart
          · cases hpart
            exact .number _
          · cases hpart
      | index position =>
          obtain ⟨char, -, rfl⟩ := Option.map_eq_some_iff.1 hpart
          exact .string _
  | array hitems =>
      cases accessor with
      | key name =>
          rw [member?_array_key] at hpart
          split at hpart
          · cases hpart
            exact .number _
          · cases hpart
      | index position => exact hitems part (List.mem_of_getElem? hpart)
  | object hentries => exact hentries _ (mem_of_member?_object hpart)

/-- Two values are the same, and the identity of a delayed value in them determines its result. -/
structure Interchangeable (outcome : Nat → Value) (first second : Value) : Prop where
  same : first.same second = true
  first : first.Deterministic outcome
  second : second.Deterministic outcome

variable {outcome : Nat → Value} {first second : Value}

/-- Interchangeable values have interchangeable members. -/
theorem Interchangeable.member (hvalues : Interchangeable outcome first second)
    (accessor : Accessor) :
    Option.Rel (Interchangeable outcome) (first.member? accessor) (second.member? accessor) := by
  have hparts := sameCases_member.value hvalues.same accessor
  generalize hfirst : first.member? accessor = part, hsecond : second.member? accessor = other
    at hparts ⊢
  cases hparts with
  | none => exact .none
  | some hsame =>
      exact .some ⟨hsame, hvalues.first.member hfirst, hvalues.second.member hsecond⟩

end Value

/-! ## Paths and references -/

/-- Two results agree: they are one failure, or related successes. -/
inductive Agrees {ε α : Type} (related : α → α → Prop) : Except ε α → Except ε α → Prop
  | ok {first second : α} (hrelated : related first second) :
      Agrees related (.ok first) (.ok second)
  | error (failure : ε) : Agrees related (.error failure) (.error failure)

namespace Agrees

variable {ε ε' α : Type} {related : α → α → Prop}

/-- A change of errors keeps agreement. -/
theorem mapError {first second : Except ε α} (hagrees : Agrees related first second)
    (function : ε → ε') : Agrees related (first.mapError function) (second.mapError function) := by
  cases hagrees with
  | ok hrelated => exact .ok hrelated
  | error failure => exact .error (function failure)

/-- Results that agree go on to results that agree. -/
theorem andThen {first second : Except ε α} (hagrees : Agrees related first second)
    {step : α → Except ε α}
    (hstep : ∀ value other, related value other → Agrees related (step value) (step other)) :
    Agrees related (first.bind step) (second.bind step) := by
  cases hagrees with
  | ok hrelated => exact hstep _ _ hrelated
  | error failure => exact .error failure

end Agrees

namespace Value

variable {outcome : Nat → Value} {first second : Value}

/-- Walks through interchangeable values agree. -/
theorem Interchangeable.walk (hvalues : Interchangeable outcome first second)
    (accessors : List Accessor) :
    Agrees (Interchangeable outcome) (first.walk accessors) (second.walk accessors) := by
  induction accessors generalizing first second with
  | nil => exact .ok hvalues
  | cons accessor accessors ih =>
      have hparts := hvalues.member accessor
      rw [Value.walk, Value.walk]
      generalize first.member? accessor = part, second.member? accessor = other at hparts
      cases hparts with
      | none => exact .error _
      | some hpart => exact ih hpart

end Value

namespace Directive

variable {outcome : Nat → Value} {firsts seconds : List Value}

/-- The argument with a number counted from one. -/
def argumentAt (arguments : List Value) (number : Nat) : Except RenderError Value :=
  match arguments[number - 1]? with
  | some value => .ok value
  | none => .error (.missingArgument number)

/-- The argument of a directive is found by a number, or by a walk through the first argument. -/
theorem resolve_eq (directive : Directive) (arguments : List Value) (taken : Nat) :
    directive.resolve arguments taken =
      match directive.reference with
      | .next => argumentAt arguments (taken + 1)
      | .position number => argumentAt arguments number
      | .path path =>
          (argumentAt arguments 1).bind fun root ↦ (root.get path).mapError .missingProperty := by
  unfold resolve
  cases directive.reference with
  | next | position => rfl
  | path path =>
      unfold argumentAt
      dsimp only
      cases arguments[1 - 1]? <;> rfl

/-- Related arguments have related arguments at every number, or miss it alike. -/
theorem argumentAt_of_forall₂ {related : Value → Value → Prop}
    (harguments : List.Forall₂ related firsts seconds) (number : Nat) :
    Agrees related (argumentAt firsts number) (argumentAt seconds number) := by
  have hfound := rel_getElem?_of_forall₂ harguments (number - 1)
  unfold argumentAt
  generalize firsts[number - 1]? = first, seconds[number - 1]? = second at hfound ⊢
  cases hfound with
  | none => exact .error _
  | some hvalues => exact .ok hvalues

/-- A reference to interchangeable arguments finds interchangeable values, or fails alike. -/
theorem resolve_of_interchangeable (directive : Directive)
    (harguments : List.Forall₂ (Value.Interchangeable outcome) firsts seconds) (taken : Nat) :
    Agrees (Value.Interchangeable outcome) (directive.resolve firsts taken)
      (directive.resolve seconds taken) := by
  have hargument := argumentAt_of_forall₂ harguments
  rw [resolve_eq, resolve_eq]
  cases directive.reference with
  | next => exact hargument (taken + 1)
  | position number => exact hargument number
  | path path =>
      exact (hargument 1).andThen fun first second hroot ↦
        (hroot.walk path.accessors).mapError RenderError.missingProperty

variable [Json.Writer]

/-- A directive renders alike when its reference finds related values, or fails alike, and it
writes related values alike. -/
theorem render_of_agrees {directive : Directive} {taken : Nat} {related : Value → Value → Prop}
    (hresolve : Agrees related (directive.resolve firsts taken) (directive.resolve seconds taken))
    (hformat : ∀ first second, related first second →
      directive.format first = directive.format second) :
    directive.render firsts taken = directive.render seconds taken := by
  unfold render
  split
  · rfl
  · generalize directive.resolve firsts taken = first, directive.resolve seconds taken = second
      at hresolve
    cases hresolve with
    | error failure => rfl
    | ok hrelated => exact hformat _ _ hrelated

/-- A directive writes interchangeable values alike. Of delayed values it writes the result, which
is one and the same, or the delayed values themselves. -/
theorem format_of_interchangeable (directive : Directive) {first second : Value}
    (hvalues : Value.Interchangeable outcome first second) :
    directive.format first = directive.format second := by
  obtain ⟨hsame, hfirst, hsecond⟩ := hvalues
  have hdelayed := Value.isDelayed_of_same hsame
  cases hkind : first.isDelayed with
  | true =>
      cases hfirst with
      | delayed identity =>
          cases hsecond with
          | delayed other =>
              obtain rfl : identity = other := of_decide_eq_true hsame
              rfl
          | _ => cases hsame
      | _ => cases hkind
  | false =>
      apply format_of_same
      rwa [forced_eq_self directive hkind, forced_eq_self directive (hdelayed ▸ hkind)]

/-- A directive does not tell interchangeable arguments apart. -/
theorem render_of_interchangeable (directive : Directive)
    (harguments : List.Forall₂ (Value.Interchangeable outcome) firsts seconds) (taken : Nat) :
    directive.render firsts taken = directive.render seconds taken :=
  render_of_agrees (directive.resolve_of_interchangeable harguments taken) fun _ _ hvalues ↦
    directive.format_of_interchangeable hvalues

end Directive

namespace Template

variable {outcome : Nat → Value} {firsts seconds : List Value}

/-- Segments do not tell interchangeable arguments apart. -/
theorem renderSegments_of_interchangeable [Json.Writer]
    (harguments : List.Forall₂ (Value.Interchangeable outcome) firsts seconds)
    (segments : List Segment) (taken : Nat) :
    renderSegments firsts taken segments = renderSegments seconds taken segments :=
  renderSegments_congr (fun directive _ ↦ directive.render_of_interchangeable harguments) taken

/-- Arguments that are the same render to the same text, or to the same error: zeros of either sign
stand for each other at any depth, and delayed values with one identity, which determines their
result. -/
theorem render_same_arguments [Json.Writer] (template : Template)
    (hsame : List.Forall₂ (fun first second : Value ↦ first.same second = true) firsts seconds)
    (hfirsts : ∀ value ∈ firsts, value.Deterministic outcome)
    (hseconds : ∀ value ∈ seconds, value.Deterministic outcome) :
    template.render firsts = template.render seconds := by
  have harguments : List.Forall₂ (Value.Interchangeable outcome) firsts seconds := by
    induction hsame with
    | nil => exact .nil
    | cons hhead _ ih =>
        exact .cons ⟨hhead, hfirsts _ List.mem_cons_self, hseconds _ List.mem_cons_self⟩
          (ih (fun value hvalue ↦ hfirsts value (List.mem_cons_of_mem _ hvalue))
            fun value hvalue ↦ hseconds value (List.mem_cons_of_mem _ hvalue))
  exact renderSegments_of_interchangeable harguments template.segments 0

/-- Two arguments: a number, and an object that holds a number in an array beside a delayed one. -/
def nestedArguments (outer inner : Binary64) : List Value :=
  [.number outer, .object [("total", .array [.number inner, .delayed 7 (.number .one)])]]

/-- The delayed values in the sample have one result. -/
theorem deterministic_nestedArguments (outer inner : Binary64) :
    ∀ value ∈ nestedArguments outer inner, value.Deterministic fun _ ↦ .number .one := by
  intro value hvalue
  obtain rfl | rfl : value = .number outer ∨
      value = .object [("total", .array [.number inner, .delayed 7 (.number .one)])] := by
    simpa [nestedArguments] using hvalue
  · exact .number outer
  · apply Value.Deterministic.object
    intro entry hentry
    obtain rfl := List.mem_singleton.1 hentry
    apply Value.Deterministic.array
    intro item hitem
    obtain rfl | rfl : item = .number inner ∨ item = .delayed 7 (.number .one) := by
      simpa using hitem
    · exact .number inner
    · exact .delayed 7

/-- The zeros of either sign change places in `%+.2f` and `%j`. -/
theorem render_same_arguments_zeros :
    letI := Json.Writer.shortest
    List.Forall₂ (fun first second : Value ↦ first.same second = true)
        (nestedArguments (.signedZero true) .zero) (nestedArguments .zero (.signedZero true)) ∧
      (Template.mk "%+.2f %j" [.directive ⟨.next, true, none, false, none, some 2, .fixed⟩,
          .literal " ", .directive ⟨.next, false, none, false, none, none, .json⟩]).render
          (nestedArguments (.signedZero true) .zero) =
        (Template.mk "%+.2f %j" [.directive ⟨.next, true, none, false, none, some 2, .fixed⟩,
          .literal " ", .directive ⟨.next, false, none, false, none, none, .json⟩]).render
          (nestedArguments .zero (.signedZero true)) := by
  let := Json.Writer.shortest
  have hsame : List.Forall₂ (fun first second : Value ↦ first.same second = true)
      (nestedArguments (.signedZero true) .zero) (nestedArguments .zero (.signedZero true)) :=
    .cons (by decide +kernel) (.cons (by decide +kernel) .nil)
  exact ⟨hsame, render_same_arguments _ hsame
    (deterministic_nestedArguments (.signedZero true) .zero)
    (deterministic_nestedArguments .zero (.signedZero true))⟩

end Template

end Numbering
