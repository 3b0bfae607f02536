import Numbering.Proofs.Checked.Conversions
import Numbering.Proofs.Template.Padding
import Numbering.Proofs.Template.Rendering

/-!
# Checked rendering

A position counts from one and is turned into an index from zero; the arguments taken in sequence
are counted; and what is missing up to a width is found from the length of sign and text, and may be
looked up in a table. These steps have results when positions are at least one, as those of a
template are, when there are fewer directives than machine integers, and when texts fit in memory
(`FitsInMemory`); then the checked rendering is the rendering (`Checked.renderSegments_eq`).
-/

namespace Numbering

open Text

namespace Directive

/-- The texts of all arguments that a directive can take fit in memory, where no text is as long as
half of the greatest machine integer. -/
def FitsInMemory [Json.Writer] (directive : Directive) (arguments : List Value) : Prop :=
  ∀ taken value, directive.resolve arguments taken = .ok value →
    ∀ text, directive.conversion.textOf directive.precision (directive.forced value) = .ok text →
      byteLength text.toList < 2 ^ 63

/-- A position of a directive is one that a template can hold. -/
def HasPosition (directive : Directive) : Prop :=
  ∀ number, directive.reference = .position number → 1 ≤ number ∧ number ≤ Digits.greatestCount

end Directive

namespace Checked

open Template (directivesOf directivesOf_literal directivesOf_directive)

/-! ## Directives -/

/-- The argument of a directive, and how many arguments have been taken in sequence after it. -/
def resolve (directive : Directive) (arguments : List Value) (taken : Nat) :
    Option (Except RenderError Value × Nat) :=
  match directive.reference with
  | .next => do
      let next ← index? (taken + 1 : Nat)
      match arguments[taken]? with
      | some value => return (.ok value, next)
      | none =>
          let number ← index? (taken + 1 : Nat)
          return (.error (.missingArgument number), next)
  | .position number => do
      let position ← index? (number - 1)
      match arguments[position]? with
      | some value => return (.ok value, taken)
      | none => return (.error (.missingArgument number), taken)
  | .path path =>
      match arguments[0]? with
      | some root => some ((root.get path).mapError .missingProperty, taken)
      | none => some (.error (.missingArgument 1), taken)

/-- So many copies of a character, looked up in its table if it has one that goes so far. -/
def paddingText (char : Char) (count : Nat) : Option (List Char) :=
  match paddingTable? char with
  | some table =>
      if count < table.size then table[count]?.map String.toList
      else some (List.replicate count char)
  | none => some (List.replicate count char)

/-- Put sign, text and filling together. What the text has beyond the width does not count. -/
def padded (directive : Directive) (sign text : List Char) : Option (List Char) := do
  let used ← index? (byteLength sign + text.length : Nat)
  let filling ← paddingText directive.paddingChar (directive.width.getD 0 - used)
  if directive.leftAlign then return sign ++ text ++ filling
  else if directive.paddingChar = '0' then return sign ++ filling ++ text
  else return filling ++ sign ++ text

/-- What is written for an argument with a text. -/
def fieldOf (directive : Directive) (value : Value) (text : String) : Option String :=
  if directive.conversion = .json then some text
  else do
    let (sign, body) := directive.signed value text.toList
    let line ← padded directive sign body
    return String.ofList line

variable [Json.Writer]

/-- The text of an argument under a directive. -/
def format (directive : Directive) (value : Value) : Option (Except RenderError String) := do
  let value := directive.forced value
  let amount ← toNumber value
  if !directive.conversion.needsNumber || value.isNumber || !amount.isNaN then
    match ← textOf directive.conversion directive.precision value with
    | .ok text => (fieldOf directive value text).map .ok
    | .error error => return .error error
  else return .error (.typeMismatch value.kind)

/-- Render a directive, and count the arguments taken in sequence. -/
def render (directive : Directive) (arguments : List Value) (taken : Nat) :
    Option (Except RenderError String × Nat) :=
  if widthLimit < directive.width.getD 0 then
    some (.error (.widthTooLarge (directive.width.getD 0)), taken)
  else do
    let (found, next) ← resolve directive arguments taken
    match found with
    | .ok value => (format directive value).map (·, next)
    | .error error => return (.error error, next)

/-- Render segments. -/
def renderSegments (arguments : List Value) :
    Nat → List Segment → Option (Except RenderError String)
  | _, [] => some (.ok "")
  | taken, .literal text :: segments =>
      (renderSegments arguments taken segments).map (·.map (text ++ ·))
  | taken, .directive directive :: segments => do
      let (result, next) ← render directive arguments taken
      match result with
      | .ok text => (renderSegments arguments next segments).map (·.map (text ++ ·))
      | .error error => return .error error

section Directive

variable {directive : Directive} {arguments : List Value} {taken : Nat}

omit [Json.Writer] in
/-- Looking up an argument has a result. -/
theorem resolve_eq (hposition : directive.HasPosition) (htaken : taken + 1 < 2 ^ 64) :
    resolve directive arguments taken =
      some (directive.resolve arguments taken, taken + directive.consumed) := by
  unfold resolve Directive.resolve Directive.consumed
  dsimp only
  cases hreference : directive.reference with
  | next =>
      dsimp only
      rw [index?_natCast htaken, Nat.add_sub_cancel]
      cases arguments[taken]? with
      | none | some => rfl
  | position number =>
      obtain ⟨hpos, hbound⟩ := hposition number hreference
      unfold Digits.greatestCount at hbound
      have hindex : index? (number - 1 : Int) = some (number - 1 : Nat) := by
        rw [index?_eq_toNat (by omega) (by omega)]
        congr 1
        omega
      dsimp only
      rw [hindex]
      dsimp only [Option.bind_eq_bind, Option.bind_some]
      cases arguments[number - 1]? with
      | none | some => rfl
  | path path =>
      dsimp only
      cases arguments[0]? with
      | none | some => rfl

omit [Json.Writer] in
/-- Filling up has a result: no index is behind the end of its table. -/
theorem paddingText_eq (char : Char) (count : Nat) :
    paddingText char count = some (Numbering.paddingText char count) := by
  unfold paddingText Numbering.paddingText
  cases paddingTable? char with
  | none => rfl
  | some table =>
      dsimp only
      split
      · rename_i hinside
        rw [Array.getElem?_eq_getElem hinside]
        rfl
      · rfl

omit [Json.Writer] in
/-- Putting sign, text and filling together has a result. -/
theorem padded_eq {sign text : List Char} (hlength : byteLength sign + text.length < 2 ^ 64)
    (hsign : ∀ char ∈ sign, char.utf8Size = 1) :
    padded directive sign text = some (directive.padded sign text) := by
  unfold padded Directive.padded
  rw [index?_natCast hlength, byteLength_of_ascii hsign]
  dsimp only [Option.bind_eq_bind, Option.bind_some]
  rw [paddingText_eq]
  dsimp only [Option.bind_some]
  split
  · rfl
  · split
    · rfl
    · rfl

omit [Json.Writer] in
/-- The sign that a directive writes is one byte at most, and the rest is part of the text. -/
theorem signed_bounds (directive : Directive) (value : Value) (text : List Char) :
    (∀ char ∈ (directive.signed value text).1, char.utf8Size = 1) ∧
      (directive.signed value text).1.length ≤ 1 ∧
      (directive.signed value text).2.length ≤ text.length := by
  unfold Directive.signed
  dsimp only
  split
  · refine ⟨?_, le_rfl, ?_⟩
    · cases value.toNumber.isAtLeastZero with
      | true | false => exact List.forall_mem_singleton.2 rfl
    · dsimp only
      unfold Directive.unsignedText
      split
      · exact Nat.le_succ _
      · exact Nat.le_succ _
      · exact le_rfl
  · exact ⟨List.forall_mem_nil _, Nat.zero_le _, le_rfl⟩

omit [Json.Writer] in
/-- Writing a text that fits in memory has a result. -/
theorem fieldOf_eq {value : Value} {text : String} (hmemory : byteLength text.toList < 2 ^ 63) :
    fieldOf directive value text = some (directive.fieldOf value text) := by
  unfold fieldOf Directive.fieldOf
  split
  · rfl
  · have hlength := length_le_byteLength text.toList
    obtain ⟨hsign, hone, hbody⟩ := signed_bounds directive value text.toList
    have hbytes := byteLength_of_ascii hsign
    have hused : byteLength (directive.signed value text.toList).1 +
        (directive.signed value text.toList).2.length < 2 ^ 64 := by
      omega
    exact Option.bind_eq_some_iff.2 ⟨_, padded_eq hused hsign, rfl⟩

/-- Formatting an argument has a result. -/
theorem format_eq {value : Value}
    (hmemory : ∀ text, directive.conversion.textOf directive.precision (directive.forced value) =
      .ok text → byteLength text.toList < 2 ^ 63) :
    format directive value = some (directive.format value) := by
  unfold format Directive.format
  rw [← Directive.forced]
  dsimp only
  unfold Directive.accepts
  refine Option.bind_eq_some_iff.2 ⟨_, toNumber_eq _, ?_⟩
  split
  · refine Option.bind_eq_some_iff.2 ⟨_, textOf_eq _ _ _, ?_⟩
    cases htext : directive.conversion.textOf directive.precision (directive.forced value) with
    | error error => rfl
    | ok text => exact congrArg (Option.map Except.ok) (fieldOf_eq (hmemory text htext))
  · rfl

/-- Rendering a directive has a result. -/
theorem render_eq (hposition : directive.HasPosition) (hmemory : directive.FitsInMemory arguments)
    (htaken : taken + 1 < 2 ^ 64) :
    ∃ next, render directive arguments taken = some (directive.render arguments taken, next) ∧
      next ≤ taken + 1 ∧
      ∀ text, directive.render arguments taken = .ok text → next = taken + directive.consumed := by
  unfold render Directive.render
  split
  · exact ⟨taken, rfl, Nat.le_succ taken, nofun⟩
  · have hconsumed : directive.consumed ≤ 1 := by
      rw [Directive.consumed_eq]
      cases directive.takesNext <;> decide
    refine ⟨taken + directive.consumed, ?_, by omega, fun _ _ ↦ rfl⟩
    refine Option.bind_eq_some_iff.2 ⟨_, resolve_eq hposition htaken, ?_⟩
    cases hfound : directive.resolve arguments taken with
    | error error => rfl
    | ok value =>
        dsimp only
        rw [format_eq (hmemory taken value hfound)]
        rfl

end Directive

/-! ## Segments -/

/-- The checked rendering of segments is their rendering, when every directive of them can be
rendered and not too many arguments are taken. -/
theorem renderSegments_eq {arguments : List Value} {taken : Nat} {segments : List Segment}
    (hposition : ∀ directive ∈ directivesOf segments, directive.HasPosition)
    (hmemory : ∀ directive ∈ directivesOf segments, directive.FitsInMemory arguments)
    (htaken : taken + segments.length < 2 ^ 64) :
    renderSegments arguments taken segments =
      some (Template.renderSegments arguments taken segments) := by
  induction segments generalizing taken with
  | nil => rfl
  | cons segment segments ih =>
      rw [List.length_cons] at htaken
      cases segment with
      | literal text =>
          rw [directivesOf_literal] at hposition hmemory
          rw [renderSegments, Template.renderSegments, ih hposition hmemory (by omega)]
          rfl
      | directive directive =>
          rw [directivesOf_directive, List.forall_mem_cons] at hposition hmemory
          obtain ⟨next, hrender, hle, hnext⟩ :=
            render_eq hposition.1 hmemory.1 (by omega : taken + 1 < 2 ^ 64)
          rw [renderSegments, Template.renderSegments]
          refine Option.bind_eq_some_iff.2 ⟨_, hrender, ?_⟩
          cases hresult : directive.render arguments taken with
          | error error => rfl
          | ok text =>
              dsimp only
              rw [← hnext text hresult, ih hposition.2 hmemory.2 (by omega)]
              rfl

end Checked

end Numbering
