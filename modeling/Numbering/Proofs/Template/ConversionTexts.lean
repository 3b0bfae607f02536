import Numbering.Proofs.Value.Sameness

/-!
# What a conversion looks at

Seven conversions look at nothing but the integer that their argument stands for, and three at
nothing but the decimal (`Conversion.textOf_of_integerArgument`,
`Conversion.textOf_of_decimalArgument`); none of them sees the sign of a zero. So arguments that are
the same have the same text under every conversion (`Conversion.textOf_of_same`), and a directive
writes it in the same way (`Directive.format_of_same`).
-/

namespace Numbering

open Binary64

namespace Conversion

/-- The conversion looks at the integer that its argument stands for. -/
def readsInteger : Conversion → Bool
  | .binary | .character | .decimal | .integer | .unsigned | .hex | .upperHex => true
  | _ => false

/-- The conversion looks at the decimal that its argument stands for. -/
def readsDecimal : Conversion → Bool
  | .exponential | .fixed | .general => true
  | _ => false

section Congruence

variable {conversion : Conversion} {first second : Value}

variable [Json.Writer]

/-- A conversion that looks at the integer of its argument does not see the sign of a zero. -/
theorem textOf_of_integerArgument (hconversion : conversion.readsInteger = true)
    (hsame : first.integerArgument.withoutZeroSign = second.integerArgument.withoutZeroSign)
    (precision : Option Nat) :
    conversion.textOf precision first = conversion.textOf precision second := by
  cases conversion with
  | binary =>
      exact congrArg (Except.ok ∘ String.ofList) (apply_congr (Numeral.radix · 2) rfl hsame)
  | character =>
      exact congrArg (Except.ok ∘ String.singleton)
        (apply_congr codeCharacter (by decide +kernel) hsame)
  | decimal | integer =>
      exact congrArg (Except.ok ∘ String.ofList) (apply_congr Numeral.plain rfl hsame)
  | unsigned =>
      exact congrArg (Except.ok ∘ String.ofList)
        (apply_congr (fun number ↦ Numeral.plain (number.wrap (.ofNat 4294967296)))
          (by decide +kernel) hsame)
  | hex => exact congrArg (Except.ok ∘ String.ofList) (apply_congr (Numeral.radix · 16) rfl hsame)
  | upperHex =>
      exact congrArg (Except.ok ∘ String.ofList)
        (apply_congr (fun number ↦ (Numeral.radix number 16).map Char.toUpper) rfl hsame)
  | _ => cases hconversion

/-- A conversion that looks at the decimal of its argument does not see the sign of a zero. -/
theorem textOf_of_decimalArgument (hconversion : conversion.readsDecimal = true)
    (hsame : first.decimalArgument.withoutZeroSign = second.decimalArgument.withoutZeroSign)
    (precision : Option Nat) :
    conversion.textOf precision first = conversion.textOf precision second := by
  have hplain : Numeral.plain first.decimalArgument = Numeral.plain second.decimalArgument :=
    apply_congr Numeral.plain rfl hsame
  cases conversion with
  | exponential =>
      cases precision with
      | none =>
          exact congrArg (Except.ok ∘ String.ofList)
            (apply_congr Numeral.shortestExponential rfl hsame)
      | some places =>
          exact congrArg (Except.ok ∘ String.ofList)
            (apply_congr (Numeral.exponential · places) rfl hsame)
  | fixed =>
      cases precision with
      | none => exact congrArg (Except.ok ∘ String.ofList) hplain
      | some places =>
          exact congrArg (Except.ok ∘ String.ofList)
            (apply_congr (Numeral.fixed · places) rfl hsame)
  | general =>
      cases precision with
      | none => exact congrArg (Except.ok ∘ String.ofList) hplain
      | some count =>
          exact congrArg (Except.ok ∘ String.ofList)
            (apply_congr (Numeral.precise · count) rfl hsame)
  | _ => cases hconversion

variable (hsame : first.same second = true)

include hsame

/-- The octal conversion looks at a number itself. -/
theorem textOf_octal_of_same (precision : Option Nat) :
    octal.textOf precision first = octal.textOf precision second := by
  have htext := Value.text_of_same hsame
  have hcases : Value.SameCases (fun first second ↦ first.text = second.text →
      octal.textOf precision first = octal.textOf precision second) _ _ :=
    .ofShallow (fun _ ↦ rfl) (fun _ _ ↦ rfl)
      (fun _ _ hequals _ ↦ congrArg (Except.ok ∘ String.ofList)
        (apply_of_equals (Numeral.radix · 8) rfl hequals))
      (fun _ _ ↦ rfl) (fun _ _ _ ↦ congrArg Except.ok) (fun _ _ _ ↦ congrArg Except.ok)
      fun _ _ _ ↦ congrArg Except.ok
  exact hcases.value hsame htext

/-- The primitive conversion looks at a string itself. -/
theorem textOf_primitive_of_same (precision : Option Nat) :
    primitive.textOf precision first = primitive.textOf precision second := by
  have htext := Value.text_of_same hsame
  have hcases : Value.SameCases (fun first second ↦ first.text = second.text →
      primitive.textOf precision first = primitive.textOf precision second) _ _ :=
    .ofShallow (fun _ ↦ rfl) (fun _ _ ↦ rfl) (fun _ _ _ ↦ congrArg Except.ok) (fun _ _ ↦ rfl)
      (fun _ _ _ ↦ congrArg Except.ok) (fun _ _ _ ↦ congrArg Except.ok)
      fun _ _ _ ↦ congrArg Except.ok
  exact hcases.value hsame htext

/-- Values that are the same have the same text under every conversion. -/
theorem textOf_of_same (conversion : Conversion) (precision : Option Nat) :
    conversion.textOf precision first = conversion.textOf precision second := by
  cases conversion with
  | binary | character | decimal | integer | unsigned | hex | upperHex =>
      exact textOf_of_integerArgument rfl (Value.integerArgument_of_same hsame) precision
  | exponential | fixed | general =>
      exact textOf_of_decimalArgument rfl (Value.decimalArgument_of_same hsame) precision
  | json => exact congrArg (Except.mapError RenderError.json) (Value.json_of_same hsame _)
  | octal => exact textOf_octal_of_same hsame precision
  | text => exact congrArg (Except.ok ∘ truncateText precision) (Value.text_of_same hsame)
  | truth =>
      exact congrArg (fun truth ↦ Except.ok (truncateText precision (Value.truthText truth)))
        (Value.isTruthy_of_same hsame)
  | kind =>
      exact congrArg (fun kind : Kind ↦ Except.ok (truncateText precision kind.name))
        (Value.kind_of_same hsame)
  | primitive => exact textOf_primitive_of_same hsame precision

end Congruence

end Conversion

namespace Directive

/-- The value that a directive writes for its argument. -/
def forced (directive : Directive) (value : Value) : Value :=
  if directive.conversion.forcesDelayed then value.force else value

variable {directive : Directive} {first second : Value}

/-- Only a delayed value is not written itself. -/
theorem forced_eq_self (directive : Directive) {value : Value} (hvalue : value.isDelayed = false) :
    directive.forced value = value := by
  unfold forced
  split
  · cases value with
    | delayed _ _ => cases hvalue
    | _ => rfl
  · rfl

/-- The sign depends on the side of zero that an argument is on. -/
theorem signed_congr (hside : first.toNumber.isAtLeastZero = second.toNumber.isAtLeastZero)
    (text : List Char) : directive.signed first text = directive.signed second text := by
  unfold signed
  rw [hside]

/-- So does what is written around a text. -/
theorem fieldOf_congr (hside : first.toNumber.isAtLeastZero = second.toNumber.isAtLeastZero) :
    directive.fieldOf first = directive.fieldOf second := by
  funext text
  unfold fieldOf
  rw [signed_congr hside]

variable [Json.Writer]

/-- Two arguments are written alike when the directive takes both of them, their texts under its
conversion are equal, and they are on one side of zero. -/
theorem format_congr (haccepts : directive.accepts (directive.forced first) = true)
    (haccepts' : directive.accepts (directive.forced second) = true)
    (htext : directive.conversion.textOf directive.precision (directive.forced first) =
      directive.conversion.textOf directive.precision (directive.forced second))
    (hside : (directive.forced first).toNumber.isAtLeastZero =
      (directive.forced second).toNumber.isAtLeastZero) :
    directive.format first = directive.format second := by
  unfold forced at haccepts haccepts' htext hside
  unfold format
  dsimp only
  rw [if_pos haccepts, if_pos haccepts', htext, fieldOf_congr hside]

/-- An argument that a directive does not take is of the wrong kind. -/
theorem format_of_not_accepts (haccepts : directive.accepts (directive.forced first) = false) :
    directive.format first = .error (.typeMismatch (directive.forced first).kind) := by
  unfold forced at haccepts ⊢
  unfold format
  dsimp only
  rw [if_neg (by simp [haccepts])]

omit [Json.Writer] in
/-- A directive takes both of two values that are the same, or neither. -/
theorem accepts_of_same (directive : Directive) (hsame : first.same second = true) :
    directive.accepts first = directive.accepts second := by
  have hnumber : first.isNumber = second.isNumber := Value.isNumber_of_same hsame
  have hnan : first.toNumber.isNaN = second.toNumber.isNaN :=
    apply_congr isNaN rfl (Value.toNumber_of_same hsame)
  unfold accepts
  rw [hnumber, hnan]

/-- Arguments that are the same are written alike, or refused alike. -/
theorem format_of_same (hsame : (directive.forced first).same (directive.forced second) = true) :
    directive.format first = directive.format second := by
  have haccepts := accepts_of_same directive hsame
  cases hfirst : directive.accepts (directive.forced first) with
  | true =>
      exact format_congr hfirst (haccepts ▸ hfirst)
        (Conversion.textOf_of_same hsame directive.conversion directive.precision)
        (apply_congr isAtLeastZero rfl (Value.toNumber_of_same hsame))
  | false =>
      rw [format_of_not_accepts hfirst, format_of_not_accepts (haccepts ▸ hfirst),
        Value.kind_of_same hsame]

end Directive

end Numbering
