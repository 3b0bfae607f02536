import Mathlib.Data.List.Forall2
import Numbering.Proofs.Binary64.Representable
import Numbering.Proofs.Numeral.ReadBack
import Numbering.Template.Rendering

/-!
# Values that are the same

The comparison of values tells zeros of either sign from each other no more than the comparison of
numbers does. Whatever gives one result for both zeros gives one result for equal numbers
(`Binary64.apply_of_equals`), and with this the texts of values that are the same are equal at
every depth (`Value.text_of_same`, `Value.json_of_same`), and so is all else that a rendering asks
of a value.
-/

namespace Numbering

namespace Binary64

variable {first second : Binary64}

/-- Equal numbers are identical, unless both are zero. -/
theorem eq_or_zeros_of_equals (hequals : first.equals second = true) :
    first = second ∨ ∃ negative other, first = signedZero negative ∧ second = signedZero other := by
  cases first with
  | nan => cases hequals
  | infinity negative =>
      cases second with
      | nan => cases hequals
      | infinity other => exact .inl (congrArg _ (of_decide_eq_true hequals))
      | finite other y => cases hequals
  | finite negative x =>
      cases second with
      | nan => cases hequals
      | infinity other => cases hequals
      | finite other y =>
          have hvalue : (finite negative x).toRat = (finite other y).toRat :=
            of_decide_eq_true hequals
          by_cases hsign : negative = other
          · subst hsign
            have hsame : x.toRat = y.toRat := by
              cases negative with
              | true => exact neg_injective hvalue
              | false => exact hvalue
            exact .inl (congrArg _ (Magnitude.toRat_injective hsame))
          · -- Numbers of different signs are equal only where neither is off zero.
            have hopposite : x.toRat = -y.toRat := by
              cases negative <;> cases other <;> simp_all [Binary64.toRat, neg_eq_iff_eq_neg]
            have hx := x.toRat_nonneg
            have hy := y.toRat_nonneg
            have hxzero : x = .zero :=
              Magnitude.eq_zero (Magnitude.significand_eq_zero_iff.2 (by linarith))
            have hyzero : y = .zero :=
              Magnitude.eq_zero (Magnitude.significand_eq_zero_iff.2 (by linarith))
            exact .inr ⟨negative, other, by rw [hxzero]; rfl, by rw [hyzero]; rfl⟩

/-- Equal numbers differ at most in the sign of zero. -/
theorem withoutZeroSign_of_equals (hequals : first.equals second = true) :
    first.withoutZeroSign = second.withoutZeroSign := by
  obtain rfl | ⟨negative, other, rfl, rfl⟩ := eq_or_zeros_of_equals hequals
  · rfl
  · rfl

/-- What gives one result for both zeros does not see the sign of a zero. -/
theorem apply_withoutZeroSign {α : Type} (function : Binary64 → α)
    (hzeros : function (signedZero true) = function .zero) (number : Binary64) :
    function number.withoutZeroSign = function number := by
  unfold withoutZeroSign
  split
  · rename_i hzero
    obtain ⟨negative, rfl⟩ := exists_signedZero_of_isZero hzero
    cases negative with
    | true => exact hzeros.symm
    | false => rfl
  · rfl

/-- A function that does not tell the zeros apart tells no numbers apart that differ in the sign of
zero only. -/
theorem apply_congr {α : Type} (function : Binary64 → α)
    (hzeros : function (signedZero true) = function .zero)
    (hsame : first.withoutZeroSign = second.withoutZeroSign) :
    function first = function second := by
  rw [← apply_withoutZeroSign function hzeros first, hsame, apply_withoutZeroSign function hzeros]

/-- What gives one result for both zeros gives one result for equal numbers. -/
theorem apply_of_equals {α : Type} (function : Binary64 → α)
    (hzeros : function (signedZero true) = function .zero)
    (hequals : first.equals second = true) : function first = function second :=
  apply_congr function hzeros (withoutZeroSign_of_equals hequals)

end Binary64

namespace Value

/-! ## Induction on two values that are the same -/

section Induction

variable (related : Value → Value → Prop) (relatedItems : List Value → List Value → Prop)
  (relatedEntries : List (String × Value) → List (String × Value) → Prop)

/-- What has to be shown of two values that are the same: it holds of two values without parts that
are the same, of two lists when it holds of their heads and tails, and of two containers when it
holds of what is in them. -/
structure SameCases : Prop where
  null : related .null .null
  bool : ∀ truth, related (.bool truth) (.bool truth)
  number : ∀ first second : Binary64, first.equals second = true →
    related (.number first) (.number second)
  string : ∀ text, related (.string text) (.string text)
  array : ∀ firsts seconds, sameItems firsts seconds = true → relatedItems firsts seconds →
    related (.array firsts) (.array seconds)
  object : ∀ firsts seconds, sameEntries firsts seconds = true → relatedEntries firsts seconds →
    related (.object firsts) (.object seconds)
  delayed : ∀ identity first second, related (.delayed identity first) (.delayed identity second)
  noItems : relatedItems [] []
  item : ∀ first second firsts seconds, same first second = true → related first second →
    relatedItems firsts seconds → relatedItems (first :: firsts) (second :: seconds)
  noEntries : relatedEntries [] []
  entry : ∀ key first second firsts seconds, same first second = true → related first second →
    relatedEntries firsts seconds →
      relatedEntries ((key, first) :: firsts) ((key, second) :: seconds)

variable {related : Value → Value → Prop} {relatedItems : List Value → List Value → Prop}
  {relatedEntries : List (String × Value) → List (String × Value) → Prop}
  (hcases : SameCases related relatedItems relatedEntries)

include hcases

mutual

/-- A relation that holds case by case holds of values that are the same. -/
theorem SameCases.value {first second : Value} (hsame : first.same second = true) :
    related first second := by
  cases first with
  | null =>
      cases second with
      | null => exact hcases.null
      | _ => cases hsame
  | bool truth =>
      cases second with
      | bool other => exact of_decide_eq_true hsame ▸ hcases.bool truth
      | _ => cases hsame
  | number amount =>
      cases second with
      | number other => exact hcases.number amount other hsame
      | _ => cases hsame
  | string text =>
      cases second with
      | string other => exact of_decide_eq_true hsame ▸ hcases.string text
      | _ => cases hsame
  | array firsts =>
      cases second with
      | array seconds => exact hcases.array firsts seconds hsame (SameCases.items hsame)
      | _ => cases hsame
  | object firsts =>
      cases second with
      | object seconds => exact hcases.object firsts seconds hsame (SameCases.entries hsame)
      | _ => cases hsame
  | delayed identity result =>
      cases second with
      | delayed other _ => exact of_decide_eq_true hsame ▸ hcases.delayed identity result _
      | _ => cases hsame

/-- It holds of items that are the same, one by one. -/
theorem SameCases.items {firsts seconds : List Value} (hsame : sameItems firsts seconds = true) :
    relatedItems firsts seconds := by
  cases firsts with
  | nil =>
      cases seconds with
      | nil => exact hcases.noItems
      | cons _ _ => cases hsame
  | cons first firsts =>
      cases seconds with
      | nil => cases hsame
      | cons second seconds =>
          obtain ⟨hfirst, hrest⟩ := Bool.and_eq_true_iff.1 hsame
          exact hcases.item _ _ _ _ hfirst (SameCases.value hfirst) (SameCases.items hrest)

/-- It holds of entries that are the same, one by one. -/
theorem SameCases.entries {firsts seconds : List (String × Value)}
    (hsame : sameEntries firsts seconds = true) : relatedEntries firsts seconds := by
  cases firsts with
  | nil =>
      cases seconds with
      | nil => exact hcases.noEntries
      | cons _ _ => cases hsame
  | cons first firsts =>
      obtain ⟨key, first⟩ := first
      cases seconds with
      | nil => cases hsame
      | cons second seconds =>
          obtain ⟨other, second⟩ := second
          obtain ⟨hentry, hrest⟩ := Bool.and_eq_true_iff.1 hsame
          obtain ⟨hkey, hfirst⟩ := Bool.and_eq_true_iff.1 hentry
          obtain rfl : key = other := of_decide_eq_true hkey
          exact hcases.entry _ _ _ _ _ hfirst (SameCases.value hfirst) (SameCases.entries hrest)

end

end Induction

/-- For what does not look into containers, two containers of one kind are a case each. -/
theorem SameCases.ofShallow {related : Value → Value → Prop} (null : related .null .null)
    (bool : ∀ truth, related (.bool truth) (.bool truth))
    (number : ∀ first second : Binary64, first.equals second = true →
      related (.number first) (.number second))
    (string : ∀ text, related (.string text) (.string text))
    (array : ∀ firsts seconds, sameItems firsts seconds = true →
      related (.array firsts) (.array seconds))
    (object : ∀ firsts seconds, sameEntries firsts seconds = true →
      related (.object firsts) (.object seconds))
    (delayed : ∀ identity first second,
      related (.delayed identity first) (.delayed identity second)) :
    SameCases related (fun _ _ ↦ True) fun _ _ ↦ True :=
  ⟨null, bool, number, string, fun firsts seconds hsame _ ↦ array firsts seconds hsame,
    fun firsts seconds hsame _ ↦ object firsts seconds hsame, delayed, trivial,
    fun _ _ _ _ _ _ _ ↦ trivial, trivial, fun _ _ _ _ _ _ _ _ ↦ trivial⟩

/-! ## What a rendering asks of a value -/

/-- Values that are the same have one text, and are null or not alike. -/
theorem sameCases_text :
    SameCases (fun first second ↦ first.text = second.text ∧ first.isNull = second.isNull)
      (fun firsts seconds ↦ itemTexts firsts = itemTexts seconds) fun _ _ ↦ True where
  null := ⟨rfl, rfl⟩
  bool _ := ⟨rfl, rfl⟩
  number _ _ hequals :=
    ⟨congrArg String.ofList (Binary64.apply_of_equals Numeral.plain rfl hequals), rfl⟩
  string _ := ⟨rfl, rfl⟩
  array _ _ _ hitems := ⟨congrArg (String.intercalate ",") hitems, rfl⟩
  object _ _ _ _ := ⟨rfl, rfl⟩
  delayed _ _ _ := ⟨rfl, rfl⟩
  noItems := rfl
  item _ _ _ _ _ hfirst hitems := by rw [itemTexts, itemTexts, hfirst.1, hfirst.2, hitems]
  noEntries := trivial
  entry _ _ _ _ _ _ _ _ := trivial

/-- Values that are the same have one JSON text or are refused alike, and are delayed or not
alike. -/
theorem sameCases_json [Json.Writer] (indent : Nat) :
    SameCases
      (fun first second ↦ (∀ depth, first.jsonAt indent depth = second.jsonAt indent depth) ∧
        first.isDelayed = second.isDelayed)
      (fun firsts seconds ↦ ∀ depth, jsonItems indent depth firsts = jsonItems indent depth seconds)
      fun firsts seconds ↦
        ∀ depth, jsonEntries indent depth firsts = jsonEntries indent depth seconds where
  null := ⟨fun _ ↦ rfl, rfl⟩
  bool _ := ⟨fun _ ↦ rfl, rfl⟩
  number _ _ hequals := by
    have hzeros : Json.number (.signedZero true) = Json.number .zero := by
      unfold Json.number
      rw [if_pos (by decide), if_pos (by decide +kernel), if_pos (by decide),
        if_pos (by decide +kernel)]
      exact congrArg Except.ok (by decide +kernel)
    exact ⟨fun _ ↦ congrArg (Except.map String.ofList)
      (Binary64.apply_of_equals Json.number hzeros hequals), rfl⟩
  string _ := ⟨fun _ ↦ rfl, rfl⟩
  array _ _ _ hitems :=
    ⟨fun depth ↦ congrArg (Except.map (Json.container "[" "]" indent depth)) (hitems (depth + 1)),
      rfl⟩
  object _ _ _ hentries :=
    ⟨fun depth ↦ congrArg (Except.map (Json.container "\x7b" "\x7d" indent depth))
      (hentries (depth + 1)), rfl⟩
  delayed _ _ _ := ⟨fun _ ↦ rfl, rfl⟩
  noItems _ := rfl
  item _ _ _ _ _ hfirst hitems depth := by rw [jsonItems, jsonItems, hfirst.1, hitems]
  noEntries _ := rfl
  entry _ _ _ _ _ _ hfirst hentries depth := by
    rw [jsonEntries, jsonEntries, hfirst.1, hfirst.2, hentries]

section Same

variable {first second : Value} (hsame : first.same second = true)

include hsame

/-- Values that are the same have one text. -/
theorem text_of_same : first.text = second.text := (sameCases_text.value hsame).1

/-- Values that are the same have one JSON text, or are refused alike. -/
theorem json_of_same [Json.Writer] (indent : Nat) : first.json indent = second.json indent :=
  ((sameCases_json (min indent 10)).value hsame).1 0

/-- Values that are the same are of one kind. -/
theorem kind_of_same : first.kind = second.kind := by
  have hcases : SameCases (fun first second ↦ first.kind = second.kind) _ _ :=
    .ofShallow rfl (fun _ ↦ rfl) (fun _ _ _ ↦ rfl) (fun _ ↦ rfl) (fun _ _ _ ↦ rfl) (fun _ _ _ ↦ rfl)
      fun _ _ _ ↦ rfl
  exact hcases.value hsame

/-- Values that are the same are numbers or not alike. -/
theorem isNumber_of_same : first.isNumber = second.isNumber := by
  have hnumber : ∀ value : Value, value.isNumber = decide (value.kind = .number) := by
    intro value
    cases value <;> rfl
  rw [hnumber, hnumber, kind_of_same hsame]

/-- Values that are the same are delayed or not alike. -/
theorem isDelayed_of_same : first.isDelayed = second.isDelayed := by
  have hcases : SameCases (fun first second ↦ first.isDelayed = second.isDelayed) _ _ :=
    .ofShallow rfl (fun _ ↦ rfl) (fun _ _ _ ↦ rfl) (fun _ ↦ rfl) (fun _ _ _ ↦ rfl) (fun _ _ _ ↦ rfl)
      fun _ _ _ ↦ rfl
  exact hcases.value hsame

/-- Values that are the same are truthy or not alike. -/
theorem isTruthy_of_same : first.isTruthy = second.isTruthy := by
  have hcases : SameCases (fun first second ↦ first.isTruthy = second.isTruthy) _ _ :=
    .ofShallow rfl (fun _ ↦ rfl)
      (fun _ _ ↦ Binary64.apply_of_equals (fun amount ↦ (Value.number amount).isTruthy) rfl)
      (fun _ ↦ rfl) (fun _ _ _ ↦ rfl) (fun _ _ _ ↦ rfl) fun _ _ _ ↦ rfl
  exact hcases.value hsame

/-- Values that are the same stand for one number, up to the sign of a zero. -/
theorem toNumber_of_same :
    first.toNumber.withoutZeroSign = second.toNumber.withoutZeroSign := by
  have hcases : SameCases (fun first second ↦
      first.toNumber.withoutZeroSign = second.toNumber.withoutZeroSign) _ _ :=
    .ofShallow rfl (fun _ ↦ rfl) (fun _ _ ↦ Binary64.withoutZeroSign_of_equals) (fun _ ↦ rfl)
      (fun firsts seconds hitems ↦ by
        have htext : (Value.array firsts).text = (Value.array seconds).text :=
          text_of_same (by exact hitems)
        rw [toNumber, toNumber, htext])
      (fun _ _ _ ↦ rfl) fun _ _ _ ↦ rfl
  exact hcases.value hsame

/-- Values that are the same stand for one integer, up to the sign of a zero. -/
theorem integerArgument_of_same :
    first.integerArgument.withoutZeroSign = second.integerArgument.withoutZeroSign := by
  have htext := text_of_same hsame
  have hcases : SameCases (fun first second ↦ first.text = second.text →
      first.integerArgument.withoutZeroSign = second.integerArgument.withoutZeroSign) _ _ :=
    .ofShallow (fun _ ↦ rfl) (fun _ _ ↦ rfl)
      (fun _ _ hequals _ ↦ Binary64.apply_of_equals
        (fun amount ↦ (Value.number amount).integerArgument.withoutZeroSign) (by decide +kernel)
        hequals)
      (fun _ _ ↦ rfl)
      (fun _ _ _ ↦ congrArg fun text : String ↦ (Numeral.readInteger text.toList).withoutZeroSign)
      (fun _ _ _ _ ↦ rfl) fun _ _ _ _ ↦ rfl
  exact hcases.value hsame htext

/-- Values that are the same stand for one number as arguments, up to the sign of a zero. -/
theorem decimalArgument_of_same :
    first.decimalArgument.withoutZeroSign = second.decimalArgument.withoutZeroSign := by
  have htext := text_of_same hsame
  have hcases : SameCases (fun first second ↦ first.text = second.text →
      first.decimalArgument.withoutZeroSign = second.decimalArgument.withoutZeroSign) _ _ :=
    .ofShallow (fun _ ↦ rfl) (fun _ _ ↦ rfl)
      (fun _ _ hequals _ ↦ Binary64.withoutZeroSign_of_equals hequals)
      (fun _ _ ↦ rfl)
      (fun _ _ _ ↦ congrArg fun text : String ↦ (Numeral.readDecimal text.toList).withoutZeroSign)
      (fun _ _ _ _ ↦ rfl) fun _ _ _ _ ↦ rfl
  exact hcases.value hsame htext

end Same

end Value

end Numbering
