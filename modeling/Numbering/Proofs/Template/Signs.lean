import Numbering.Proofs.Numeral.SignedTexts
import Numbering.Proofs.Template.Padding

/-!
# Signs in front of numbers

A number is written by a signed conversion as a text that does not depend on the sign of the number,
possibly behind a sign of its own (`Conversion.unsignedText_textOf`). The directive drops this sign
and writes one for the number itself, so that changing the sign of a number changes this one
character and nothing else (`Directive.render_negated`).
-/

namespace Numbering

open Numeral

namespace Binary64

/-- The absolute value of a rounded number is the rounded number without its sign. -/
theorem abs_ofMagnitude (negative : Bool) (number : Rat) :
    (ofMagnitude negative number).abs = ofMagnitude false number := by
  unfold ofMagnitude
  cases roundMagnitude? number with
  | none => rfl
  | some magnitude => rfl

/-- An absolute value is its own. -/
theorem abs_abs (number : Binary64) : number.abs.abs = number.abs := by
  cases number <;> rfl

variable {number : Binary64}

/-- An absolute value is at least zero. -/
theorem isAtLeastZero_abs (hnan : number.isNaN = false) : number.abs.isAtLeastZero = true := by
  cases number with
  | nan => cases hnan
  | infinity negative => rfl
  | finite negative magnitude => rfl

/-- A negated absolute value is not at least zero, unless it is zero. -/
theorem isAtLeastZero_abs_neg (hzero : number.isZero = false) :
    number.abs.neg.isAtLeastZero = false := by
  cases number with
  | nan => rfl
  | infinity negative => rfl
  | finite negative magnitude => exact hzero

end Binary64

/-- Dropping the fraction does not look at the sign. -/
theorem Value.integerArgument_abs (number : Binary64) :
    (Value.number number.abs).integerArgument = (Value.number number).integerArgument.abs := by
  cases number with
  | nan => rfl
  | infinity negative => rfl
  | finite negative magnitude => exact (Binary64.abs_ofMagnitude negative _).symm

namespace Directive

/-- There is no sign to take off a text without one. -/
theorem unsignedText_eq_self {text : List Char} (htext : IsUnsigned text) :
    unsignedText text = text := by
  unfold unsignedText
  split
  · exact absurd rfl htext.1
  · exact absurd rfl htext.2
  · rfl

end Directive

/-- Without its sign, the text of a number is that of the number without its sign. -/
theorem Numeral.IsSignedText.unsignedText {write : Binary64 → List Char}
    (hwrite : IsSignedText write) (number : Binary64) :
    Directive.unsignedText (write number) = write number.abs := by
  rw [hwrite.split, sign]
  split
  · rfl
  · exact Directive.unsignedText_eq_self (hwrite.unsigned number)

namespace Conversion

/-- A signed conversion writes a number in one of the five ways that put a sign in front, after
dropping its fraction or as it is. -/
theorem exists_isSignedText [Json.Writer] {conversion : Conversion}
    (hsigned : conversion.isSigned = true) (precision : Option Nat) :
    ∃ write, IsSignedText write ∧ ∃ part : Binary64 → Binary64,
      (∀ number : Binary64, part number.abs = (part number).abs) ∧ ∀ number,
        conversion.textOf precision (.number number) =
          .ok (String.ofList (write (part number))) := by
  cases conversion with
  | decimal | integer =>
      exact ⟨plain, isSignedText_plain, _, Value.integerArgument_abs, fun _ ↦ rfl⟩
  | exponential =>
      cases precision with
      | none => exact ⟨_, isSignedText_shortestExponential, id, fun _ ↦ rfl, fun _ ↦ rfl⟩
      | some places => exact ⟨_, isSignedText_exponential places, id, fun _ ↦ rfl, fun _ ↦ rfl⟩
  | fixed =>
      cases precision with
      | none => exact ⟨_, isSignedText_plain, id, fun _ ↦ rfl, fun _ ↦ rfl⟩
      | some places => exact ⟨_, isSignedText_fixed places, id, fun _ ↦ rfl, fun _ ↦ rfl⟩
  | general =>
      cases precision with
      | none => exact ⟨_, isSignedText_plain, id, fun _ ↦ rfl, fun _ ↦ rfl⟩
      | some count => exact ⟨_, isSignedText_precise count, id, fun _ ↦ rfl, fun _ ↦ rfl⟩
  | _ => cases hsigned

/-- What is left of the text of a number without the sign in front is the text of the number without
its sign. -/
theorem exists_unsignedText_textOf [Json.Writer] {conversion : Conversion}
    (hsigned : conversion.isSigned = true) (precision : Option Nat) (number : Binary64) :
    ∃ whole text : List Char, conversion.textOf precision (.number number) =
        .ok (String.ofList whole) ∧
      conversion.textOf precision (.number number.abs) = .ok (String.ofList text) ∧
      Directive.unsignedText whole = text ∧ IsUnsigned text := by
  obtain ⟨write, hwrite, part, hpart, htext⟩ := exists_isSignedText hsigned precision
  refine ⟨_, _, htext number, htext number.abs, ?_⟩
  rw [hpart]
  exact ⟨hwrite.unsignedText _, hwrite.unsigned _⟩

end Conversion

namespace Directive

/-- A sign that the directive writes stands between filling and text, or between filling and
filling. -/
theorem exists_padded_eq (directive : Directive) (text : List Char) :
    ∃ front filling back, (∀ char ∈ front ++ filling ++ back, char = directive.paddingChar) ∧
      ∀ sign : Char, directive.padded [sign] text = front ++ sign :: (filling ++ text) ++ back := by
  obtain ⟨missing, hmissing⟩ : ∃ missing,
      missing = List.replicate (directive.width.getD 0 - (1 + text.length))
        directive.paddingChar := ⟨_, rfl⟩
  have hfilling : ∀ char ∈ missing, char = directive.paddingChar := by
    rw [hmissing]
    exact fun _ ↦ List.eq_of_mem_replicate
  unfold padded
  dsimp only [List.length_singleton]
  rw [paddingText_eq, ← hmissing]
  split
  · exact ⟨[], [], missing, by simpa using hfilling, fun sign ↦ rfl⟩
  · split
    · exact ⟨[], missing, [], by simpa using hfilling, fun sign ↦ (List.append_nil _).symm⟩
    · refine ⟨missing, [], [], by simpa using hfilling, fun sign ↦ ?_⟩
      rw [List.append_assoc, List.append_nil]
      rfl

variable {directive : Directive} {number : Binary64}

/-- A JSON text is not signed. -/
theorem ne_json_of_isSigned (hsigned : directive.conversion.isSigned = true) :
    directive.conversion ≠ .json := by
  intro hjson
  rw [hjson] at hsigned
  cases hsigned

section Format

variable [Json.Writer] (hsigned : directive.conversion.isSigned = true) {whole text : List Char}

include hsigned

/-- A number that is not below zero has a plus sign if the directive asks for a sign. -/
theorem format_abs (hnan : number.isNaN = false)
    (htext : directive.conversion.textOf directive.precision (.number number.abs) =
      .ok (String.ofList text)) (hunsigned : IsUnsigned text) :
    directive.format (.number number.abs) = .ok (String.ofList
      (directive.padded (if directive.forceSign then ['+'] else []) text)) := by
  rw [format_number_of_textOf (ne_json_of_isSigned hsigned) htext, String.toList_ofList]
  unfold signed
  dsimp only [Value.toNumber]
  rw [Binary64.isAtLeastZero_abs hnan, hsigned, unsignedText_eq_self hunsigned]
  cases directive.forceSign with
  | true => rfl
  | false => rfl

/-- A number below zero has a minus sign, and behind it what is left of its text. -/
theorem format_abs_neg (hzero : number.isZero = false)
    (htext : directive.conversion.textOf directive.precision (.number number.abs.neg) =
      .ok (String.ofList whole)) :
    directive.format (.number number.abs.neg) =
      .ok (String.ofList (directive.padded ['-'] (unsignedText whole))) := by
  rw [format_number_of_textOf (ne_json_of_isSigned hsigned) htext, String.toList_ofList]
  unfold signed
  dsimp only [Value.toNumber]
  rw [Binary64.isAtLeastZero_abs_neg hzero, hsigned]
  rfl

end Format

/-- A number other than zero below zero and above. Without a width, a signed conversion writes a
minus sign and the same text as for the number above zero, where no sign is asked for. If a sign is
asked for, the two differ in their signs only, whatever is filled in around them. -/
theorem render_negated [Json.Writer] {directive : Directive} {number : Binary64}
    {positives negatives : List Value} {taken : Nat}
    (hsigned : directive.conversion.isSigned = true)
    (hnan : number.isNaN = false) (hzero : number.isZero = false)
    (hpositive : directive.resolve positives taken = .ok (.number number.abs))
    (hnegative : directive.resolve negatives taken = .ok (.number number.abs.neg)) :
    let bare : Directive := { directive with width := none, forceSign := false }
    ∃ text, IsUnsigned text ∧
      bare.render positives taken = .ok (String.ofList text) ∧
      (directive.withWidth none).render negatives taken = .ok (String.ofList ('-' :: text)) ∧
      (directive.forceSign = true → directive.width.getD 0 ≤ widthLimit →
        ∃ front filling back, (∀ char ∈ front ++ filling ++ back, char = directive.paddingChar) ∧
          directive.render positives taken =
            .ok (String.ofList (front ++ '+' :: (filling ++ text) ++ back)) ∧
          directive.render negatives taken =
            .ok (String.ofList (front ++ '-' :: (filling ++ text) ++ back))) := by
  intro bare
  obtain ⟨whole, text, hwhole, htext, hrest, hunsigned⟩ :=
    Conversion.exists_unsignedText_textOf hsigned directive.precision number.abs.neg
  rw [Binary64.abs_neg, Binary64.abs_abs] at htext
  refine ⟨text, hunsigned, ?_, ?_, fun hsign hwidth ↦ ?_⟩
  · have hrender : bare.render positives taken = bare.format (.number number.abs) :=
      render_of_ok (Nat.zero_le _) hpositive
    rw [hrender, @format_abs bare _ _ hsigned _ hnan htext hunsigned, padded_of_width_none rfl]
    rfl
  · have hrender : (directive.withWidth none).render negatives taken =
        (directive.withWidth none).format (.number number.abs.neg) :=
      render_of_ok (Nat.zero_le _) hnegative
    rw [hrender, @format_abs_neg (directive.withWidth none) _ _ hsigned _ hzero hwhole, hrest,
      padded_of_width_none rfl]
    rfl
  · obtain ⟨front, filling, back, hfilling, hpadded⟩ := exists_padded_eq directive text
    refine ⟨front, filling, back, hfilling, ?_, ?_⟩
    · rw [render_of_ok hwidth hpositive, format_abs hsigned hnan htext hunsigned, if_pos hsign,
        hpadded]
    · rw [render_of_ok hwidth hnegative, format_abs_neg hsigned hzero hwhole, hrest, hpadded]

/-- Minus one half has no integer part, and the sign of the number stands in front of a zero. -/
theorem render_negated_half :
    letI := Json.Writer.shortest
    let directive : Directive := ⟨.next, true, some .zero, false, some 5, none, .decimal⟩
    let half : Binary64 := .finite true ⟨4503599627370496, -53, by decide⟩
    let positives : List Value := [.number half.abs]
    let negatives : List Value := [.number half.abs.neg]
    directive.conversion.isSigned = true ∧ half.isNaN = false ∧ half.isZero = false ∧
      directive.resolve positives 0 = .ok (.number half.abs) ∧
      directive.resolve negatives 0 = .ok (.number half.abs.neg) ∧
      (directive.withWidth none).render negatives 0 = .ok "-0" ∧
      ∃ front filling back, (∀ char ∈ front ++ filling ++ back, char = '0') ∧
        directive.render positives 0 =
          .ok (String.ofList (front ++ '+' :: (filling ++ ['0']) ++ back)) ∧
        directive.render negatives 0 =
          .ok (String.ofList (front ++ '-' :: (filling ++ ['0']) ++ back)) := by
  intro directive half positives negatives
  let := Json.Writer.shortest
  have hzero : half.isZero = false := by decide
  obtain ⟨text, -, hbare, hnegative, hsigned⟩ :=
    @render_negated _ directive half positives negatives 0 rfl rfl hzero rfl rfl
  have htext : ['0'] = text := by
    have hplain : Directive.render ⟨.next, false, some .zero, false, none, none, .decimal⟩
        positives 0 = .ok (String.ofList ['0']) := by decide +kernel
    exact String.ofList_injective (Except.ok.inj (hplain.symm.trans hbare))
  subst htext
  exact ⟨rfl, rfl, hzero, rfl, rfl, hnegative, hsigned rfl (by decide)⟩

end Directive

end Numbering
