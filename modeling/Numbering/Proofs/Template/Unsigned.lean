import Numbering.Proofs.Binary64.Wrapping
import Numbering.Proofs.Numeral.Integers
import Numbering.Proofs.Template.Padding
import Numbering.Proofs.Template.Rendering
import Numbering.Template.Parsing

/-!
# Numbers without a sign

The unsigned conversion writes the residue of the integer part of a number modulo `2 ^ 32`, as a
numeral that is below that (`Directive.format_unsigned`). The residues modulo `2 ^ 32` and `2 ^ 16`
are exact for numbers of any size and agree with each other (`Binary64.unsigned_modular`).
-/

namespace Numbering

namespace Binary64

/-- The residue of the integer part of a number modulo `2 ^ 32`. -/
def word (number : Binary64) : Binary64 := number.wrap (.ofNat 4294967296)

/-- The residue of the integer part of a number modulo `2 ^ 16`. -/
def halfWord (number : Binary64) : Binary64 := number.wrap (.ofNat 65536)

/-- A word is the residue of the integer part by `2 ^ 32`. -/
theorem hasValue_word (number : Binary64) : number.word.HasValue (number.toInt % 4294967296) :=
  hasValue_wrap (by decide) (by decide) number

/-- A half word is the residue of the integer part by `2 ^ 16`. -/
theorem hasValue_halfWord (number : Binary64) : number.halfWord.HasValue (number.toInt % 65536) :=
  hasValue_wrap (by decide) (by decide) number

/-- The integer part of the negated number is the negated one. -/
theorem toInt_neg (number : Binary64) : number.neg.toInt = -number.toInt := by
  cases number with
  | nan => rfl
  | infinity negative => rfl
  | finite negative magnitude =>
      cases negative with
      | true => exact (Int.neg_neg _).symm
      | false => rfl

/-- What is not finite wraps to zero. -/
theorem wrap_of_isFinite_eq_false {number : Binary64} (hnumber : number.isFinite = false)
    (modulus : Binary64) : number.wrap modulus = .zero := by
  rw [wrap, if_neg (by simp [hnumber])]

/-- The residue of a residue by a multiple is the residue. -/
theorem halfWord_word_equals (number : Binary64) :
    number.word.halfWord.equals number.halfWord = true := by
  have hagain := hasValue_halfWord number.word
  rw [(hasValue_word number).toInt, Int.emod_emod_of_dvd _ (by decide)] at hagain
  exact hagain.equals (hasValue_halfWord number)

/-- The residues of a number and of its opposite make up the modulus, or both are zero. -/
theorem hasValue_word_add_word_neg (number : Binary64) :
    (number.word.add number.neg.word).HasValue 0 ∨
      (number.word.add number.neg.word).HasValue 4294967296 := by
  have hopposite := hasValue_word number.neg
  rw [toInt_neg] at hopposite
  have hsum := (hasValue_word number).add hopposite (by omega)
  rcases (by omega : number.toInt % 4294967296 + -number.toInt % 4294967296 = 0 ∨
      number.toInt % 4294967296 + -number.toInt % 4294967296 = 4294967296) with hzero | hfull
  · exact .inl (hzero ▸ hsum)
  · exact .inr (hfull ▸ hsum)

end Binary64

/-! ## The unsigned conversion -/

/-- The residue modulo `2 ^ 32` of the integer part of a number, as a natural number. -/
def Binary64.wordCount (number : Binary64) : Nat := (number.toInt % 4294967296).toNat

/-- The count of a word is the residue of the integer part by `2 ^ 32`. -/
theorem Binary64.natCast_wordCount (number : Binary64) :
    (number.wordCount : Int) = number.toInt % 4294967296 :=
  Int.toNat_of_nonneg (Int.emod_nonneg _ (by decide))

/-- The integer part of a number has the residue of the number. -/
theorem Binary64.hasValue_word_integerArgument (number : Binary64) :
    (Value.number number).integerArgument.word.HasValue number.wordCount := by
  have hinteger : (Value.number number).integerArgument.toInt = number.toInt := by
    rw [Value.integerArgument]
    split
    · rename_i hfinite
      exact (hasValue_truncate hfinite).toInt
    · rename_i hinfinite
      cases number with
      | finite negative magnitude => exact absurd rfl hinfinite
      | _ => rfl
  rw [natCast_wordCount, ← hinteger]
  exact hasValue_word _

/-- The unsigned conversion writes the numeral of the residue. -/
theorem Conversion.textOf_unsigned [Json.Writer] (precision : Option Nat) (number : Binary64) :
    unsigned.textOf precision (.number number) = .ok (Digits.text number.wordCount) := by
  have hvalue := number.hasValue_word_integerArgument
  have hsmall : number.wordCount ≤ 2 ^ 53 := by
    unfold Binary64.wordCount
    omega
  show Except.ok (String.ofList (Numeral.plain (Value.number number).integerArgument.word)) = _
  rw [Numeral.plain_of_hasValue hvalue (by simpa using hsmall), Digits.toList_toString,
    if_neg (by omega), Int.natAbs_natCast]
  rfl

/-- A directive writes no sign in front of an unsigned number. -/
theorem Directive.format_unsigned [Json.Writer] {directive : Directive}
    (hconversion : directive.conversion = .unsigned) (number : Binary64) :
    directive.format (.number number) =
      .ok (String.ofList (directive.padded [] (Digits.numeral number.wordCount))) := by
  have hsigned : directive.conversion.isSigned = false := by rw [hconversion]; rfl
  have htext : directive.conversion.textOf directive.precision (.number number) =
      .ok (Digits.text number.wordCount) := by rw [hconversion, Conversion.textOf_unsigned]
  rw [format_number_of_not_isSigned hsigned (by rw [hconversion]; decide) htext, Digits.text,
    String.toList_ofList]

/-- The directive `%u` takes the next argument and fills up with nothing. -/
def Directive.unsigned : Directive := ⟨.next, false, none, false, none, none, .unsigned⟩

/-- The template `%u`. -/
def Template.unsigned : Template := ⟨"%u", [.directive .unsigned]⟩

/-- The template `%u` is read. -/
theorem Template.parse_unsigned : Template.parse "%u" = .ok .unsigned := by decide +kernel

/-- The template `%u` writes nothing but the numeral. -/
theorem Template.render_unsigned [Json.Writer] (number : Binary64) :
    Template.unsigned.render [.number number] = .ok (Digits.text number.wordCount) := by
  refine render_of_format rfl rfl rfl ?_
  rw [Directive.format_unsigned rfl, Directive.padded_of_width_none rfl, List.nil_append]
  rfl

/-- Reducing modulo `2 ^ 32` and `2 ^ 16` gives the residues of the integer part of a finite number
of any size, and zero for the other numbers. So both agree modulo `2 ^ 16`, the residues of a number
and its opposite sum up to zero or to `2 ^ 32`, and the unsigned conversion writes the numeral of
the first residue, with filling at most. -/
theorem Binary64.unsigned_modular [Json.Writer] :
    (∀ number : Binary64, number.isFinite = true →
      number.word.HasValue (towardZero number.toRat % 4294967296) ∧
        number.halfWord.HasValue (towardZero number.toRat % 65536)) ∧
    (∀ number : Binary64, number.isFinite = false →
      number.word = .zero ∧ number.halfWord = .zero) ∧
    (∀ number : Binary64, number.word.halfWord.equals number.halfWord = true) ∧
    (∀ number : Binary64, (number.word.add number.neg.word).HasValue 0 ∨
      (number.word.add number.neg.word).HasValue 4294967296) ∧
    ∀ number : Binary64, ∃ count : Nat, count ≤ 4294967295 ∧ number.word.HasValue count ∧
      (∃ template, Template.parse "%u" = .ok template ∧
        template.render [.number number] = .ok (Digits.text count)) ∧
      ∀ directive : Directive, directive.conversion = .unsigned →
        directive.format (.number number) =
          .ok (String.ofList (directive.padded [] (Digits.numeral count))) := by
  refine ⟨fun number _ ↦ ?_, fun number hinfinite ↦ ?_, halfWord_word_equals,
    hasValue_word_add_word_neg, fun number ↦ ?_⟩
  · rw [← toInt_eq_towardZero]
    exact ⟨hasValue_word number, hasValue_halfWord number⟩
  · exact ⟨wrap_of_isFinite_eq_false hinfinite _, wrap_of_isFinite_eq_false hinfinite _⟩
  · refine ⟨number.wordCount, ?_, ?_, ⟨.unsigned, Template.parse_unsigned,
      Template.render_unsigned number⟩, fun directive hconversion ↦
        Directive.format_unsigned hconversion number⟩
    · unfold wordCount
      omega
    · rw [natCast_wordCount]
      exact hasValue_word number

/-- The residues of `-1.5` are those of `-1`. -/
theorem Binary64.unsigned_modular_below_zero :
    letI := Json.Writer.shortest
    let number : Binary64 := .finite true ⟨6755399441055744, -52, by decide⟩
    let directive : Directive := ⟨.next, true, some .zero, false, some 12, none, .unsigned⟩
    (number.word.HasValue 4294967295 ∧ number.halfWord.HasValue 65535) ∧
      (Binary64.infinity true).word = .zero ∧
      directive.format (.number number) = .ok "004294967295" := by
  intro number directive
  let := Json.Writer.shortest
  obtain ⟨hfinite, hinfinite, -, -, hunsigned⟩ := Binary64.unsigned_modular
  have hinteger : towardZero number.toRat = -1 := by decide +kernel
  have hresidues := hfinite number rfl
  rw [hinteger] at hresidues
  refine ⟨hresidues, (hinfinite (.infinity true) rfl).1, ?_⟩
  obtain ⟨count, -, hcount, -, hformat⟩ := hunsigned number
  have hsame : (count : Int) = 4294967295 := hcount.toInt.symm.trans hresidues.1.toInt
  obtain rfl : count = 4294967295 := by omega
  rw [hformat directive rfl]
  decide +kernel

end Numbering
