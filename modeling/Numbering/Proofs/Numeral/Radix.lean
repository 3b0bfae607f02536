import Numbering.Proofs.Numeral.RadixDigits
import Numbering.Proofs.Numeral.SignedDigits

/-!
# Integers in bases that are powers of two

Dividing a representable integer by such a base again and again never rounds, so that the text of
an integer in base 2, 8 or 16 has its digits (`Numeral.radix_ofNat`). Reading these digits never
rounds either: the text is read back as the integer, over the whole range of the numbers
(`Numeral.read_radix_texts`).
-/

namespace Numbering

open Digits Literal

namespace Numeral

/-- The text of an integer in a base that is a power of two consists of its digits. -/
theorem radix_ofNat {places : Nat} (hplaces : 1 ≤ places) (hsmall : places ≤ 53) {number : Nat}
    (hnumber : IsRepresentable number) :
    radix (.ofNat number) (2 ^ places) = chars (Digits.ofNat (2 ^ places) number) := by
  obtain ⟨magnitude, hfinite, hvalue⟩ := Binary64.exists_ofNat_eq hnumber
  obtain ⟨whole, part, hfloor, hpart, htext⟩ := radix_finite
    (dividesExactly_two_pow hplaces hsmall) false magnitude fun _ _ hexact ↦ hexact
  obtain rfl : whole = number := by
    have hsame : ((number : Int) : Rat).floor = number := Rat.floor_intCast number
    rw [hvalue] at hfloor
    exact Int.ofNat.inj (hfloor.symm.trans hsame)
  rw [hvalue, sub_self] at hpart
  have hnone : fractionDigits (.ofNat (2 ^ places)) fractionDigitLimit (.finite false part) = [] :=
    if_pos (decide_eq_true (Magnitude.significand_eq_zero_iff.2 hpart))
  have hsign : sign (.finite false magnitude) = [] := rfl
  rw [hfinite, htext, hnone, if_pos rfl, List.append_nil, hsign, List.nil_append]

/-! ## Reading digits back -/

/-- A digit that is below a smaller base is read in it as well. -/
theorem value?_of_lt {base digit : Nat} {char : Char} (hvalue : value? 36 char = some digit)
    (hdigit : digit < base) : value? base char = some digit := by
  unfold value? at hvalue ⊢
  dsimp only at hvalue ⊢
  rw [Option.filter_eq_some_iff] at hvalue ⊢
  exact ⟨hvalue.1, decide_eq_true hdigit⟩

/-- The character of a digit is read as the digit. -/
def Spells (base : Nat) (spell : Nat → Char) (digit : Nat) : Prop :=
  value? base (spell digit) = some digit

variable {base digit : Nat}

/-- The character of a digit spells it. -/
theorem spells_character (hdigit : digit < base) (hbase : base ≤ 36) :
    Spells base character digit := value?_character hdigit hbase

/-- Digits may be written in capitals. -/
theorem spells_toUpper (hdigit : digit < base) (hbase : base ≤ 36) :
    Spells base (Char.toUpper ∘ character) digit := by
  have hall : ∀ d : Fin 36, value? 36 (character d).toUpper = some d.1 := by decide
  exact value?_of_lt (hall ⟨digit, hdigit.trans_le hbase⟩) hdigit

section Read

variable {number : Nat} (hnumber : IsRepresentable number)

include hnumber

/-- The digits of an integer in a base that is a power of two are read back behind its letter. -/
theorem readNumber_digits {places : Nat} (hplaces : 1 ≤ places) (hsmall : places ≤ 53)
    {letter : Char} {spell : Nat → Char}
    (hletter : (letter, 2 ^ places) ∈
      [('x', 16), ('X', 16), ('o', 8), ('O', 8), ('b', 2), ('B', 2)])
    (hspell : ∀ digit, digit < 2 ^ places → Spells (2 ^ places) spell digit) :
    readNumber ('0' :: letter :: (Digits.ofNat (2 ^ places) number).map spell) = .ofNat number := by
  have hrun : IsDigitText (2 ^ places) ((Digits.ofNat (2 ^ places) number).map spell)
      (Digits.ofNat (2 ^ places) number) := isDigitText_map fun digit hdigit ↦
    hspell digit (lt_of_mem_ofNat (Nat.le_self_pow (by omega) 2) hdigit)
  have hread := readNumber_letter (List.forall_mem_nil _) hletter hrun (List.forall_mem_nil _)
  rw [List.nil_append, List.append_nil] at hread
  exact hread.trans (accumulate_ofNat hplaces hsmall hnumber)

/-- The hexadecimal digits of an integer are read back behind a sign. -/
theorem readIntegerOrHex_digits (negative : Bool) :
    readIntegerOrHex (signText negative ++ '0' :: 'x' :: chars (Digits.ofNat 16 number)) =
      withSign negative (.ofNat number) := by
  have hrun : IsDigitText 16 (chars (Digits.ofNat 16 number)) (Digits.ofNat 16 number) :=
    isDigitText_map fun digit hdigit ↦
      spells_character (lt_of_mem_ofNat (by decide) hdigit) (by decide)
  have hend : ∀ char ∈ ([] : List Char).head?, value? 16 char = none := by simp
  have hread := readIntegerOrHex_hex (List.forall_mem_nil _) (isSign_signText negative) (.inl rfl)
    hrun hend
  rw [List.nil_append, List.append_nil] at hread
  rw [hread]
  exact congrArg (withSign negative) (accumulate_ofNat (by decide : 1 ≤ 4) (by decide) hnumber)

end Read

section Integer

variable {number : Binary64} {value : Int} (hnumber : number.HasValue value)

include hnumber

/-- An integer without its sign is a natural number. -/
theorem abs_of_hasValue :
    IsRepresentable value.natAbs ∧ number.abs = .ofNat value.natAbs ∧
      withSign number.isNegative number.abs = number := by
  obtain ⟨negative, magnitude, rfl, hmagnitude, -⟩ := hnumber.exists_finite
  refine ⟨⟨magnitude, hmagnitude⟩, ?_, ?_⟩
  · rw [Binary64.ofNat_eq_ofMagnitude, ← hmagnitude, Binary64.ofMagnitude_toRat]
    rfl
  · cases negative with
    | true => rfl
    | false => rfl

/-- The sign that is written is the one of the number, unless the number is zero. -/
theorem withSign_isBelowZero :
    withSign number.isBelowZero number.abs = number.withoutZeroSign := by
  obtain ⟨negative, magnitude, rfl, -⟩ := hnumber.exists_finite
  by_cases hsignificand : magnitude.significand = 0
  · rw [Magnitude.eq_zero hsignificand]
    cases negative with
    | true => rfl
    | false => rfl
  · have hbelow : (Binary64.finite negative magnitude).isBelowZero = negative := by
      simp [Binary64.isBelowZero, hsignificand]
    have hzero : (Binary64.finite negative magnitude).isZero = false := decide_eq_false hsignificand
    rw [hbelow, Binary64.withoutZeroSign, hzero]
    cases negative with
    | true => rfl
    | false => rfl

/-- The texts of a finite integer in base 16, 8 and 2 are read back behind the letter of their base,
in capitals as well. The hexadecimal text is read back also behind the sign of the integer, and
behind a minus sign below zero only, where negative zero comes back as positive zero. -/
theorem read_radix_texts :
    readNumber ("0x".toList ++ radix number.abs 16) = number.abs ∧
      readNumber ("0o".toList ++ radix number.abs 8) = number.abs ∧
      readNumber ("0b".toList ++ radix number.abs 2) = number.abs ∧
      readNumber ("0X".toList ++ (radix number.abs 16).map Char.toUpper) = number.abs ∧
      readIntegerOrHex (signText number.isNegative ++ "0x".toList ++ radix number.abs 16) =
        number ∧
      readIntegerOrHex (sign number ++ "0x".toList ++ radix number.abs 16) =
        number.withoutZeroSign := by
  obtain ⟨hexact, habs, hsign⟩ := abs_of_hasValue hnumber
  have hhex : radix (.ofNat value.natAbs) 16 = chars (Digits.ofNat 16 value.natAbs) :=
    radix_ofNat (by decide : 1 ≤ 4) (by decide) hexact
  have hoctal : radix (.ofNat value.natAbs) 8 = chars (Digits.ofNat 8 value.natAbs) :=
    radix_ofNat (by decide : 1 ≤ 3) (by decide) hexact
  have hbinary : radix (.ofNat value.natAbs) 2 = chars (Digits.ofNat 2 value.natAbs) :=
    radix_ofNat (by decide : 1 ≤ 1) (by decide) hexact
  have hbelow := withSign_isBelowZero hnumber
  have htext : sign number = signText number.isBelowZero := rfl
  rw [habs] at hsign hbelow ⊢
  rw [hhex, hoctal, hbinary, htext]
  refine ⟨?_, ?_, ?_, ?_, ?_, ?_⟩
  · exact readNumber_digits hexact (by decide : 1 ≤ 4) (by decide) (by decide)
      fun digit hdigit ↦ spells_character hdigit (by decide)
  · exact readNumber_digits hexact (by decide : 1 ≤ 3) (by decide) (by decide)
      fun digit hdigit ↦ spells_character hdigit (by decide)
  · exact readNumber_digits hexact (by decide : 1 ≤ 1) (by decide) (by decide)
      fun digit hdigit ↦ spells_character hdigit (by decide)
  · rw [chars, List.map_map]
    exact readNumber_digits hexact (by decide : 1 ≤ 4) (by decide) (by decide)
      fun digit hdigit ↦ spells_toUpper hdigit (by decide)
  · rw [List.append_assoc]
    exact (readIntegerOrHex_digits hexact number.isNegative).trans hsign
  · rw [List.append_assoc]
    exact (readIntegerOrHex_digits hexact number.isBelowZero).trans hbelow

end Integer

/-- The greatest number of all, below zero, in more than a thousand binary digits. -/
theorem read_radix_texts_least :
    let greatest : Binary64 := .finite true ⟨9007199254740991, 971, by decide⟩
    greatest.HasValue (-(9007199254740991 * 2 ^ 971)) ∧
      readNumber ("0b".toList ++ radix greatest.abs 2) = greatest.abs ∧
      readIntegerOrHex (signText greatest.isNegative ++ "0x".toList ++ radix greatest.abs 16) =
        greatest := by
  intro greatest
  have hvalue : greatest.HasValue (-(9007199254740991 * 2 ^ 971)) :=
    ⟨rfl, by decide +kernel⟩
  obtain ⟨-, -, hbinary, -, hhex, -⟩ := read_radix_texts hvalue
  exact ⟨hvalue, hbinary, hhex⟩

end Numeral

end Numbering
