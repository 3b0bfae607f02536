import Numbering.Proofs.Numeral.Radix
import Numbering.Proofs.Numeral.RoundedSums

/-!
# Texts of integers

What the digits of an integer denote is rounded to the nearest number once by the readers of
decimals, and at every digit by the readers of digits. These read the same number as long as the
sums of the digits are the nearest numbers, and only then (`Numeral.read_integer_texts`).
-/

namespace Numbering

open Digits Literal

namespace Numeral

/-- A character with a value in base ten is a digit of this value. -/
theorem isDigit_of_value? {digit : Nat} {char : Char} (hvalue : value? 10 char = some digit) :
    IsDigit char ∧ decimalValue char = digit := by
  have hcode := toNat_of_value? hvalue
  have hsmall := lt_of_value? hvalue
  unfold value? at hvalue
  dsimp only at hvalue
  rw [isDigit_iff_toNat, decimalValue]
  have hfound := (Option.filter_eq_some_iff.1 hvalue).1
  split at hfound
  · cases hfound
    exact ⟨‹_›, rfl⟩
  · split at hfound
    · cases hfound
      omega
    · split at hfound
      · cases hfound
        omega
      · cases hfound

/-! ## Decimals -/

/-- A plus sign in front of a digit changes nothing. -/
theorem read_plus {first : Char} {rest : List Char} (hfirst : IsDigit first)
    (hchars : ∀ char ∈ first :: rest, IsLiteralChar char) :
    readDecimal ('+' :: first :: rest) = readDecimal (first :: rest) ∧
      readNumber ('+' :: first :: rest) = readNumber (first :: rest) := by
  have hscan : scan? ('+' :: first :: rest) = scan? (first :: rest) := by
    unfold scan?
    rw [takeSign_of_ne (hfirst.ne (by decide)) (hfirst.ne (by decide))]
    rfl
  have hplus : ∀ char ∈ '+' :: first :: rest, IsLiteralChar char :=
    List.forall_mem_cons.2 ⟨by decide, hchars⟩
  constructor
  · unfold readDecimal
    rw [Text.trimStart_eq_self fun char hchar ↦ (hplus char hchar).isBlank_eq_false,
      Text.trimStart_eq_self fun char hchar ↦ (hchars char hchar).isBlank_eq_false, hscan]
  · rw [readNumber_eq_read? (by simp) hplus, readNumber_eq_read? (by simp) hchars, read?, read?,
      hscan]

section Decimal

variable {run : List Char} {digits : List Nat} (hrun : IsDigitText 10 run digits)

include hrun

/-- A run of decimal digits has the value of the digits. -/
theorem decimalNat_digits : decimalNat run = toNat 10 digits := by
  rw [decimalNat]
  congr 1
  induction hrun with
  | nil => rfl
  | cons hvalue _ ih => rw [List.map_cons, (isDigit_of_value? hvalue).2, ih]

/-- A run in base ten consists of digits. -/
theorem isDigit_of_mem_digits : ∀ char ∈ run, IsDigit char := by
  intro char hchar
  obtain ⟨digit, hvalue⟩ := hrun.exists_value? char hchar
  exact (isDigit_of_value? hvalue).1

variable (hne : digits ≠ [])

include hne

/-- Decimal digits are a literal for the number that they denote. -/
theorem denotes_digits : Denotes run (toNat 10 digits) := by
  have hnonempty : run ++ [] ≠ [] := by
    cases hrun with
    | nil => exact absurd rfl hne
    | cons _ _ => simp
  have hspelling := Spelling.intro (isDigit_of_mem_digits hrun) .absent hnonempty .absent
  rw [List.append_nil, List.append_nil, decimalNat_digits hrun] at hspelling
  refine ⟨_, _, hspelling, ?_⟩
  rw [List.length_nil, Nat.cast_zero, sub_zero, powerOfTen_eq, zpow_zero, mul_one]

variable {sign : List Char} {negative : Bool} (hsign : IsSign sign negative)

include hsign

/-- The readers of decimals round what the digits denote, once. -/
theorem readDecimal_digits :
    readDecimal (sign ++ run) = Binary64.ofMagnitude negative (toNat 10 digits) ∧
      readNumber (sign ++ run) = Binary64.ofMagnitude negative (toNat 10 digits) := by
  have htext := denotes_digits hrun hne
  have hdecimal := readDecimal_of_denotes htext
  have hnumber := readNumber_of_denotes htext
  cases hsign with
  | absent => exact ⟨hdecimal false, hnumber false⟩
  | minus => exact ⟨hdecimal true, hnumber true⟩
  | plus =>
      have hchars := isDigit_of_mem_digits hrun
      obtain ⟨first, others, rfl⟩ : ∃ first others, run = first :: others := by
        cases hrun with
        | nil => exact absurd rfl hne
        | cons _ _ => exact ⟨_, _, rfl⟩
      obtain ⟨hplus, hplus'⟩ := read_plus (hchars first (by simp))
        fun char hchar ↦ .inl (hchars char hchar)
      exact ⟨hplus.trans (hdecimal false), hplus'.trans (hnumber false)⟩

end Decimal

/-! ## All readers -/

/-- A number with a sign is the nearest number when it is so without the sign. -/
theorem withSign_eq_iff (negative : Bool) (number : Binary64) (value : Nat) :
    withSign negative number = Binary64.ofMagnitude negative value ↔ number = .ofNat value := by
  rw [← withSign_ofMagnitude, ← Binary64.ofNat_eq_ofMagnitude]
  cases negative with
  | true => exact (Function.LeftInverse.injective Binary64.neg_neg).eq_iff
  | false => exact Iff.rfl

/-- Digits behind blanks and a sign, and before other characters. As decimal digits they are rounded
once by the readers of decimals, and up to `2 ^ 54 + 8` the readers of integers agree with these.
The digits of the other bases are rounded at every digit, and the nearest number is read exactly if
they drop nothing that decides a tie, or are too large for any finite number. -/
theorem read_integer_texts {base : Nat} {blanks sign run rest : List Char} {negative : Bool}
    {digits : List Nat} (hblanks : ∀ char ∈ blanks, Text.isBlank char = true)
    (hsign : IsSign sign negative) (hne : digits ≠ []) (hrun : IsDigitText base run digits)
    (hstop : ∀ char ∈ rest.head?, value? base char = none) :
    let nearest := Binary64.ofMagnitude negative (toNat base digits)
    (base = 10 →
      readDecimal (sign ++ run) = nearest ∧ readNumber (sign ++ run) = nearest ∧
        (toNat base digits < 2 ^ 54 + 9 →
          readInteger (blanks ++ (sign ++ (run ++ rest))) = nearest ∧
            ((run ++ rest).take 2 ≠ ['0', 'x'] ∧ (run ++ rest).take 2 ≠ ['0', 'X'] →
              readIntegerOrHex (blanks ++ (sign ++ (run ++ rest))) = nearest))) ∧
    (base = 16 → ∀ letter, letter = 'x' ∨ letter = 'X' →
      (readIntegerOrHex (blanks ++ (sign ++ '0' :: letter :: (run ++ rest))) = nearest ↔
        (toNat base digits < 2 ^ 1024 → ¬DropsTie base digits))) ∧
    ∀ letter,
      (letter, base) ∈ [('x', 16), ('X', 16), ('o', 8), ('O', 8), ('b', 2), ('B', 2)] →
      ∀ back : List Char, (∀ char ∈ back, Text.isBlank char = true) →
        (readNumber (blanks ++ ('0' :: letter :: run ++ back)) =
            Binary64.ofMagnitude false (toNat base digits) ↔
          (toNat base digits < 2 ^ 1024 → ¬DropsTie base digits)) := by
  intro nearest
  refine ⟨?_, ?_, ?_⟩
  · rintro rfl
    obtain ⟨hdecimal, hnumber⟩ := readDecimal_digits hrun hne hsign
    refine ⟨hdecimal, hnumber, fun hvalue ↦ ?_⟩
    have hsum : withSign negative (accumulate 10 digits) = nearest :=
      (withSign_eq_iff _ _ _).2 (accumulate_decimal hne hrun.lt hvalue)
    rw [readInteger_digits hblanks hsign hne hrun hstop]
    refine ⟨hsum, fun hmark ↦ ?_⟩
    rwa [readIntegerOrHex_decimal hblanks hsign hne hrun hstop hmark]
  · rintro rfl letter hletter
    rw [readIntegerOrHex_hex hblanks hsign hletter hrun hstop, withSign_eq_iff]
    exact accumulate_eq_ofNat_iff (by decide : 4 ≤ 53) hne hrun.lt
  · intro letter hletter back hback
    obtain ⟨places, hplaces, rfl⟩ : ∃ places ≤ 53, base = 2 ^ places := by
      simp only [List.mem_cons, List.not_mem_nil, or_false, Prod.mk.injEq] at hletter
      rcases hletter with ⟨-, h⟩ | ⟨-, h⟩ | ⟨-, h⟩ | ⟨-, h⟩ | ⟨-, h⟩ | ⟨-, h⟩
      · exact ⟨4, by decide, h⟩
      · exact ⟨4, by decide, h⟩
      · exact ⟨3, by decide, h⟩
      · exact ⟨3, by decide, h⟩
      · exact ⟨1, by decide, h⟩
      · exact ⟨1, by decide, h⟩
    rw [readNumber_letter hblanks hletter hrun hback, ← Binary64.ofNat_eq_ofMagnitude]
    exact accumulate_eq_ofNat_iff hplaces hne hrun.lt

/-- The number in front of the first one that is misread, with a sign and between other
characters. -/
theorem read_integer_texts_agreed :
    let digits := [1, 8, 0, 1, 4, 3, 9, 8, 5, 0, 9, 4, 8, 1, 9, 9, 2]
    IsSign ['-'] true ∧ IsDigitText 10 (chars digits) digits ∧ toNat 10 digits = 2 ^ 54 + 8 ∧
      readDecimal "-18014398509481992".toList = readNumber "-18014398509481992".toList ∧
      readInteger "\t -18014398509481992px".toList = readDecimal "-18014398509481992".toList := by
  intro digits
  have hsign : IsSign ['-'] true := .minus
  have hrun : IsDigitText 10 (chars digits) digits := isDigitText_map fun digit hdigit ↦
    value?_character ((by decide : ∀ digit ∈ digits, digit < 10) digit hdigit) (by decide)
  have hvalue : toNat 10 digits = 2 ^ 54 + 8 := by decide
  have hblanks : ∀ char ∈ ['\t', ' '], Text.isBlank char = true :=
    List.forall_mem_cons.2 ⟨by decide, List.forall_mem_singleton.2 (by decide)⟩
  have hstop : ∀ char ∈ ['p', 'x'].head?, value? 10 char = none := by
    intro char hchar
    cases hchar
    decide
  obtain ⟨hdecimal, hnumber, hinteger⟩ :=
    (read_integer_texts hblanks hsign (by decide) hrun hstop).1 rfl
  exact ⟨hsign, hrun, hvalue, hdecimal.trans hnumber.symm,
    (hinteger (by decide)).1.trans hdecimal.symm⟩

/-- The decimal digits of `2 ^ 54 + 9` are read as the number above the nearest one, and in base 16
a one far behind a tie is not seen. -/
theorem readInteger_misread :
    readInteger "18014398509481993".toList ≠ readDecimal "18014398509481993".toList ∧
      readInteger "18014398509481993".toList ≠ Binary64.ofMagnitude false 18014398509481993 ∧
      readIntegerOrHex "0x200000000000011".toList ≠
        Binary64.ofMagnitude false 0x200000000000011 := by
  decide +kernel

end Numeral

end Numbering
