import Numbering.Numeral.Text
import Numbering.Proofs.Numeral.Reading

/-!
# Number texts read back

Every layout of an expansion is a decimal literal that denotes the same number
(`Numeral.denotes_layout`, `Numeral.denotes_scientific`), and the shortest expansion of a number
rounds to it. So both shortest texts of a number are read back as the number, by either reader
(`Numeral.read_shortest_texts`); only the sign of a zero, which no text shows, is lost.
-/

namespace Numbering

open Digits Literal

namespace Decimal

/-- Zeros in front of an expansion move its point. -/
theorem toRat_zeros_append (digits : List Nat) (point : Int) (count : Nat) :
    toRat ⟨List.replicate count 0 ++ digits, point + count⟩ = toRat ⟨digits, point⟩ := by
  have hplaces : point + count - (List.replicate count 0 ++ digits).length =
      point - digits.length := by
    rw [List.length_append, List.length_replicate]
    omega
  unfold toRat
  dsimp only
  rw [hplaces, toNat_append, toNat_zeros, Nat.zero_mul, Nat.zero_add]

end Decimal

namespace Numeral

/-! ## Layouts -/

/-- The characters of digits come one after the other. -/
theorem chars_append (front back : List Nat) : chars (front ++ back) = chars front ++ chars back :=
  List.map_append

/-- The characters of zeros are zeros. -/
theorem chars_zeros (count : Nat) : chars (List.replicate count 0) = zeros count :=
  List.map_replicate

/-- Zeros are below ten. -/
theorem lt_of_mem_zeros (count : Nat) : ∀ digit ∈ List.replicate count 0, digit < 10 := by
  intro digit hdigit
  rw [List.eq_of_mem_replicate hdigit]
  decide

/-- The exponent part spells the exponent. -/
theorem exponentSpelling_exponentPart (exponent : Int) :
    ExponentSpelling exponent (exponentPart exponent) := by
  cases exponent with
  | ofNat exponent =>
      have hspelling := ExponentSpelling.plus (Or.inl rfl : 'e' = 'e' ∨ 'e' = 'E')
        (isRun_numeral exponent)
      rwa [decimalNat_numeral] at hspelling
  | negSucc exponent =>
      have hspelling := ExponentSpelling.minus (Or.inl rfl : 'e' = 'e' ∨ 'e' = 'E')
        (isRun_numeral (exponent + 1))
      rwa [decimalNat_numeral] at hspelling

section Layout

variable {digits : List Nat} (hne : digits ≠ []) (hdigits : ∀ digit ∈ digits, digit < 10)

include hne hdigits

/-- The digits of an expansion are a literal for it when the point and the exponent make up its
point. -/
theorem denotes_of_chars (place : Int) {whole fraction point mark : List Char} {exponent : Int}
    (hchars : whole ++ fraction = chars digits) (hpoint : FractionSpelling fraction point)
    (hmark : ExponentSpelling exponent mark)
    (hplace : exponent - fraction.length = place - digits.length) :
    Denotes (whole ++ point ++ mark) (Decimal.toRat ⟨digits, place⟩) := by
  have hwhole : ∀ char ∈ whole, IsDigit char := fun char hchar ↦
    isDigit_of_mem_chars hdigits (hchars ▸ List.mem_append_left fraction hchar)
  have hsome : whole ++ fraction ≠ [] := by
    rw [hchars]
    exact fun hnil ↦ hne (List.map_eq_nil_iff.1 hnil)
  refine ⟨_, _, .intro hwhole hpoint hsome hmark, ?_⟩
  rw [hchars, hplace, decimalNat_chars hdigits]
  rfl

/-- Digits without a point, followed by zeros. -/
theorem denotes_whole {place : Int} (hplace : (digits.length : Int) ≤ place) :
    Denotes (chars digits ++ zeros (place.toNat - digits.length))
      (Decimal.toRat ⟨digits, place⟩) := by
  -- The zeros are digits as well, so that the point stands behind the last one.
  have hfilled : ∀ digit ∈ digits ++ List.replicate (place.toNat - digits.length) 0,
      digit < 10 := List.forall_mem_append.2 ⟨hdigits, lt_of_mem_zeros _⟩
  have hdenotes := denotes_of_chars (List.append_ne_nil_of_left_ne_nil hne _) hfilled place
    (List.append_nil _) .absent .absent (by simp; omega)
  rw [Decimal.toRat_append_zeros, chars_append, chars_zeros] at hdenotes
  simpa using hdenotes

/-- Digits with a point among them. -/
theorem denotes_inner {place : Int} (hpos : 0 < place) (hplace : place < digits.length) :
    Denotes ((chars digits).take place.toNat ++ '.' :: (chars digits).drop place.toNat)
      (Decimal.toRat ⟨digits, place⟩) := by
  have hfraction : ∀ char ∈ (chars digits).drop place.toNat, IsDigit char :=
    fun char hchar ↦ isDigit_of_mem_chars hdigits (List.mem_of_mem_drop hchar)
  have hlength : ((chars digits).drop place.toNat).length = digits.length - place.toNat := by
    rw [List.length_drop, chars, List.length_map]
  have hdenotes := denotes_of_chars hne hdigits place (List.take_append_drop _ _)
    (.point hfraction) .absent (by rw [hlength]; omega)
  rwa [List.append_nil] at hdenotes

/-- A zero, a point and zeros in front of the digits. -/
theorem denotes_small {place : Int} (hplace : place ≤ 0) :
    Denotes ('0' :: '.' :: zeros (-place).toNat ++ chars digits)
      (Decimal.toRat ⟨digits, place⟩) := by
  have hfilled : ∀ digit ∈ List.replicate ((-place).toNat + 1) 0 ++ digits, digit < 10 :=
    List.forall_mem_append.2 ⟨lt_of_mem_zeros _, hdigits⟩
  have hfraction : ∀ char ∈ zeros (-place).toNat ++ chars digits, IsDigit char := by
    rw [← chars_zeros, ← chars_append]
    exact fun _ ↦ isDigit_of_mem_chars (List.forall_mem_append.2 ⟨lt_of_mem_zeros _, hdigits⟩)
  have hchars : ['0'] ++ (zeros (-place).toNat ++ chars digits) =
      chars (List.replicate ((-place).toNat + 1) 0 ++ digits) := by
    rw [chars_append, chars_zeros]
    rfl
  have hdenotes := denotes_of_chars (List.append_ne_nil_of_right_ne_nil _ hne) hfilled
    (place + ((-place).toNat + 1 : Nat)) hchars (.point hfraction) .absent
    (by simp [zeros, chars]; omega)
  rwa [List.append_nil, Decimal.toRat_zeros_append] at hdenotes

/-- Digits with an exponent, and a point after the first one if there are more. -/
theorem denotes_scientific (place : Int) :
    Denotes (scientific (chars digits) (place - 1)) (Decimal.toRat ⟨digits, place⟩) := by
  have hmark := exponentSpelling_exponentPart (place - 1)
  cases digits with
  | nil => exact absurd rfl hne
  | cons first others =>
      cases others with
      | nil =>
          have hdenotes := denotes_of_chars hne hdigits place (List.append_nil _)
            .absent hmark (by simp)
          rwa [List.append_nil] at hdenotes
      | cons second others =>
          have hfraction : ∀ char ∈ chars (second :: others), IsDigit char := fun char hchar ↦
            isDigit_of_mem_chars hdigits (List.mem_cons_of_mem _ hchar)
          have hlength : ((second :: others).map character).length = others.length + 1 := by simp
          exact denotes_of_chars hne hdigits place List.singleton_append (.point hfraction) hmark
            (by rw [hlength]; simp; omega)

end Layout

/-- The layout of an expansion denotes it. -/
theorem denotes_layout {decimal : Decimal} (hne : decimal.digits ≠ [])
    (hdigits : ∀ digit ∈ decimal.digits, digit < 10) : Denotes (layout decimal) decimal.toRat := by
  have hlength : (chars decimal.digits).length = decimal.digits.length := List.length_map _
  unfold layout
  dsimp only
  rw [hlength]
  split
  · rename_i hwhole
    exact denotes_whole hne hdigits hwhole.1
  · rename_i hnotWhole
    split
    · rename_i hinner
      exact denotes_inner hne hdigits hinner.1 (by omega)
    · split
      · rename_i hsmall
        exact denotes_small hne hdigits hsmall.2
      · exact denotes_scientific hne hdigits decimal.point

/-! ## Reading back -/

/-- A number other than zero has its sign in front. -/
theorem sign_finite {magnitude : Magnitude} (hsignificand : magnitude.significand ≠ 0)
    (negative : Bool) : sign (.finite negative magnitude) = signText negative := by
  have hbelow : (Binary64.finite negative magnitude).isBelowZero = negative := by
    simp [Binary64.isBelowZero, hsignificand]
  rw [sign, hbelow, signText]

/-- A zero has no sign in front. -/
theorem sign_zero {magnitude : Magnitude} (hsignificand : magnitude.significand = 0)
    (negative : Bool) : sign (.finite negative magnitude) = [] := by
  simp [sign, Binary64.isBelowZero, hsignificand]

/-- A text that denotes the shortest expansion of a magnitude is read back as the magnitude. -/
theorem ofMagnitude_shortestDigits (negative : Bool) (magnitude : Magnitude) :
    Binary64.ofMagnitude negative (shortestDigits magnitude).toRat =
      .finite negative magnitude := by
  unfold Binary64.ofMagnitude shortestDigits
  rw [Decimal.roundMagnitude?_shortest]

/-- The plain text of a finite number other than zero. -/
theorem plain_finite {magnitude : Magnitude} (hsignificand : magnitude.significand ≠ 0)
    (negative : Bool) :
    plain (.finite negative magnitude) =
      signText negative ++ layout (shortestDigits magnitude) := by
  unfold plain
  dsimp only
  rw [if_neg hsignificand, sign_finite hsignificand]

/-- The shortest text with an exponent of a finite number other than zero. -/
theorem shortestExponential_finite {magnitude : Magnitude}
    (hsignificand : magnitude.significand ≠ 0) (negative : Bool) :
    shortestExponential (.finite negative magnitude) =
      signText negative ++ scientific (chars (shortestDigits magnitude).digits)
        ((shortestDigits magnitude).point - 1) := by
  unfold shortestExponential
  dsimp only
  rw [if_neg hsignificand, sign_finite hsignificand]

/-- Zero is written without a sign, as a literal that denotes it. -/
theorem denotes_zero : Denotes ['0'] 0 ∧ Denotes (scientific ['0'] 0) 0 := by
  have hvalue : Decimal.toRat ⟨[0], 1⟩ = 0 := zero_mul _
  have hdigits : ∀ digit ∈ [0], digit < 10 := by decide
  have hwhole := denotes_whole (List.cons_ne_nil 0 []) hdigits (Int.le_refl 1)
  have hscientific := denotes_scientific (List.cons_ne_nil 0 []) hdigits 1
  rw [hvalue] at hwhole hscientific
  exact ⟨hwhole, hscientific⟩

end Numeral

/-- The number with positive zero in the place of negative zero. -/
def Binary64.withoutZeroSign (number : Binary64) : Binary64 :=
  if number.isZero then .zero else number

/-- A zero is one of the two zeros. -/
theorem Binary64.exists_signedZero_of_isZero {number : Binary64} (hzero : number.isZero = true) :
    ∃ negative, number = signedZero negative := by
  cases number with
  | nan => cases hzero
  | infinity negative => cases hzero
  | finite negative magnitude =>
      exact ⟨negative, congrArg _ (Magnitude.eq_zero (of_decide_eq_true hzero))⟩

/-- A number other than zero keeps its sign. -/
theorem Binary64.withoutZeroSign_finite {magnitude : Magnitude}
    (hsignificand : magnitude.significand ≠ 0) (negative : Bool) :
    (finite negative magnitude).withoutZeroSign = .finite negative magnitude :=
  if_neg (by simpa [isZero] using hsignificand)

/-- A number is read back from its plain text and from its shortest text with an exponent, by the
reader of whole texts and by the one of front parts. NaN and the infinities come back as they are,
and either zero as positive zero. -/
theorem Numeral.read_shortest_texts (number : Binary64) :
    readNumber (plain number) = number.withoutZeroSign ∧
      readDecimal (plain number) = number.withoutZeroSign ∧
      readNumber (shortestExponential number) = number.withoutZeroSign ∧
      readDecimal (shortestExponential number) = number.withoutZeroSign := by
  cases number with
  | nan => decide
  | infinity negative => cases negative <;> decide
  | finite negative magnitude =>
      by_cases hsignificand : magnitude.significand = 0
      · have hzero : (Binary64.finite negative magnitude).withoutZeroSign =
            Binary64.ofMagnitude false 0 := if_pos (by simpa [Binary64.isZero] using hsignificand)
        have hplain : plain (.finite negative magnitude) = ['0'] := if_pos hsignificand
        have hexponential : shortestExponential (.finite negative magnitude) =
            scientific ['0'] 0 := if_pos hsignificand
        obtain ⟨hdenotes, hscientific⟩ := denotes_zero
        rw [hzero, hplain, hexponential]
        exact ⟨readNumber_of_denotes hdenotes false, readDecimal_of_denotes hdenotes false,
          readNumber_of_denotes hscientific false, readDecimal_of_denotes hscientific false⟩
      · have hsame : (Binary64.finite negative magnitude).withoutZeroSign =
            Binary64.ofMagnitude negative (shortestDigits magnitude).toRat := by
          rw [ofMagnitude_shortestDigits]
          exact if_neg (by simpa [Binary64.isZero] using hsignificand)
        have hne : (shortestDigits magnitude).digits ≠ [] :=
          Decimal.digits_shortest_ne_nil hsignificand
        have hdigits : ∀ digit ∈ (shortestDigits magnitude).digits, digit < 10 :=
          fun _ ↦ Decimal.lt_of_mem_digits_shortest
        have hdenotes := denotes_layout hne hdigits
        have hscientific := denotes_scientific hne hdigits (shortestDigits magnitude).point
        rw [hsame, plain_finite hsignificand, shortestExponential_finite hsignificand]
        exact ⟨readNumber_of_denotes hdenotes negative, readDecimal_of_denotes hdenotes negative,
          readNumber_of_denotes hscientific negative, readDecimal_of_denotes hscientific negative⟩

end Numbering
