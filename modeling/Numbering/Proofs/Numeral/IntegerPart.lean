import Numbering.Proofs.Decimal.Bounds
import Numbering.Proofs.Numeral.Integers
import Numbering.Proofs.Numeral.SignedDigits

/-!
# The integer part of a plain text

Up to `2 ^ 53` the shortest expansion of a magnitude has the same integer part as the magnitude
itself (`Decimal.floor_shortest`): rounding does not step over an integer. Laid out positionally,
an expansion starts with the digits of its integer part (`Numeral.exists_leads_layout`). So the
integer at the front of a plain text is the number without its fraction
(`Numeral.readInteger_plain`).
-/

namespace Numbering

open Digits Literal

/-- The magnitude nearest to a millionth. -/
def Magnitude.millionth : Magnitude := ⟨4722366482869645, -72, by decide⟩

/-- The magnitude nearest to a millionth. -/
theorem Magnitude.roundMagnitude?_millionth :
    Binary64.roundMagnitude? ((10 : Rat) ^ (-6 : Int)) = some .millionth := by
  decide +kernel

/-- A magnitude from a millionth on is not zero. -/
theorem Magnitude.significand_ne_zero_of_millionth_le {magnitude : Magnitude}
    (hlow : millionth.toRat ≤ magnitude.toRat) : magnitude.significand ≠ 0 := by
  intro hzero
  rw [significand_eq_zero_iff.1 hzero] at hlow
  exact hlow.not_gt (toRat_pos (by decide))

namespace Decimal

variable {magnitude : Magnitude}

/-! ## The place of the point -/

/-- The point of the shortest digits is found by comparison with the magnitude nearest to a power of
ten, if the digits of this magnitude are those of the power. -/
theorem lt_point_shortest_iff (hsignificand : magnitude.significand ≠ 0) {halfway : HalfwayRule}
    {exponent : Int} {bound : Magnitude}
    (hround : Binary64.roundMagnitude? ((10 : Rat) ^ exponent) = some bound)
    (hbound : exponent < (shortest halfway bound).point) :
    exponent < (shortest halfway magnitude).point ↔ bound.toRat ≤ magnitude.toRat := by
  have hpoint : exponent < (shortest halfway magnitude).point ↔
      (10 : Rat) ^ exponent ≤ (shortest halfway magnitude).toRat :=
    lt_point_iff (digits_shortest_ne_nil hsignificand) (head?_shortest_ne_zero hsignificand)
      fun _ ↦ lt_of_mem_digits_shortest
  have hreads := roundMagnitude?_shortest halfway magnitude
  refine ⟨fun hless ↦ ?_, fun hle ↦ ?_⟩
  · exact Binary64.toRat_le_of_roundMagnitude? (zpow_pos (by norm_num) _).le (hpoint.1 hless)
      hround hreads
  · by_contra hless
    have hbelow := not_le.1 ((not_congr hpoint).1 hless)
    have hge := Binary64.toRat_le_of_roundMagnitude? (toRat_nonneg _) hbelow.le hreads hround
    -- Nothing else than the bound itself is left.
    obtain rfl : magnitude = bound := Magnitude.toRat_injective (hge.antisymm hle)
    exact hless hbound

/-- From a millionth on, the point is at most five places in front of the digits. -/
theorem lt_point_shortest (hlow : Magnitude.millionth.toRat ≤ magnitude.toRat) :
    -6 < (shortest .up magnitude).point :=
  (lt_point_shortest_iff (Magnitude.significand_ne_zero_of_millionth_le hlow)
    Magnitude.roundMagnitude?_millionth (by decide +kernel)).2 hlow

/-- Up to `2 ^ 53`, the point is at most twenty-one places behind the first digit. -/
theorem point_shortest_le (hsignificand : magnitude.significand ≠ 0)
    (hle : magnitude.toRat ≤ 2 ^ 53) : (shortest .up magnitude).point ≤ 21 := by
  by_contra hpoint
  have hsmall : 2 ^ 54 < 2 ^ 1024 := by
    apply Nat.pow_lt_pow_right (by decide)
    decide
  have hrepresentable : IsRepresentable (2 ^ 54 : Nat) :=
    isRepresentable_natCast_iff.2 ⟨hsmall, 1, 54, by decide, by decide⟩
  have habove : ((2 ^ 54 : Nat) : Rat) ≤ (shortest .up magnitude).toRat := by
    calc ((2 ^ 54 : Nat) : Rat) ≤ (10 : Rat) ^ (21 : Int) := by norm_num
      _ ≤ 10 ^ ((shortest .up magnitude).point - 1) :=
        zpow_le_zpow_right₀ (by norm_num) (by omega)
      _ ≤ _ := zpow_le_toRat_shortest hsignificand
  have hlarge := (Binary64.le_toRat_of_roundMagnitude? hrepresentable (Nat.cast_nonneg _) habove
    (roundMagnitude?_shortest .up magnitude)).trans hle
  norm_num at hlarge

/-! ## The integer part of the shortest expansion -/

/-- The shortest expansion lies between the same integers as the magnitude. -/
theorem floor_shortest (hsignificand : magnitude.significand ≠ 0)
    (hle : magnitude.toRat ≤ 2 ^ 53) :
    (shortest .up magnitude).toRat.floor = magnitude.toRat.floor := by
  have hround := roundMagnitude?_shortest .up magnitude
  obtain ⟨number, hnumber⟩ : ∃ number : Nat, magnitude.toRat.floor = number :=
    Int.eq_ofNat_of_zero_le (Rat.le_floor_iff.2 (by exact_mod_cast magnitude.toRat_nonneg))
  have hfloor : (number : Rat) ≤ magnitude.toRat := by
    exact_mod_cast hnumber ▸ Rat.floor_le magnitude.toRat
  have hceil : magnitude.toRat < (number + 1 : Nat) := by
    exact_mod_cast hnumber ▸ Rat.lt_floor_add_one magnitude.toRat
  rcases hfloor.eq_or_lt with hinteger | hfraction
  · -- An integer is its own shortest expansion.
    have hpos : 0 < number := by
      have := Magnitude.toRat_pos hsignificand
      rw [← hinteger] at this
      exact_mod_cast this
    have hbound : number ≤ 2 ^ 53 := by
      rw [← hinteger] at hle
      exact_mod_cast hle
    have hvalue : (shortest .up magnitude).toRat = number := by
      rw [shortest_of_natCast hpos hbound hinteger.symm, toRat_dropTrailingZeros]
      exact (toRat_ofScaled number 0).trans (mul_one _)
    rw [hvalue, hinteger]
  · have hbound : number + 1 ≤ 2 ^ 53 := by
      have : (number : Rat) < (2 ^ 53 : Nat) := hfraction.trans_le (by exact_mod_cast hle)
      exact_mod_cast this
    have hlow : (number : Rat) ≤ (shortest .up magnitude).toRat := by
      by_contra hbelow
      exact hfraction.not_ge (Binary64.toRat_le_of_roundMagnitude?_of_le
        (isRepresentable_of_le (by omega)) (toRat_nonneg _) (not_le.1 hbelow).le hround)
    have hhigh : (shortest .up magnitude).toRat < (number + 1 : Nat) := by
      by_contra habove
      exact hceil.not_ge (Binary64.le_toRat_of_roundMagnitude? (isRepresentable_of_le hbound)
        (Nat.cast_nonneg _) (not_lt.1 habove) hround)
    rw [hnumber]
    exact Int.floor_eq_iff.2 ⟨by exact_mod_cast hlow, by exact_mod_cast hhigh⟩

end Decimal

namespace Numeral

/-! ## The digits in front of the point -/

/-- Digits that end before `rest`, and denote an integer. -/
structure Leads (whole : List Nat) (rest : List Char) (integer : Int) : Prop where
  ne_nil : whole ≠ []
  digits : ∀ digit ∈ whole, digit < 10
  stop : ∀ char ∈ rest.head?, value? 10 char = none
  value : (toNat 10 whole : Int) = integer

/-- The point is not a digit. -/
theorem stop_point (rest : List Char) : ∀ char ∈ ('.' :: rest).head?, value? 10 char = none := by
  intro char hchar
  obtain rfl : '.' = char := Option.some.inj hchar
  decide

section Layout

variable {digits : List Nat} (hdigits : ∀ digit ∈ digits, digit < 10)

include hdigits

/-- Digits in front of the point, followed by zeros. -/
theorem leads_whole (hne : digits ≠ []) {place : Int} (hplace : (digits.length : Int) ≤ place) :
    Leads (digits ++ List.replicate (place.toNat - digits.length) 0) []
      (Decimal.toRat ⟨digits, place⟩).floor where
  ne_nil := List.append_ne_nil_of_left_ne_nil hne _
  digits := List.forall_mem_append.2 ⟨hdigits, lt_of_mem_zeros _⟩
  stop := by simp
  value := by
    have hplaces :
        place - (digits ++ List.replicate (place.toNat - digits.length) 0).length = 0 := by
      rw [List.length_append, List.length_replicate]
      omega
    rw [← Decimal.toRat_append_zeros digits place (place.toNat - digits.length), Decimal.toRat]
    dsimp only
    rw [hplaces, powerOfTen_eq, zpow_zero, mul_one]
    exact (Rat.floor_intCast _).symm

/-- Digits in front of the point and others behind it. -/
theorem leads_inner (hne : digits ≠ []) {place : Int} (hpos : 0 < place)
    (hplace : place < digits.length) :
    Leads (digits.take place.toNat) ('.' :: (chars digits).drop place.toNat)
      (Decimal.toRat ⟨digits, place⟩).floor where
  ne_nil := by
    rw [Ne, List.take_eq_nil_iff]
    exact fun hnil ↦ hnil.elim (by omega) hne
  digits digit hdigit := hdigits digit (List.mem_of_mem_take hdigit)
  stop := stop_point _
  value := by
    have hback : ∀ digit ∈ digits.drop place.toNat, digit < 10 :=
      fun digit hdigit ↦ hdigits digit (List.mem_of_mem_drop hdigit)
    have hplaces :
        place - (digits.length : Int) = -((digits.length - place.toNat : Nat) : Int) := by
      omega
    have hvalue : Decimal.toRat ⟨digits, place⟩ =
        (toNat 10 digits : Rat) / (10 ^ (digits.length - place.toNat) : Nat) := by
      rw [Decimal.toRat]
      dsimp only
      rw [hplaces, powerOfTen_eq, zpow_neg, zpow_natCast, div_eq_mul_inv, Nat.cast_pow]
      rfl
    rw [hvalue, toNat_front hback (by decide), List.take_append_drop, List.length_drop]
    exact (Rat.floor_natCast_div_natCast _ _).symm

/-- A zero in front of the point, and all digits behind it. -/
theorem leads_small {place : Int} (hplace : place ≤ 0) :
    Leads [0] ('.' :: (zeros (-place).toNat ++ chars digits))
      (Decimal.toRat ⟨digits, place⟩).floor where
  ne_nil := List.cons_ne_nil _ _
  digits := by decide
  stop := stop_point _
  value := by
    have hone : Decimal.toRat ⟨digits, place⟩ < 1 :=
      (Decimal.toRat_lt ⟨digits, place⟩ hdigits).trans_le
        (zpow_le_one_of_nonpos₀ (by norm_num) hplace)
    have hfloor : ⌊Decimal.toRat ⟨digits, place⟩⌋ = 0 :=
      Int.floor_eq_zero_iff.2 ⟨Decimal.toRat_nonneg _, hone⟩
    exact hfloor.symm

end Layout

/-- A positional layout starts with the digits of the integer part. -/
theorem exists_leads_layout {decimal : Decimal} (hne : decimal.digits ≠ [])
    (hdigits : ∀ digit ∈ decimal.digits, digit < 10) (hlow : -6 < decimal.point)
    (hhigh : decimal.point ≤ 21) :
    ∃ whole rest, layout decimal = chars whole ++ rest ∧ Leads whole rest decimal.toRat.floor := by
  have hlength : (chars decimal.digits).length = decimal.digits.length := List.length_map _
  unfold layout
  dsimp only
  rw [hlength]
  split
  · rename_i hwhole
    exact ⟨_, [], by rw [chars_append, chars_zeros, List.append_nil],
      leads_whole hdigits hne hwhole.1⟩
  · rename_i hnotWhole
    split
    · rename_i hinner
      exact ⟨_, _, by rw [chars, chars, List.map_take], leads_inner hdigits hne hinner.1 (by omega)⟩
    · rename_i hnotInner
      rw [if_pos ⟨hlow, by omega⟩]
      exact ⟨_, _, rfl, leads_small hdigits (by omega)⟩

/-! ## Reading the front of a plain text -/

/-- Leading digits are read as their integer, behind a sign as well. -/
theorem readInteger_of_leads {whole : List Nat} {rest : List Char} {number : Nat}
    (hleads : Leads whole rest number) (hnumber : number ≤ 2 ^ 53) (negative : Bool) :
    readInteger (signText negative ++ (chars whole ++ rest)) =
      Binary64.ofMagnitude negative number := by
  have hvalue : toNat 10 whole = number := Int.ofNat.inj hleads.value
  have hrun : IsDigitText 10 (chars whole) whole := isDigitText_map fun digit hdigit ↦
    value?_character (hleads.digits digit hdigit) (by decide)
  have hread := readInteger_digits (List.forall_mem_nil _) (isSign_signText negative)
    hleads.ne_nil hrun hleads.stop
  rw [List.nil_append] at hread
  rw [hread, accumulate_of_le hleads.ne_nil (by decide) (by decide) (by omega), hvalue,
    Binary64.ofNat_eq_ofMagnitude, withSign_ofMagnitude]

/-- Both zeros are read back as zero. -/
theorem readInteger_plain_signedZero (negative : Bool) :
    readInteger (plain (.signedZero negative)) = .zero := by
  change withSign false (accumulate 10 [0]) = .zero
  rw [accumulate_of_le (by simp) (by decide) (by decide) (by decide)]
  rfl

/-- From a millionth up to `2 ^ 53`, the integer at the front of the plain text of a number is the
number without its fraction. -/
theorem readInteger_plain (negative : Bool) {magnitude : Magnitude}
    (hlow : Magnitude.millionth.toRat ≤ magnitude.toRat) (hle : magnitude.toRat ≤ 2 ^ 53) :
    readInteger (plain (.finite negative magnitude)) =
      (Binary64.finite negative magnitude).truncate := by
  have hsignificand := Magnitude.significand_ne_zero_of_millionth_le hlow
  have hne : (shortestDigits magnitude).digits ≠ [] := Decimal.digits_shortest_ne_nil hsignificand
  have hdigits : ∀ digit ∈ (shortestDigits magnitude).digits, digit < 10 :=
    fun _ ↦ Decimal.lt_of_mem_digits_shortest
  obtain ⟨whole, rest, hlayout, hleads⟩ := exists_leads_layout hne hdigits
    (Decimal.lt_point_shortest hlow) (Decimal.point_shortest_le hsignificand hle)
  obtain ⟨number, hnumber⟩ : ∃ number : Nat, magnitude.toRat.floor = number :=
    Int.eq_ofNat_of_zero_le (Rat.le_floor_iff.2 (by exact_mod_cast magnitude.toRat_nonneg))
  have hbound : number ≤ 2 ^ 53 := by
    have : (number : Rat) ≤ magnitude.toRat := by
      exact_mod_cast hnumber ▸ Rat.floor_le magnitude.toRat
    exact_mod_cast this.trans hle
  rw [shortestDigits, Decimal.floor_shortest hsignificand hle, hnumber] at hleads
  rw [plain_finite hsignificand, hlayout, readInteger_of_leads hleads hbound]
  show Binary64.ofMagnitude negative number = .ofMagnitude negative (magnitude.toRat.floor : Rat)
  rw [hnumber, Int.cast_natCast]

end Numeral

end Numbering
