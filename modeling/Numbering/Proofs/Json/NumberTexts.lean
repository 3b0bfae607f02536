import Numbering.Json.Writing
import Numbering.Proofs.Binary64.Representable
import Numbering.Proofs.Decimal.Bounds
import Numbering.Proofs.Json.NumberTokens
import Numbering.Proofs.Numeral.ReadBack

/-!
# Number texts as JSON tokens

The JSON text of an integer below `2 ^ 53` is its numeral, a token to which the integer is nearest
(`Json.spells_integer`). The other numbers are written by a library, which may be any: that it
writes tokens to which the numbers are nearest is `Json.Writer.ReadsBack`. A library that writes
the shortest digits does so, because they round to the number in each of the layouts
(`Json.Writer.readsBack_shortest`).
-/

namespace Numbering.Json

open Digits Literal Numeral

/-- The text, with a sign in front, is a token that denotes a number in magnitude. -/
def Writes (negative : Bool) (text : List Char) (value : Rat) : Prop :=
  ∃ token, NumberSpelling token (signText negative ++ text) ∧
    token.nearest = .ofMagnitude negative value

/-- A text made of digits, a fraction and an exponent denotes the expansion with all the digits,
when the point and the exponent make up its point. -/
theorem writes_of_parts (negative : Bool) (place : Int) {whole fraction : List Nat}
    {exponent : Int} {point mark : List Char} (hne : whole ≠ [])
    (hdigits : ∀ digit ∈ whole, digit < 10) (hlead : whole = [0] ∨ whole.head? ≠ some 0)
    (hpoint : PointSpelling fraction point) (hmark : ExponentSpelling exponent mark)
    (hplace : exponent - fraction.length = place - (whole ++ fraction).length) :
    Writes negative (chars whole ++ (point ++ mark))
      (Decimal.toRat ⟨whole ++ fraction, place⟩) := by
  refine ⟨_, .intro negative hne hdigits hlead hpoint hmark, ?_⟩
  rw [NumberToken.nearest, Binary64.ofDecimal_eq, hplace]
  rfl

section Layout

variable {digits : List Nat} (hne : digits ≠ []) (hdigits : ∀ digit ∈ digits, digit < 10)
  (negative : Bool)

include hne hdigits

/-- Digits with an exponent, and a point after the first one if there are more. -/
theorem writes_scientific (hlead : digits.head? ≠ some 0) (place : Int) :
    Writes negative (scientific (chars digits) (place - 1)) (Decimal.toRat ⟨digits, place⟩) := by
  have hmark := exponentSpelling_exponentPart (place - 1)
  obtain ⟨first, others, rfl⟩ := List.exists_cons_of_ne_nil hne
  have hfirst : ∀ digit ∈ [first], digit < 10 := by simpa using hdigits first (by simp)
  cases others with
  | nil => exact writes_of_parts negative place hne hfirst (.inr hlead) .absent hmark (by simp)
  | cons second others =>
      have hothers : ∀ digit ∈ second :: others, digit < 10 := fun digit hdigit ↦
        hdigits digit (List.mem_cons_of_mem _ hdigit)
      exact writes_of_parts negative place (List.cons_ne_nil first []) hfirst (.inr hlead)
        (.point (List.cons_ne_nil second others) hothers) hmark (by simp; omega)

/-- Digits, zeros up to the point, and a zero behind it. -/
theorem writes_whole (hlead : digits.head? ≠ some 0) {place : Int}
    (hplace : (digits.length : Int) ≤ place) :
    Writes negative (chars digits ++ zeros (place.toNat - digits.length) ++ ".0".toList)
      (Decimal.toRat ⟨digits, place⟩) := by
  have hfilled : ∀ digit ∈ digits ++ List.replicate (place.toNat - digits.length) 0,
      digit < 10 := List.forall_mem_append.2 ⟨hdigits, lt_of_mem_zeros _⟩
  have hhead : (digits ++ List.replicate (place.toNat - digits.length) 0).head? ≠ some 0 := by
    rwa [List.head?_append_of_ne_nil _ hne]
  have hzero : PointSpelling (List.replicate 1 0) ".0".toList :=
    .point (List.cons_ne_nil 0 []) (lt_of_mem_zeros 1)
  have hwrites := writes_of_parts negative place (List.append_ne_nil_of_left_ne_nil hne _) hfilled
    (.inr hhead) hzero .absent (by simp; omega)
  rwa [Decimal.toRat_append_zeros, Decimal.toRat_append_zeros, chars_append, chars_zeros,
    List.append_nil] at hwrites

/-- Digits with a point among them. -/
theorem writes_inner (hlead : digits.head? ≠ some 0) {place : Int} (hpos : 0 < place)
    (hplace : place < digits.length) :
    Writes negative ((chars digits).take place.toNat ++ '.' :: (chars digits).drop place.toNat)
      (Decimal.toRat ⟨digits, place⟩) := by
  have hfront : ∀ digit ∈ digits.take place.toNat, digit < 10 :=
    fun digit hdigit ↦ hdigits digit (List.mem_of_mem_take hdigit)
  have hback : ∀ digit ∈ digits.drop place.toNat, digit < 10 :=
    fun digit hdigit ↦ hdigits digit (List.mem_of_mem_drop hdigit)
  have hsome : digits.take place.toNat ≠ [] := by
    rw [Ne, List.take_eq_nil_iff]
    exact fun hnil ↦ hnil.elim (by omega) hne
  have hrest : digits.drop place.toNat ≠ [] := by
    rw [Ne, List.drop_eq_nil_iff]
    omega
  have hhead : (digits.take place.toNat).head? ≠ some 0 := by
    rw [List.head?_take, if_neg (by omega)]
    exact hlead
  have hwrites := writes_of_parts negative place hsome hfront (.inr hhead) (.point hrest hback)
    .absent (by rw [List.take_append_drop, List.length_drop]; omega)
  rwa [List.take_append_drop, List.append_nil, chars, chars, List.map_take, List.map_drop]
    at hwrites

/-- A zero, a point and zeros in front of the digits. -/
theorem writes_small {place : Int} (hplace : place ≤ 0) :
    Writes negative ('0' :: '.' :: zeros (-place).toNat ++ chars digits)
      (Decimal.toRat ⟨digits, place⟩) := by
  have hfilled : ∀ digit ∈ List.replicate (-place).toNat 0 ++ digits, digit < 10 :=
    List.forall_mem_append.2 ⟨lt_of_mem_zeros _, hdigits⟩
  have hwrites := writes_of_parts negative (place + ((-place).toNat + 1 : Nat))
    (List.cons_ne_nil 0 []) (lt_of_mem_zeros 1) (.inl rfl)
    (.point (List.append_ne_nil_of_right_ne_nil _ hne) hfilled) .absent (by simp; omega)
  rw [List.singleton_append, ← List.cons_append, ← List.replicate_succ, Decimal.toRat_zeros_append,
    List.append_nil, chars_append, chars_zeros] at hwrites
  exact hwrites

end Layout

/-- The positional layout of an expansion, with `.0` after a whole number, denotes it. -/
theorem writes_positionalWithPoint {decimal : Decimal} (hne : decimal.digits ≠ [])
    (hdigits : ∀ digit ∈ decimal.digits, digit < 10) (hlead : decimal.digits.head? ≠ some 0)
    (negative : Bool) : Writes negative (positionalWithPoint decimal) decimal.toRat := by
  have hlength : (chars decimal.digits).length = decimal.digits.length := List.length_map _
  unfold positionalWithPoint positional
  dsimp only
  rw [hlength]
  split
  · rename_i hwhole
    exact writes_whole hne hdigits negative hlead hwhole
  · rename_i hnotWhole
    split
    · rename_i hpos
      exact writes_inner hne hdigits negative hlead hpos (by omega)
    · rename_i hnotPos
      exact writes_small hne hdigits negative (by omega)

/-- The numeral of a natural number is a token with the digits of the number. -/
theorem numberSpelling_numeral (negative : Bool) (number : Nat) :
    NumberSpelling ⟨negative, ofNat 10 number, [], 0⟩ (signText negative ++ numeral number) := by
  have hdigits : ∀ digit ∈ ofNat 10 number, digit < 10 :=
    fun _ ↦ lt_of_mem_ofNat (by decide)
  have hlead : ofNat 10 number = [0] ∨ (ofNat 10 number).head? ≠ some 0 := by
    rcases Nat.eq_zero_or_pos number with rfl | hpos
    · exact .inl (by rw [ofNat, dif_neg (by omega)])
    · refine .inr (head?_ne_zero hdigits ?_)
      rw [toNat_ofNat]
      exact pow_le_of_pos (by decide) hpos
  have hspelling := NumberSpelling.intro negative (ofNat_ne_nil 10 number) hdigits hlead .absent
    .absent
  rwa [List.append_nil, List.append_nil] at hspelling

/-- The numeral of a natural number denotes it. -/
theorem writes_numeral (negative : Bool) (number : Nat) :
    Writes negative (numeral number) number := by
  refine ⟨_, numberSpelling_numeral negative number, ?_⟩
  rw [NumberToken.nearest, Binary64.ofDecimal_eq, List.append_nil, toNat_ofNat]
  exact congrArg (Binary64.ofMagnitude negative) (mul_one _)

/-- A text spells a number when it is a token and the number is the one nearest to it. The sign of a
zero does not count. -/
def Spells (text : List Char) (number : Binary64) : Prop :=
  ∃ token, NumberSpelling token text ∧ token.nearest.equals number = true

/-! ## Integers -/

/-- A number without a fraction has its integer part as its value. -/
theorem hasValue_of_isInteger {number : Binary64} (hinteger : number.isInteger = true) :
    number.HasValue number.toInt := by
  cases number with
  | nan => cases hinteger
  | infinity _ => cases hinteger
  | finite negative magnitude =>
      have hfloor : (magnitude.toRat.floor : Rat) = magnitude.toRat := by
        have hnumerator := Rat.coe_int_num_of_den_eq_one (of_decide_eq_true hinteger)
        rw [← hnumerator, Rat.floor_intCast]
      refine ⟨rfl, ?_⟩
      cases negative with
      | true => simp [Binary64.toInt, Binary64.toRat, hfloor]
      | false => exact hfloor.symm

/-- The text of an integer is the numeral of its size behind a minus sign, if it is below zero. -/
theorem spells_signText_numeral {number : Binary64} (hinteger : number.isInteger = true) :
    Spells (signText (decide (number.toInt < 0)) ++ numeral number.toInt.natAbs) number := by
  have hvalue := hasValue_of_isInteger hinteger
  obtain ⟨token, hspelling, hnearest⟩ :=
    writes_numeral (decide (number.toInt < 0)) number.toInt.natAbs
  refine ⟨token, hspelling, ?_⟩
  generalize number.toInt = value at hvalue hnearest ⊢
  obtain ⟨negative, magnitude, rfl, hmagnitude, -⟩ := hvalue.exists_finite
  rw [hnearest, ← hmagnitude, Binary64.ofMagnitude_toRat]
  have hsame : (Binary64.finite (decide (value < 0)) magnitude).toRat = value := by
    have hcast : (value.natAbs : Rat) = |(value : Rat)| := by rw [Nat.cast_natAbs, Int.cast_abs]
    rcases Int.lt_or_le value 0 with hbelow | habove
    · have hsize : |(value : Rat)| = -value := abs_of_neg (by exact_mod_cast hbelow)
      simp [Binary64.toRat, hbelow, hmagnitude, hsize]
    · have hsize : |(value : Rat)| = value := abs_of_nonneg (by exact_mod_cast habove)
      simp [Binary64.toRat, habove.not_gt, hmagnitude, hsize]
  exact decide_eq_true (hsame.trans hvalue.toRat.symm)

/-- A finite number is below the limit when its magnitude is. -/
theorem less_integerLimit_iff (negative : Bool) (magnitude : Magnitude) :
    (Binary64.finite negative magnitude).abs.less integerLimit = true ↔
      magnitude.toRat < 2 ^ 53 := by
  obtain ⟨limit, hfinite, hvalue⟩ :=
    Binary64.exists_ofNat_eq (isRepresentable_of_le (Nat.le_refl (2 ^ 53)))
  have hlimit : integerLimit = .finite false limit := hfinite
  rw [hlimit, ← Nat.cast_ofNat, ← Nat.cast_pow, ← hvalue]
  exact decide_eq_true_iff

/-- The small integers are those below `2 ^ 53`. -/
theorem isSmallInteger_finite_iff (negative : Bool) (magnitude : Magnitude) :
    isSmallInteger (.finite negative magnitude) = true ↔
      magnitude.toRat.den = 1 ∧ magnitude.toRat < 2 ^ 53 := by
  rw [isSmallInteger, Bool.and_eq_true, less_integerLimit_iff]
  exact and_congr_left' decide_eq_true_iff

section SmallInteger

variable {number : Binary64} (hsmall : isSmallInteger number = true)

include hsmall

/-- A small integer has an integer as its value. -/
theorem hasValue_of_isSmallInteger : number.HasValue number.toInt :=
  hasValue_of_isInteger (Bool.and_eq_true_iff.1 hsmall).1

/-- A small integer is not greater than `2 ^ 53`. -/
theorem natAbs_toInt_le_of_isSmallInteger : number.toInt.natAbs ≤ 2 ^ 53 := by
  have hvalue := hasValue_of_isSmallInteger hsmall
  generalize number.toInt = value at hvalue ⊢
  obtain ⟨negative, magnitude, rfl, hmagnitude, -⟩ := hvalue.exists_finite
  rw [isSmallInteger_finite_iff, hmagnitude] at hsmall
  exact_mod_cast hsmall.2.le

end SmallInteger

/-- The text of an integer is a sign and a numeral. -/
theorem integer_eq (number : Binary64) :
    integer number = signText (decide (number.toInt < 0)) ++ numeral number.toInt.natAbs := by
  unfold integer
  by_cases hbelow : number.toInt < 0
  · rw [if_pos hbelow, decide_eq_true hbelow]
    rfl
  · rw [if_neg hbelow, decide_eq_false hbelow]
    rfl

/-- The text of a small integer spells it. -/
theorem spells_integer {number : Binary64} (hsmall : isSmallInteger number = true) :
    Spells (integer number) number := by
  rw [integer_eq]
  exact spells_signText_numeral (Bool.and_eq_true_iff.1 hsmall).1

/-! ## Libraries -/

/-- What the library writes for a finite number spells it, so that the number is read back. -/
def Writer.ReadsBack [Writer] : Prop :=
  ∀ number : Binary64, number.isFinite = true → isSmallInteger number = false →
    ∃ text, Writer.float number = .ok text ∧ Spells text number

/-- With such a library every finite number has a text that spells it. -/
theorem Writer.ReadsBack.exists_spells [Writer] (hwriter : Writer.ReadsBack) {amount : Binary64}
    (hfinite : amount.isFinite = true) :
    ∃ text, number amount = .ok text ∧ Spells text amount := by
  rw [number, if_pos hfinite]
  cases hsmall : isSmallInteger amount with
  | true => exact ⟨_, if_pos rfl, spells_integer hsmall⟩
  | false => exact hwriter amount hfinite hsmall

/-- What is not finite is written as null, with any library. -/
theorem number_of_isFinite_eq_false [Writer] {amount : Binary64}
    (hfinite : amount.isFinite = false) : number amount = .ok "null".toList := by
  rw [number, if_neg (Bool.eq_false_iff.1 hfinite)]

/-- A small integer is written as one, with any library. -/
theorem number_of_isSmallInteger [Writer] {amount : Binary64}
    (hsmall : isSmallInteger amount = true) : number amount = .ok (integer amount) := by
  rw [number, if_pos (hasValue_of_isSmallInteger hsmall).isFinite, if_pos hsmall]

/-- The shortest digits of a number other than zero spell it in either layout. -/
theorem spells_of_writes_shortest {negative : Bool} {magnitude : Magnitude} {text : List Char}
    (hwrites : Writes negative text (Decimal.shortest .even magnitude).toRat) :
    Spells (signText negative ++ text) (.finite negative magnitude) := by
  obtain ⟨token, hspelling, hnearest⟩ := hwrites
  refine ⟨token, hspelling, ?_⟩
  have hround : Binary64.ofMagnitude negative (Decimal.shortest .even magnitude).toRat =
      .finite negative magnitude := by
    unfold Binary64.ofMagnitude
    rw [Decimal.roundMagnitude?_shortest]
  rw [hnearest, hround, Binary64.equals_self]
  rfl

/-- Zero is a small integer. -/
theorem significand_ne_zero_of_isSmallInteger_eq_false {negative : Bool} {magnitude : Magnitude}
    (hsmall : isSmallInteger (.finite negative magnitude) = false) :
    magnitude.significand ≠ 0 := by
  intro hzero
  refine absurd ((isSmallInteger_finite_iff negative magnitude).2 ?_) (Bool.eq_false_iff.1 hsmall)
  rw [Magnitude.significand_eq_zero_iff.1 hzero]
  exact ⟨rfl, by norm_num⟩

/-- The shortest digits of a number that is not a small integer spell it. -/
theorem spells_floating {number : Binary64} (hfinite : number.isFinite = true)
    (hsmall : isSmallInteger number = false) : Spells (floating number) number := by
  cases number with
  | nan => cases hfinite
  | infinity _ => cases hfinite
  | finite negative magnitude =>
      have hsignificand := significand_ne_zero_of_isSmallInteger_eq_false hsmall
      have hne : (Decimal.shortest .even magnitude).digits ≠ [] :=
        Decimal.digits_shortest_ne_nil hsignificand
      have hdigits : ∀ digit ∈ (Decimal.shortest .even magnitude).digits, digit < 10 :=
        fun _ ↦ Decimal.lt_of_mem_digits_shortest
      have hlead : (Decimal.shortest .even magnitude).digits.head? ≠ some 0 :=
        Decimal.head?_shortest_ne_zero hsignificand
      unfold floating
      dsimp only
      rw [sign_finite hsignificand]
      split
      · exact spells_of_writes_shortest (writes_positionalWithPoint hne hdigits hlead negative)
      · exact spells_of_writes_shortest (writes_scientific hne hdigits negative hlead _)

/-- A library that writes the shortest digits writes what is read back. -/
theorem Writer.readsBack_shortest :
    letI := Writer.shortest
    Writer.ReadsBack :=
  fun _ hfinite hsmall ↦ ⟨_, rfl, spells_floating hfinite hsmall⟩

/-! ## Conversions -/

section Conversions

variable [Writer]

/-- A conversion gives the nearest number for the token that a number is written as. -/
def ConvertsNearest (convert : NumberToken → Except ReadError Binary64) (amount : Binary64) :
    Prop :=
  ∀ text token, number amount = .ok text → scanNumber text = .ok (token, []) →
    convert token = .ok token.nearest

instance (convert : NumberToken → Except ReadError Binary64) (amount : Binary64) :
    Decidable (ConvertsNearest convert amount) :=
  match htext : number amount with
  | .error _ => isTrue fun _ _ hother ↦ nomatch htext.symm.trans hother
  | .ok text =>
      match hscan : scanNumber text with
      | .ok (token, []) =>
          decidable_of_iff (convert token = .ok token.nearest)
            ⟨fun hconvert written other hwritten hother ↦ by
              obtain rfl := Except.ok.inj (htext.symm.trans hwritten)
              obtain rfl := (Prod.mk.inj (Except.ok.inj (hscan.symm.trans hother))).1
              exact hconvert, fun hall ↦ hall text token htext hscan⟩
      | .ok (_, _ :: _) => isTrue fun written _ hwritten hother ↦ by
          obtain rfl := Except.ok.inj (htext.symm.trans hwritten)
          exact nomatch hscan.symm.trans hother
      | .error _ => isTrue fun written _ hwritten hother ↦ by
          obtain rfl := Except.ok.inj (htext.symm.trans hwritten)
          exact nomatch hscan.symm.trans hother

end Conversions

end Numbering.Json
