import Numbering.Proofs.Decimal.Shortest
import Numbering.Proofs.Numeral.IntegerPart
import Numbering.Proofs.Numeral.Significant

/-!
# The notation of plain texts

A plain text has no superfluous zero, no point at its end and no exponent with zeros in front of it:
it is positional (`Numeral.IsPositional`) or has an exponent (`Numeral.IsScientific`). The place of
the point in the shortest digits decides between the two, and it is found by comparing the number
itself with a millionth and with `10 ^ 21` (`Numeral.plain_layout`). Below `10 ^ 21` an integer
is written with digits only.
-/

namespace Numbering

open Digits Literal

namespace Numeral

/-! ## The two notations -/

/-- A numeral, or a numeral with a point and with places behind it that do not end in a zero. -/
inductive IsPositional : List Char → Prop where
  | intro {places units : Nat} (hlast : places = 0 ∨ units % 10 ≠ 0) :
      IsPositional (pointText places units)

/-- One digit other than zero, possibly with a point and with places behind it that do not end in a
zero, and an exponent with its sign. -/
inductive IsScientific : List Char → Prop where
  | intro {places units : Nat} (hlow : 10 ^ places ≤ units) (hhigh : units < 10 ^ (places + 1))
      (hlast : places = 0 ∨ units % 10 ≠ 0) (exponent : Int) :
      IsScientific (pointText places units ++ exponentText exponent)

/-- A text with a point consists of digits and the point. -/
theorem mem_pointText {places units : Nat} {char : Char} (hchar : char ∈ pointText places units) :
    IsDigit char ∨ char = '.' := by
  unfold pointText at hchar
  rcases List.mem_append.1 hchar with hwhole | hplaces
  · exact .inl ((isRun_numeral _).isDigit char hwhole)
  · split at hplaces
    · cases hplaces
    · rcases List.mem_cons.1 hplaces with hpoint | hplaces
      · exact .inr hpoint
      · exact .inl (isDigit_of_mem_chars (lt_of_mem_lastDigits places units) hplaces)

/-- Only the notation with an exponent shows an `e`. -/
theorem IsPositional.e_notMem {text : List Char} (hpositional : IsPositional text) :
    'e' ∉ text := by
  obtain ⟨-⟩ := hpositional
  intro hletter
  rcases mem_pointText hletter with hdigit | hpoint
  · exact absurd hdigit (by decide)
  · exact absurd hpoint (by decide)

/-- No text has both forms. -/
theorem IsPositional.not_isScientific {text : List Char} (hpositional : IsPositional text) :
    ¬IsScientific text := by
  intro hscientific
  obtain ⟨-, -, -, exponent⟩ := hscientific
  exact hpositional.e_notMem (List.mem_append_right _ List.mem_cons_self)

/-! ## Layouts -/

section Layout

variable {decimal : Decimal} (hne : decimal.digits ≠ [])
  (hdigits : ∀ digit ∈ decimal.digits, digit < 10)

include hne hdigits

/-- Digits that do not end in a zero denote a number that does not. -/
theorem toNat_mod_ten (hlast : decimal.digits.getLast? ≠ some 0) :
    toNat 10 decimal.digits % 10 ≠ 0 := by
  obtain ⟨front, last, hconcat⟩ := (List.eq_nil_or_concat _).resolve_left hne
  rw [List.concat_eq_append] at hconcat
  have hsmall : last < 10 := hdigits last (by simp [hconcat])
  rw [hconcat, List.getLast?_concat] at hlast
  rw [hconcat, toNat_append_singleton]
  intro hzero
  exact hlast (congrArg some (by omega))

/-- The positional layout, with a place behind the point for every digit that is left there. -/
theorem layout_positional (hfirst : decimal.digits.head? ≠ some 0) (hlow : -6 < decimal.point)
    (hhigh : decimal.point ≤ 21) :
    layout decimal = pointText (decimal.digits.length - decimal.point).toNat
      (toNat 10 decimal.digits * 10 ^ (decimal.point - decimal.digits.length).toNat) := by
  have hlength : (chars decimal.digits).length = decimal.digits.length := List.length_map _
  unfold layout
  dsimp only
  rw [hlength]
  split
  · rename_i hwhole
    have hplaces : (decimal.digits.length - decimal.point).toNat = 0 := by omega
    have hzeros : (decimal.point - decimal.digits.length).toNat =
        decimal.point.toNat - decimal.digits.length := by omega
    have hpos : 0 < toNat 10 decimal.digits :=
      (Nat.pow_pos (by decide)).trans_le (pow_le_toNat hne hfirst)
    rw [hplaces, hzeros, pointText, if_pos rfl, List.append_nil, Nat.pow_zero, Nat.div_one, numeral,
      ofNat_mul_pow (by decide) hpos, ofNat_toNat (by decide) hdigits (.inr ⟨hne, hfirst⟩),
      chars_append, chars_zeros]
  · have hunits : (decimal.point - decimal.digits.length).toNat = 0 := by omega
    rw [hunits, Nat.pow_zero, Nat.mul_one]
    split
    · rename_i hinner
      have hwhole : decimal.point.toNat - 1 < decimal.digits.length := by omega
      have hplace : decimal.point.toNat - 1 + 1 = decimal.point.toNat := by omega
      have hplaces : (decimal.digits.length - decimal.point).toNat =
          decimal.digits.length - decimal.point.toNat := by omega
      have hback : ((chars decimal.digits).drop decimal.point.toNat).isEmpty = false := by
        rw [List.isEmpty_eq_false_iff, Ne, List.drop_eq_nil_iff]
        omega
      have htext := pointText_inner hdigits hwhole (.inr hfirst)
      rw [hplace, hback, if_neg Bool.false_ne_true] at htext
      rw [hplaces, htext]
    · have hplaces : (decimal.digits.length - decimal.point).toNat =
          (-decimal.point).toNat + decimal.digits.length := by omega
      rw [if_pos (by omega), hplaces, pointText_small hdigits hne]

/-- Digits whose point is in the positional range are laid out positionally. -/
theorem isPositional_layout (hfirst : decimal.digits.head? ≠ some 0)
    (hlast : decimal.digits.getLast? ≠ some 0) (hlow : -6 < decimal.point)
    (hhigh : decimal.point ≤ 21) : IsPositional (layout decimal) := by
  rw [layout_positional hne hdigits hfirst hlow hhigh]
  refine .intro ?_
  rcases le_or_gt (decimal.digits.length : Int) decimal.point with hwhole | hfraction
  · left
    omega
  · right
    have hunits : (decimal.point - decimal.digits.length).toNat = 0 := by omega
    rw [hunits, Nat.pow_zero, Nat.mul_one]
    exact toNat_mod_ten hne hdigits hlast

/-- Digits whose point is out of that range are laid out with an exponent. -/
theorem isScientific_layout (hfirst : decimal.digits.head? ≠ some 0)
    (hlast : decimal.digits.getLast? ≠ some 0)
    (hpoint : ¬(-6 < decimal.point ∧ decimal.point ≤ 21)) : IsScientific (layout decimal) := by
  have hlength : 0 < decimal.digits.length := List.length_pos_iff.2 hne
  have hhigh := toNat_lt hdigits
  have hscientific : layout decimal = scientific (chars decimal.digits) (decimal.point - 1) := by
    unfold layout
    dsimp only
    rw [if_neg (by omega), if_neg (by omega), if_neg (by omega)]
  rw [hscientific, scientific_chars hdigits hne]
  refine .intro (pow_le_toNat hne hfirst) ?_ (.inr (toNat_mod_ten hne hdigits hlast)) _
  rwa [Nat.sub_add_cancel hlength]

end Layout

/-! ## Shortest digits -/

section Magnitude

variable {magnitude : Magnitude} (hsignificand : magnitude.significand ≠ 0)

include hsignificand

/-- The shortest digits of a magnitude are shortest digits. -/
theorem isShortest_shortestDigits : Decimal.IsShortest magnitude (shortestDigits magnitude) :=
  Decimal.isShortest_shortest hsignificand

/-- Where the point of the shortest digits is in the range of the positional layout. -/
theorem point_shortestDigits_iff :
    -6 < (shortestDigits magnitude).point ∧ (shortestDigits magnitude).point ≤ 21 ↔
      Magnitude.millionth.toRat ≤ magnitude.toRat ∧ magnitude.toRat < 10 ^ 21 := by
  have hshortest := isShortest_shortestDigits hsignificand
  have hlow : -6 < (shortestDigits magnitude).point ↔
      Magnitude.millionth.toRat ≤ magnitude.toRat :=
    Decimal.lt_point_shortest_iff hsignificand Magnitude.roundMagnitude?_millionth
      (by decide +kernel)
  exact and_congr hlow (hshortest.point_le_iff hsignificand (by decide : 21 ≤ 22))

/-- The form of the shortest digits can be told from the magnitude. -/
theorem isPositional_layout_iff :
    (IsPositional (layout (shortestDigits magnitude)) ↔
      Magnitude.millionth.toRat ≤ magnitude.toRat ∧ magnitude.toRat < 10 ^ 21) ∧
    (IsScientific (layout (shortestDigits magnitude)) ↔
      ¬(Magnitude.millionth.toRat ≤ magnitude.toRat ∧ magnitude.toRat < 10 ^ 21)) := by
  have hshortest := isShortest_shortestDigits hsignificand
  have hne := hshortest.ne_nil hsignificand
  rw [← point_shortestDigits_iff hsignificand]
  by_cases hpoint : -6 < (shortestDigits magnitude).point ∧ (shortestDigits magnitude).point ≤ 21
  · have hpositional := isPositional_layout hne hshortest.digits hshortest.first hshortest.last
      hpoint.1 hpoint.2
    exact ⟨iff_of_true hpositional hpoint,
      iff_of_false hpositional.not_isScientific (not_not_intro hpoint)⟩
  · have hscientific := isScientific_layout hne hshortest.digits hshortest.first hshortest.last
      hpoint
    exact ⟨iff_of_false (fun hpositional ↦ hpositional.not_isScientific hscientific) hpoint,
      iff_of_true hscientific hpoint⟩

/-- The digits of an integer below `10 ^ 21` fill all places in front of the point, and there are
none behind it. -/
theorem isRun_layout {number : Nat} (hvalue : magnitude.toRat = number)
    (hsmall : magnitude.toRat < 10 ^ 21) : IsRun (layout (shortestDigits magnitude)) := by
  have hshortest := isShortest_shortestDigits hsignificand
  have hne := hshortest.ne_nil hsignificand
  have hlength : 0 < (shortestDigits magnitude).digits.length := List.length_pos_iff.2 hne
  have hbound : number < 10 ^ 21 := by
    rw [hvalue] at hsmall
    exact_mod_cast hsmall
  have hwhole := hshortest.length_le_point hsignificand hvalue (by omega)
  have hhigh := (hshortest.point_le_iff hsignificand (by decide : 21 ≤ 22)).2 hsmall
  have hplaces : ((shortestDigits magnitude).digits.length -
      (shortestDigits magnitude).point).toNat = 0 := by omega
  rw [layout_positional hne hshortest.digits hshortest.first (by omega) hhigh, hplaces, pointText,
    if_pos rfl, List.append_nil]
  exact isRun_numeral _

end Magnitude

/-! ## Plain texts -/

/-- The number nearest to a millionth. -/
theorem ofDecimal_millionth :
    Binary64.ofDecimal false 1 (-6) = .finite false .millionth := by
  rw [Binary64.ofDecimal_eq, Nat.cast_one, one_mul, powerOfTen_eq, Binary64.ofMagnitude,
    Magnitude.roundMagnitude?_millionth]

/-- The plain text of an integer below `10 ^ 21` is a sign, if it is below zero, and digits. -/
theorem exists_isRun_plain {number : Binary64} {integer : Int} (hfinite : number.isFinite = true)
    (hinteger : number.toRat = integer) (hsmall : |number.toRat| < 10 ^ 21) :
    ∃ digits, IsRun digits ∧
      plain number = (if number.toRat < 0 then ['-'] else []) ++ digits := by
  rw [← sign_eq hfinite]
  cases number with
  | nan => cases hfinite
  | infinity negative => cases hfinite
  | finite negative magnitude =>
      by_cases hsignificand : magnitude.significand = 0
      · have hzero : (Binary64.finite negative magnitude).toRat = 0 := by
          rw [← abs_eq_zero, Binary64.abs_toRat_finite, Magnitude.significand_eq_zero_iff.1
            hsignificand]
        have hnumeral : numeral 0 = ['0'] := numeral_eq_toDigits 0
        refine ⟨['0'], hnumeral ▸ isRun_numeral 0, ?_⟩
        rw [sign_eq hfinite, if_neg hzero.ge.not_gt]
        exact if_pos hsignificand
      · have hnatural : magnitude.toRat = (integer.natAbs : Nat) := by
          rw [← Binary64.abs_toRat_finite negative, hinteger, Nat.cast_natAbs, Int.cast_abs]
        rw [Binary64.abs_toRat_finite] at hsmall
        exact ⟨_, isRun_layout hsignificand hnatural hsmall, if_neg hsignificand⟩

/-- The plain text of a finite number. Behind the sign of a number other than zero it is a literal
for the shortest expansion of its magnitude, positional from the number nearest to a millionth up to
`10 ^ 21`, and with an exponent elsewhere. An integer below `10 ^ 21` is written with digits only,
and zero as one zero without a sign. -/
theorem plain_layout {number : Binary64} (hfinite : number.isFinite = true) :
    let sign := if number.toRat < 0 then ['-'] else []
    let moderate := (Binary64.ofDecimal false 1 (-6)).toRat ≤ |number.toRat| ∧
      |number.toRat| < 10 ^ 21
    (number.toRat ≠ 0 → ∃ magnitude decimal text,
      magnitude.toRat = |number.toRat| ∧ Decimal.IsShortest magnitude decimal ∧
        plain number = sign ++ text ∧ Denotes text decimal.toRat ∧
        (IsPositional text ↔ moderate) ∧ (IsScientific text ↔ ¬moderate)) ∧
    (∀ integer : Int, number.toRat = integer → |number.toRat| < 10 ^ 21 →
      ∃ digits, IsRun digits ∧ plain number = sign ++ digits) ∧
    (number.toRat = 0 → plain number = ['0']) := by
  intro sign moderate
  have hsign : Numeral.sign number = sign := sign_eq hfinite
  cases number with
  | nan => cases hfinite
  | infinity negative => cases hfinite
  | finite negative magnitude =>
      have hmillionth : (Binary64.ofDecimal false 1 (-6)).toRat = Magnitude.millionth.toRat := by
        rw [ofDecimal_millionth]
        rfl
      have hzero : (Binary64.finite negative magnitude).toRat = 0 ↔ magnitude.significand = 0 := by
        rw [Magnitude.significand_eq_zero_iff, ← Binary64.abs_toRat_finite negative, abs_eq_zero]
      have hplain : magnitude.significand ≠ 0 → plain (.finite negative magnitude) =
          sign ++ layout (shortestDigits magnitude) := by
        intro hsignificand
        rw [← hsign]
        exact if_neg hsignificand
      refine ⟨fun hvalue ↦ ?_, fun integer hinteger hsmall ↦
        exists_isRun_plain hfinite hinteger hsmall, fun hvalue ↦ if_pos (hzero.1 hvalue)⟩
      have hsignificand := fun h ↦ hvalue (hzero.2 h)
      have hshortest := isShortest_shortestDigits hsignificand
      have hlayout := isPositional_layout_iff hsignificand
      rw [← hmillionth, ← Binary64.abs_toRat_finite negative magnitude] at hlayout
      exact ⟨magnitude, shortestDigits magnitude, _,
        (Binary64.abs_toRat_finite negative magnitude).symm, hshortest, hplain hsignificand,
        denotes_layout (hshortest.ne_nil hsignificand) hshortest.digits, hlayout⟩

/-- The number nearest to a millionth is still written positionally, and minus `10 ^ 21` no more,
although it is an integer. -/
theorem plain_layout_bounds :
    let millionth : Binary64 := .finite false .millionth
    let limit : Binary64 := .finite true ⟨7629394531250000, 17, by decide⟩
    millionth.isFinite = true ∧ limit.isFinite = true ∧ limit.toRat = -10 ^ 21 ∧
      IsPositional (plain millionth) ∧ ∃ text, IsScientific text ∧ plain limit = '-' :: text := by
  intro millionth limit
  have hvalue : limit.toRat = -10 ^ 21 := by
    norm_num [limit, Binary64.toRat, Magnitude.toRat, powerOfTwo_eq]
  have hpos : 0 < millionth.toRat := Magnitude.toRat_pos (by decide)
  have hone : millionth.toRat < 10 ^ 21 := by
    norm_num [millionth, Binary64.toRat, Magnitude.millionth, Magnitude.toRat, powerOfTwo_eq]
  obtain ⟨-, -, positional, -, -, htext, -, hpositional, -⟩ :=
    (@plain_layout millionth rfl).1 hpos.ne'
  obtain ⟨-, -, scientific, -, -, hlimit, -, -, hscientific⟩ :=
    (@plain_layout limit rfl).1 (by rw [hvalue]; norm_num)
  rw [if_neg hpos.not_gt, List.nil_append] at htext
  rw [hvalue, if_pos (by norm_num)] at hlimit
  rw [abs_of_pos hpos, ofDecimal_millionth] at hpositional
  rw [hvalue, abs_neg, abs_of_pos (by norm_num)] at hscientific
  exact ⟨rfl, rfl, hvalue, htext ▸ hpositional.2 ⟨le_rfl, hone⟩, scientific,
    hscientific.2 fun hmoderate ↦ hmoderate.2.false, hlimit⟩

end Numeral

end Numbering
