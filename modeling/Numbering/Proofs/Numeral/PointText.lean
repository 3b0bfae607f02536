import Numbering.Proofs.Numeral.ReadBack

/-!
# Texts with a fixed number of places

A number of units in the last of some decimal places is written as a numeral with a point in front
of its last digits (`Numeral.pointText`). Digits with a point at some place are such a text
(`Numeral.pointText_toNat`), whether zeros had to be filled in (`Numeral.insertPoint_chars`) or the
point stands behind the first digit and an exponent follows (`Numeral.scientific_chars`). The text
is a decimal literal for the units divided by a power of ten (`Numeral.denotes_pointText`).
-/

namespace Numbering

open Digits Literal

namespace Numeral

/-- The text of a number of units in the last of some decimal places: the numeral of the units with
a point in front of the digits of these places, and without a point when there are no places. -/
def pointText (places units : Nat) : List Char :=
  numeral (units / 10 ^ places) ++
    if places = 0 then [] else '.' :: chars (lastDigits places units)

/-- An exponent of ten, always with a sign. -/
def exponentText (exponent : Int) : List Char :=
  'e' :: (if exponent < 0 then '-' else '+') :: numeral exponent.natAbs

/-- The exponent part is a text of the exponent. -/
theorem exponentPart_eq (exponent : Int) : exponentPart exponent = exponentText exponent := by
  cases exponent with
  | ofNat exponent =>
      have hnonneg : ¬ Int.ofNat exponent < 0 := Int.not_lt.2 (Int.natCast_nonneg exponent)
      rw [exponentText, if_neg hnonneg]
      rfl
  | negSucc exponent =>
      rw [exponentText, if_pos (Int.negSucc_lt_zero exponent)]
      rfl

/-! ## Digits with a point -/

/-- Digits on both sides of a point are a text with as many places as there are digits behind it,
when those in front of it have no superfluous zero. -/
theorem pointText_toNat {whole fraction : List Nat} (hwhole : ∀ digit ∈ whole, digit < 10)
    (hfraction : ∀ digit ∈ fraction, digit < 10)
    (hfirst : whole.length = 1 ∨ whole ≠ [] ∧ whole.head? ≠ some 0) :
    pointText fraction.length (toNat 10 (whole ++ fraction)) =
      chars whole ++ if fraction = [] then [] else '.' :: chars fraction := by
  have hquotient : toNat 10 (whole ++ fraction) / 10 ^ fraction.length = toNat 10 whole :=
    (toNat_front hfraction (by omega)).symm
  unfold pointText
  rw [hquotient, numeral, ofNat_toNat (by omega) hwhole hfirst, lastDigits_toNat whole hfraction]
  simp only [List.length_eq_zero_iff]

section Digits

variable {digits : List Nat} (hdigits : ∀ digit ∈ digits, digit < 10)

include hdigits

/-- A point in front of the last digits, at least one of which may be missing, with zeros filled in
so that a digit stands in front of it. -/
theorem insertPoint_chars {places : Nat}
    (hfirst : digits.length ≤ places + 1 ∨ 10 ^ (digits.length - 1) ≤ toNat 10 digits) :
    insertPoint (chars digits) places = pointText places (toNat 10 digits) := by
  obtain ⟨filled, hfilled⟩ : ∃ filled,
      filled = List.replicate (places + 1 - digits.length) 0 ++ digits := ⟨_, rfl⟩
  have hlength : filled.length = places + 1 - digits.length + digits.length := by
    rw [hfilled, List.length_append, List.length_replicate]
  have hlow : ∀ digit ∈ filled, digit < 10 := by
    rw [hfilled]
    exact List.forall_mem_append.2 ⟨lt_of_mem_zeros _, hdigits⟩
  have hvalue : toNat 10 filled = toNat 10 digits := by
    rw [hfilled, toNat_append, toNat_zeros, Nat.zero_mul, Nat.zero_add]
  have hchars : zeros (places + 1 - (chars digits).length) ++ chars digits = chars filled := by
    rw [hfilled, chars_append, chars_zeros, chars, List.length_map]
  have hback : (filled.drop (filled.length - places)).length = places := by
    rw [List.length_drop]
    omega
  -- Either a single digit is left in front of the point, or no zero was filled in.
  have hwhole : (filled.take (filled.length - places)).length = 1 ∨
      filled.take (filled.length - places) ≠ [] ∧
        (filled.take (filled.length - places)).head? ≠ some 0 := by
    rcases Nat.lt_or_ge (places + 1) digits.length with hlong | hshort
    · right
      have hnone : filled = digits := by
        rw [hfilled, Nat.sub_eq_zero_of_le hlong.le]
        rfl
      have hhead := head?_ne_zero hdigits (hfirst.resolve_left (by omega))
      rw [hnone, List.head?_take, if_neg (by omega), Ne, List.take_eq_nil_iff]
      exact ⟨fun hnil ↦ hnil.elim (by omega) (fun h ↦ by simp [h] at hlong), hhead⟩
    · left
      rw [List.length_take]
      omega
  have hfraction : ∀ digit ∈ filled.drop (filled.length - places), digit < 10 :=
    fun digit hdigit ↦ hlow digit (List.mem_of_mem_drop hdigit)
  have htext := pointText_toNat (fun digit hdigit ↦ hlow digit (List.mem_of_mem_take hdigit))
    hfraction hwhole
  rw [List.take_append_drop, hback, hvalue] at htext
  unfold insertPoint
  dsimp only
  rw [hchars, htext, chars, List.length_map, ← List.map_take, ← List.map_drop]
  by_cases hplaces : places = 0
  · rw [if_pos hplaces, if_pos (List.eq_nil_of_length_eq_zero (hback.trans hplaces)), hplaces,
      Nat.sub_zero, List.take_length, List.append_nil]
    rfl
  · rw [if_neg hplaces, if_neg fun hnil ↦ hplaces (by rw [← hback, hnil]; rfl)]
    rfl

/-- A point behind the first digit and an exponent. -/
theorem scientific_chars (hne : digits ≠ []) (exponent : Int) :
    scientific (chars digits) exponent =
      pointText (digits.length - 1) (toNat 10 digits) ++ exponentText exponent := by
  obtain ⟨first, others, rfl⟩ := List.exists_cons_of_ne_nil hne
  have hfirst : ∀ digit ∈ [first], digit < 10 := by simpa using hdigits first (by simp)
  have htext := pointText_toNat hfirst
    (fun digit hdigit ↦ hdigits digit (List.mem_cons_of_mem _ hdigit)) (.inl rfl)
  rw [List.singleton_append] at htext
  rw [List.length_cons, Nat.add_sub_cancel, htext, scientific, exponentPart_eq]
  cases others with
  | nil => rfl
  | cons second others => rfl

end Digits

/-! ## What the texts denote -/

/-- A text with places is a decimal literal for its units divided by a power of ten, also with an
exponent. -/
theorem denotes_pointText_append (places units : Nat) {exponent : Int} {mark : List Char}
    (hmark : ExponentSpelling exponent mark) :
    Denotes (pointText places units ++ mark) ((units : Rat) * powerOfTen (exponent - places)) := by
  have hlength := length_lastDigits places units
  obtain ⟨digits, hdigits⟩ : ∃ digits,
      digits = ofNat 10 (units / 10 ^ places) ++ lastDigits places units := ⟨_, rfl⟩
  have hne : digits ≠ [] := by
    rw [hdigits]
    exact List.append_ne_nil_of_left_ne_nil (ofNat_ne_nil 10 _) _
  have hlow : ∀ digit ∈ digits, digit < 10 := by
    rw [hdigits]
    exact List.forall_mem_append.2
      ⟨fun digit ↦ lt_of_mem_ofNat (by omega), lt_of_mem_lastDigits places units⟩
  have hvalue : toNat 10 digits = units := by
    rw [hdigits, toNat_append, toNat_ofNat, hlength, toNat_lastDigits, Nat.mul_comm,
      Nat.div_add_mod]
  have hchars : numeral (units / 10 ^ places) ++ chars (lastDigits places units) =
      chars digits := by rw [hdigits, chars_append, numeral]
  have hplace : exponent - ((chars (lastDigits places units)).length : Int) =
      exponent - places + digits.length - digits.length := by
    rw [chars, List.length_map, hlength]
    omega
  obtain ⟨point, hpoint, htext⟩ : ∃ point,
      FractionSpelling (chars (lastDigits places units)) point ∧
        pointText places units = numeral (units / 10 ^ places) ++ point := by
    unfold pointText
    by_cases hplaces : places = 0
    · subst hplaces
      exact ⟨[], .absent, rfl⟩
    · rw [if_neg hplaces]
      exact ⟨_, .point fun _ ↦ isDigit_of_mem_chars (lt_of_mem_lastDigits places units), rfl⟩
  have hdenotes := denotes_of_chars hne hlow (exponent - places + digits.length) hchars hpoint
    hmark hplace
  rwa [← htext, Decimal.toRat, hvalue, Int.add_sub_cancel] at hdenotes

/-- A text with a point denotes its units in the last place. -/
theorem denotes_pointText (places units : Nat) :
    Denotes (pointText places units) ((units : Rat) * powerOfTen (-places)) := by
  have hdenotes := denotes_pointText_append places units .absent
  rwa [List.append_nil, Int.zero_sub] at hdenotes

end Numeral

end Numbering
