import Numbering.Proofs.Template.Alternatives

/-!
# The first match of a placeholder

Going back never helps the pattern of a placeholder: whatever part it could take differently, the
rest of the pattern refuses what is left then. So the scanner, which decides every alternative at
once, gives the first match of the pattern (`Placeholder.head?_ways`).
-/

namespace Numbering

open Text Digits

namespace Placeholder

open Ways

/-! ## What the remaining parts refuse -/

/-- No digit is the letter of a conversion. -/
theorem ofLetter?_digit {char : Char} (hdigit : isDecimal char = true) :
    Conversion.ofLetter? char = none := by
  cases hletter : Conversion.ofLetter? char with
  | none => rfl
  | some conversion =>
      rw [← Conversion.letter_of_ofLetter? hletter, (letter_ne conversion).1] at hdigit
      cases hdigit

section Refuses

variable {char : Char} (hletter : Conversion.ofLetter? char = none)

include hletter

/-- The last part starts with the letter of a conversion. -/
theorem refuses_conversionThen (build : OfConversion) : Refuses (conversionThen build) char := by
  intro rest
  have hnone : scanConversion? (char :: rest) = none := by
    rw [scanConversion?, hletter]
    rfl
  show (scanConversion? (char :: rest)).toList.flatMap _ = []
  rw [hnone]
  rfl

/-- From the precision on, the first character is a point or such a letter. -/
theorem refuses_precisionThen (build : OfPrecision) (hpoint : char ≠ '.') :
    Refuses (precisionThen build) char := by
  refine Refuses.optional ?_ (refuses_conversionThen hletter _)
  rw [andThen_assoc]
  exact refuses_one (decide_eq_false hpoint)

/-- From the width on, it may be a digit as well. -/
theorem refuses_widthThen (build : OfWidth) (hpoint : char ≠ '.')
    (hdigit : isDecimal char = false) : Refuses (widthThen build) char :=
  Refuses.optional (refuses_runWays hdigit) (refuses_precisionThen hletter _ hpoint)

/-- From the alignment on, it may be a minus sign as well. -/
theorem refuses_alignmentThen (build : OfAlignment) (hpoint : char ≠ '.')
    (hdigit : isDecimal char = false) (hminus : char ≠ '-') :
    Refuses (alignmentThen build) char := by
  refine Refuses.optional ?_ (refuses_widthThen hletter _ hpoint hdigit)
  rw [andThen_assoc]
  exact refuses_one (decide_eq_false hminus)

/-- From the padding on, it may be an apostrophe as well. -/
theorem refuses_paddingThen (build : OfPadding) (hpoint : char ≠ '.')
    (hdigit : isDecimal char = false) (hminus : char ≠ '-')
    (hquote : char ≠ '\'') : Refuses (paddingThen build) char := by
  have hzero : char ≠ '0' := by
    rintro rfl
    exact absurd hdigit (by decide)
  refine Refuses.optional ?_ (refuses_alignmentThen hletter _ hpoint hdigit hminus)
  intro rest
  rw [orElse_andThen, andThen_assoc, andThen_assoc, refuses_one (decide_eq_false hzero) rest,
    refuses_one (decide_eq_false hquote) rest]
  rfl

/-- From the sign on, it may be a plus sign as well. -/
theorem refuses_signThen (build : OfSign) (hpoint : char ≠ '.')
    (hdigit : isDecimal char = false) (hminus : char ≠ '-') (hquote : char ≠ '\'')
    (hplus : char ≠ '+') : Refuses (signThen build) char := by
  refine Refuses.optional ?_ (refuses_paddingThen hletter _ hpoint hdigit hminus hquote)
  rw [andThen_assoc]
  exact refuses_one (decide_eq_false hplus)

end Refuses

/-! ## The first match -/

/-- The first way through the last part is the one that is scanned. -/
theorem head?_conversionThen (build : OfConversion) (chars : List Char) :
    (conversionThen build chars).head? =
      (scanConversion? chars).map fun found ↦ (build found.1, found.2) := by
  show ((scanConversion? chars).toList.flatMap fun way ↦ done (build way.1) way.2).head? = _
  cases scanConversion? chars with
  | none => rfl
  | some found => rfl

/-- From the precision on, the first way takes the precision that is scanned. -/
theorem head?_precisionThen (build : OfPrecision) (chars : List Char) :
    (precisionThen build chars).head? =
      (conversionThen (build (scanPrecision chars).1) (scanPrecision chars).2).head? :=
  head?_precisionWays
    (fun _ _ hdigit ↦ refuses_conversionThen (ofLetter?_digit hdigit) _)
    (refuses_conversionThen rfl _) chars

/-- From the width on, the first way takes the width that is scanned. -/
theorem head?_widthThen (build : OfWidth) (chars : List Char) :
    (widthThen build chars).head? =
      (precisionThen (build (scanDigits chars).1) (scanDigits chars).2).head? := by
  refine head?_widthWays (fun _ char hdigit ↦ ?_) chars
  refine refuses_precisionThen (ofLetter?_digit hdigit) _ ?_
  rintro rfl
  exact absurd hdigit (by decide)

/-- From the alignment on, the first way takes the alignment that is scanned. -/
theorem head?_alignmentThen (build : OfAlignment) (chars : List Char) :
    (alignmentThen build chars).head? =
      (widthThen (build (scanFlag '-' chars).1) (scanFlag '-' chars).2).head? :=
  head?_flagWays (refuses_widthThen rfl _ (by decide) (by decide)) chars

/-- Whether anything matches from the alignment on can be told from what is scanned. -/
theorem alignmentThen_eq_nil_iff {build : OfAlignment} {chars : List Char} :
    alignmentThen build chars = [] ↔
      scanConversion? (scanPrecision (scanDigits (scanFlag '-' chars).2).2).2 = none := by
  rw [← List.head?_eq_none_iff, head?_alignmentThen, head?_widthThen, head?_precisionThen,
    head?_conversionThen, Option.map_eq_none_iff]

/-- When nothing matches behind a zero, nothing matches with the zero as a digit of the width. -/
theorem alignmentThen_zero {build other : OfAlignment} {rest : List Char}
    (hnone : alignmentThen build rest = []) : alignmentThen other ('0' :: rest) = [] := by
  rw [alignmentThen_eq_nil_iff] at hnone ⊢
  have hzero : (scanDigits (scanFlag '-' ('0' :: rest)).2).2 = rest.dropWhile isDecimal := by
    rw [scanFlag, if_neg (by decide), scanDigits_cons (by decide)]
  rw [hzero]
  -- Both sides read the same digits off the rest, unless a minus sign stands in front of them.
  cases rest with
  | nil => exact hnone
  | cons char rest =>
      by_cases hminus : char = '-'
      · rw [hminus]
        rfl
      · rwa [scanFlag, if_neg hminus] at hnone

/-- From the padding on, the first way takes the padding that is scanned. -/
theorem head?_paddingThen (build : OfPadding) (chars : List Char) :
    (paddingThen build chars).head? =
      (alignmentThen (build (scanPadding chars).1) (scanPadding chars).2).head? :=
  head?_paddingWays (fun _ ↦ alignmentThen_zero)
    (refuses_alignmentThen rfl _ (by decide) (by decide) (by decide)) chars

/-- From the sign on, the first way takes the sign that is scanned. -/
theorem head?_signThen (build : OfSign) (chars : List Char) :
    (signThen build chars).head? =
      (paddingThen (build (scanFlag '+' chars).1) (scanFlag '+' chars).2).head? :=
  head?_flagWays
    (refuses_paddingThen rfl _ (by decide) (by decide) (by decide) (by decide)) chars

/-- A number in front of a dollar sign is not matched as a width. -/
theorem signThen_position (build : OfSign) {digits : List Char} (rest : List Char)
    (hrun : IsRun digits) (hfirst : digits.head? ≠ some '0') :
    signThen build (digits ++ '$' :: rest) = [] := by
  cases digits with
  | nil => exact absurd rfl hrun.ne_nil
  | cons first others =>
      have hdigit := hrun.isDigit first (by simp)
      have hstop : StopsRun isDecimal ('$' :: rest) := stopsRun_cons.2 (by decide)
      have hsign : scanFlag '+' (first :: others ++ '$' :: rest) =
          (false, first :: others ++ '$' :: rest) := if_neg (hdigit.ne (by decide))
      have hpadding : scanPadding (first :: others ++ '$' :: rest) =
          (none, first :: others ++ '$' :: rest) := by
        refine scanPadding_append (by simp : none ≠ some (Padding.custom '$')) fun _ ↦
          stopsRun_cons.2 ?_
        have hquote := hdigit.ne (by decide : ¬ IsDigit '\'')
        have hzero : first ≠ '0' := by simpa using hfirst
        simp [hquote, hzero]
      have halign : scanFlag '-' (first :: others ++ '$' :: rest) =
          (false, first :: others ++ '$' :: rest) := if_neg (hdigit.ne (by decide))
      have hwidth : scanDigits (first :: others ++ '$' :: rest) =
          (some (first :: others), '$' :: rest) := by
        show scanDigits ((some (first :: others)).getD [] ++ '$' :: rest) = _
        exact scanDigits_append (by simpa using hrun) hstop
      rw [← List.head?_eq_none_iff, head?_signThen, hsign, head?_paddingThen, hpadding,
        List.head?_eq_none_iff, alignmentThen_eq_nil_iff, halign, hwidth]
      rfl

/-- The scanner gives the first match of the pattern, if there is any. -/
theorem head?_ways (chars : List Char) : (ways chars).head? = scan? chars := by
  have hopen : Refuses (signThen (Placeholder.mk .absent)) '(' :=
    refuses_signThen rfl _ (by decide) (by decide) (by decide) (by decide) (by decide)
  have hreference : (ways chars).head? =
      (signThen (Placeholder.mk (scanReference chars).1) (scanReference chars).2).head? :=
    head?_referenceWays hopen (fun _ rest ↦ signThen_position _ rest) chars
  rw [hreference, head?_signThen, head?_paddingThen, head?_alignmentThen, head?_widthThen,
    head?_precisionThen, head?_conversionThen]
  rfl

end Placeholder

end Numbering
