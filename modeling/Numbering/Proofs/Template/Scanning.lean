import Numbering.Proofs.Template.Writing

/-!
# Scanning placeholders

The scanner takes a placeholder off a text precisely when the text begins with the writing of that
well-formed placeholder (`Placeholder.scan?_eq_some_iff`). In particular the scan does not depend
on what comes after the conversion letter, and no two placeholders are written alike.
-/

namespace Numbering

open Text Digits

namespace Placeholder

/-! ## Scanning what is written -/

/-- A run of digits that may be absent is scanned as it is written. -/
theorem scanDigits_append {digits? : Option (List Char)} {rest : List Char}
    (hdigits : ∀ digits ∈ digits?, IsRun digits) (hstop : StopsRun isDecimal rest) :
    scanDigits (digits?.getD [] ++ rest) = (digits?, rest) := by
  have hrun : ∀ char ∈ digits?.getD [], isDecimal char = true := by
    cases digits? with
    | none => simp
    | some digits => exact (hdigits digits rfl).isDecimal
  rw [scanDigits, takeWhile_run hrun hstop, dropWhile_run hrun hstop]
  cases digits? with
  | none => rfl
  | some digits => simp [(hdigits digits rfl).ne_nil]

/-- A flag is scanned as it is written. -/
theorem scanFlag_append {flag : Char} {rest : List Char} (given : Bool)
    (hstop : StopsRun (· = flag) rest) : scanFlag flag (flagText flag given ++ rest) =
      (given, rest) := by
  cases given with
  | true => simp [flagText, scanFlag]
  | false =>
      cases rest with
      | nil => rfl
      | cons char rest =>
          have hne : char ≠ flag := by simpa using hstop
          simp [flagText, scanFlag, hne]

/-- A pad is scanned as it is written. -/
theorem scanPadding_append {padding : Option Padding} {rest : List Char}
    (hpadding : padding ≠ some (.custom '$'))
    (hstop : padding = none → StopsRun (fun char ↦ char = '0' ∨ char = '\'') rest) :
    scanPadding (paddingText padding ++ rest) = (padding, rest) := by
  cases padding with
  | none =>
      have hstop := hstop rfl
      cases rest with
      | nil => rfl
      | cons char rest =>
          have hne : char ≠ '0' ∧ char ≠ '\'' := by simpa using hstop
          unfold paddingText scanPadding
          split
          · rename_i heq
            cases heq
            exact absurd rfl hne.1
          · rename_i heq
            cases heq
            exact absurd rfl hne.2
          · rfl
  | some padding =>
      cases padding with
      | zero => rfl
      | custom char =>
          have hne : char ≠ '$' := by
            rintro rfl
            exact hpadding rfl
          simp [paddingText, Padding.text, scanPadding, hne]

/-- A precision is scanned as it is written. -/
theorem scanPrecision_append {precision : Option (List Char)} {rest : List Char}
    (hprecision : ∀ digits ∈ precision, IsRun digits) (hstop : StopsRun isDecimal rest)
    (hpoint : StopsRun (· = '.') rest) :
    scanPrecision (precisionText precision ++ rest) = (precision, rest) := by
  cases precision with
  | none =>
      unfold precisionText scanPrecision
      split
      · rename_i heq
        rw [List.nil_append] at heq
        simp [heq] at hpoint
      · rfl
  | some digits =>
      have hscan : scanDigits (digits ++ rest) = (some digits, rest) :=
        scanDigits_append hprecision hstop
      simp [precisionText, scanPrecision, hscan]

/-- A reference is scanned as it is written. -/
theorem scanReference_append {reference : WrittenReference} {rest : List Char}
    (hreference : reference.WellFormed) (hopening : StopsRun (· = '(') rest)
    (hposition : StopsPosition rest) :
    scanReference (reference.text ++ rest) = (reference, rest) := by
  cases reference with
  | absent =>
      have hnone : scanPosition? rest = none := by
        unfold scanPosition?
        dsimp only
        split
        · rename_i first others after htake hdrop
          simp [StopsPosition, hdrop] at hposition
        · rfl
      unfold WrittenReference.text scanReference
      split
      · rename_i heq
        rw [List.nil_append] at heq
        simp [heq] at hopening
      · rw [List.nil_append, hnone]
  | position digits =>
      obtain ⟨hrun, hfirst⟩ := hreference
      have hstop : StopsRun isDecimal ('$' :: rest) := stopsRun_cons.2 (by decide)
      have htext : WrittenReference.text (.position digits) ++ rest = digits ++ '$' :: rest := by
        simp [WrittenReference.text]
      have hsome : scanPosition? (digits ++ '$' :: rest) = some (digits, rest) := by
        unfold scanPosition?
        rw [takeWhile_run hrun.isDecimal hstop, dropWhile_run hrun.isDecimal hstop]
        cases digits with
        | nil => exact absurd rfl hrun.ne_nil
        | cons first others =>
            have hzero : first ≠ '0' := by simpa using hfirst
            simp [hzero]
      rw [htext]
      unfold scanReference
      split
      · rename_i inner heq
        cases digits with
        | nil => exact absurd rfl hrun.ne_nil
        | cons first others =>
            have hdigit := hrun.isDigit first (by simp)
            cases heq
            exact absurd hdigit (by decide)
      · rw [hsome]
  | field chars =>
      obtain ⟨hne, hclosing⟩ := hreference
      have hrun : ∀ char ∈ chars, decide (char ≠ ')') = true := by
        intro char hmem
        rw [decide_eq_true_eq]
        rintro rfl
        exact hclosing hmem
      have hstop : StopsRun (fun char ↦ decide (char ≠ ')')) (')' :: rest) := by
        simp
      have hsome : scanField? (chars ++ ')' :: rest) = some (chars, rest) := by
        unfold scanField?
        rw [takeWhile_run hrun hstop, dropWhile_run hrun hstop]
        simp [hne]
      simp [WrittenReference.text, scanReference, hsome]

/-- A well-formed placeholder is scanned as it is written, whatever comes after it. -/
theorem WellFormed.scan? {placeholder : Placeholder} (hformed : placeholder.WellFormed)
    (rest : List Char) :
    Placeholder.scan? (placeholder.text ++ rest) = some (placeholder, rest) := by
  have hletter := letter_ne placeholder.conversion
  have hsignStop : ∀ sign, ¬ IsDigit sign → sign ≠ '.' → sign ≠ '-' → sign ≠ '\'' →
      placeholder.conversion.letter ≠ sign →
        StopsRun (· = sign) (placeholder.fromPadding rest) := by
    intro sign hdigit hpoint hminus hquote hsign
    refine hformed.stopsRun_fromPadding rest (by simpa using hsign) (by simpa using hpoint.symm) ?_
      (by simpa using hminus.symm) (by simpa using hquote.symm)
    intro char hchar
    simpa using hchar.ne hdigit
  have hreference : scanReference (placeholder.reference.text ++ placeholder.fromSign rest) =
      (placeholder.reference, placeholder.fromSign rest) := by
    refine scanReference_append hformed.reference ?_ (hformed.stopsPosition rest)
    refine (stopsRun_flagText _ (by decide)).append ?_
    exact hsignStop '(' (by decide) (by decide) (by decide) (by decide) (by simp [hletter])
  have hsign : scanFlag '+' (placeholder.fromSign rest) =
      (placeholder.forceSign, placeholder.fromPadding rest) :=
    scanFlag_append _
      (hsignStop '+' (by decide) (by decide) (by decide) (by decide) (by simp [hletter]))
  have hpadding : scanPadding (placeholder.fromPadding rest) =
      (placeholder.padding, placeholder.fromAlignment rest) :=
    scanPadding_append hformed.padding (hformed.stopsPadding rest)
  have halign : scanFlag '-' (placeholder.fromAlignment rest) =
      (placeholder.leftAlign, placeholder.fromWidth rest) := by
    refine scanFlag_append _ (hformed.stopsRun_fromWidth rest (by simp [hletter]) (by decide) ?_)
    intro char hchar
    simpa using hchar.ne (by decide)
  have hwidth : scanDigits (placeholder.fromWidth rest) =
      (placeholder.width, placeholder.fromPrecision rest) :=
    scanDigits_append hformed.width (stopsRun_fromPrecision rest hletter.1 (by decide))
  have hprecision : scanPrecision (placeholder.fromPrecision rest) =
      (placeholder.precision, placeholder.conversion.letter :: rest) :=
    scanPrecision_append hformed.precision (stopsRun_cons.2 hletter.1) (by simp [hletter])
  rw [text_append, Placeholder.scan?]
  simp [hreference, hsign, hpadding, halign, hwidth, hprecision, scanConversion?]

/-! ## What is scanned is written -/

/-- Nothing of a run of digits is lost. -/
theorem eq_append_of_scanDigits {chars rest : List Char} {digits? : Option (List Char)}
    (hscan : scanDigits chars = (digits?, rest)) :
    chars = digits?.getD [] ++ rest ∧ ∀ digits ∈ digits?, IsRun digits := by
  have hwhole := List.takeWhile_append_dropWhile (p := isDecimal) (l := chars)
  unfold scanDigits at hscan
  dsimp only at hscan
  split at hscan
  · rename_i hempty
    cases hscan
    rw [List.isEmpty_iff.1 hempty] at hwhole
    exact ⟨hwhole.symm, by simp⟩
  · rename_i hne
    cases hscan
    refine ⟨hwhole.symm, ?_⟩
    rintro digits ⟨⟩
    exact isRun_takeWhile (by simpa using hne)

/-- Nothing of a flag is lost. -/
theorem eq_append_of_scanFlag {flag : Char} {chars rest : List Char} {given : Bool}
    (hscan : scanFlag flag chars = (given, rest)) : chars = flagText flag given ++ rest := by
  cases chars with
  | nil =>
      cases hscan
      rfl
  | cons char chars =>
      rw [scanFlag] at hscan
      split at hscan
      · rename_i hflag
        cases hscan
        rw [hflag]
        rfl
      · cases hscan
        rfl

/-- Nothing of a pad is lost; a zero that is left over is none. -/
theorem eq_append_of_scanPadding {chars rest : List Char} {padding : Option Padding}
    (hscan : scanPadding chars = (padding, rest)) :
    chars = paddingText padding ++ rest ∧ padding ≠ some (.custom '$') ∧
      (padding = none → rest.head? ≠ some '0') := by
  unfold scanPadding at hscan
  split at hscan
  · cases hscan
    exact ⟨rfl, by simp, by simp⟩
  · split at hscan
    · rename_i hdollar
      cases hscan
      exact ⟨rfl, by simp, by simp⟩
    · rename_i hdollar
      cases hscan
      refine ⟨rfl, ?_, by simp⟩
      intro heq
      cases heq
      exact hdollar rfl
  · rename_i hzero _
    cases hscan
    refine ⟨rfl, by simp, fun _ hhead ↦ ?_⟩
    obtain ⟨others, heq⟩ := List.head?_eq_some_iff.1 hhead
    exact hzero others heq

/-- Nothing of a precision is lost. -/
theorem eq_append_of_scanPrecision {chars rest : List Char} {precision : Option (List Char)}
    (hscan : scanPrecision chars = (precision, rest)) :
    chars = precisionText precision ++ rest ∧ ∀ digits ∈ precision, IsRun digits := by
  unfold scanPrecision at hscan
  split at hscan
  · rename_i afterPoint
    split at hscan
    · rename_i digits after hdigits
      cases hscan
      obtain ⟨hafter, hrun⟩ := eq_append_of_scanDigits hdigits
      exact ⟨congrArg _ hafter, hrun⟩
    · cases hscan
      exact ⟨rfl, by simp⟩
  · cases hscan
    exact ⟨rfl, by simp⟩

/-- Nothing of a conversion is lost. -/
theorem eq_cons_of_scanConversion? {chars rest : List Char} {conversion : Conversion}
    (hscan : scanConversion? chars = some (conversion, rest)) :
    chars = conversion.letter :: rest := by
  cases chars with
  | nil => cases hscan
  | cons char chars =>
      obtain ⟨found, hfound, heq⟩ := Option.map_eq_some_iff.1 hscan
      cases heq
      rw [Conversion.letter_of_ofLetter? hfound]

/-- Nothing of a reference is lost. -/
theorem eq_append_of_scanReference {chars rest : List Char} {reference : WrittenReference}
    (hscan : scanReference chars = (reference, rest)) :
    chars = reference.text ++ rest ∧ reference.WellFormed := by
  unfold scanReference at hscan
  split at hscan
  · rename_i inner
    have hwhole :=
      List.takeWhile_append_dropWhile (p := fun char ↦ decide (char ≠ ')')) (l := inner)
    have hstop := stopsRun_dropWhile (fun char ↦ decide (char ≠ ')')) inner
    split at hscan
    · rename_i field after hfield
      cases hscan
      unfold scanField? at hfield
      dsimp only at hfield
      split at hfield
      · rename_i closing others hdrop
        rw [hdrop] at hwhole hstop
        split at hfield
        · cases hfield
        · rename_i hne
          cases hfield
          have hclosing : closing = ')' := by simpa using hstop
          subst hclosing
          refine ⟨?_, by simpa using hne, fun hmem ↦ ?_⟩
          · simpa [WrittenReference.text] using hwhole.symm
          · exact absurd (of_mem_takeWhile hmem) (by decide)
      · cases hfield
    · cases hscan
      exact ⟨rfl, trivial⟩
  · have hwhole := List.takeWhile_append_dropWhile (p := isDecimal) (l := chars)
    split at hscan
    · rename_i digits after hposition
      cases hscan
      unfold scanPosition? at hposition
      dsimp only at hposition
      split at hposition
      · rename_i first others dropped htake hdrop
        split at hposition
        · cases hposition
        · rename_i hzero
          cases hposition
          have hrun : IsRun (chars.takeWhile isDecimal) := isRun_takeWhile (by rw [htake]; simp)
          rw [hdrop] at hwhole
          refine ⟨?_, hrun, ?_⟩
          · simpa [WrittenReference.text] using hwhole.symm
          · rw [htake]
            simpa using hzero
      · cases hposition
    · cases hscan
      exact ⟨rfl, trivial⟩

/-- The scanner takes a placeholder precisely off a text that begins with the writing of it. -/
theorem scan?_eq_some_iff {chars rest : List Char} {placeholder : Placeholder} :
    Placeholder.scan? chars = some (placeholder, rest) ↔
      placeholder.WellFormed ∧ chars = placeholder.text ++ rest := by
  constructor
  · intro hscan
    rcases hreference : scanReference chars with ⟨reference, atSign⟩
    rcases hsign : scanFlag '+' atSign with ⟨forceSign, atPadding⟩
    rcases hpadding : scanPadding atPadding with ⟨padding, atAlignment⟩
    rcases halign : scanFlag '-' atAlignment with ⟨leftAlign, atWidth⟩
    rcases hwidth : scanDigits atWidth with ⟨width, atPrecision⟩
    rcases hprecision : scanPrecision atPrecision with ⟨precision, atConversion⟩
    simp only [Placeholder.scan?, hreference, hsign, hpadding, halign, hwidth, hprecision] at hscan
    obtain ⟨⟨conversion, after⟩, hconversion, heq⟩ := Option.map_eq_some_iff.1 hscan
    cases heq
    -- From the front to the back, each scan gives its part of the writing.
    obtain ⟨rfl, hformed⟩ := eq_append_of_scanReference hreference
    obtain rfl := eq_append_of_scanFlag hsign
    obtain ⟨rfl, hdollar, hzero⟩ := eq_append_of_scanPadding hpadding
    obtain rfl := eq_append_of_scanFlag halign
    obtain ⟨rfl, hwidthRun⟩ := eq_append_of_scanDigits hwidth
    obtain ⟨rfl, hprecisionRun⟩ := eq_append_of_scanPrecision hprecision
    obtain rfl := eq_cons_of_scanConversion? hconversion
    refine ⟨⟨hformed, hdollar, hwidthRun, hprecisionRun, ?_⟩, by simp [text]⟩
    intro hnone hhead
    refine hzero hnone ?_
    rw [← List.append_assoc, List.head?_append, hhead, Option.some_or]
  · rintro ⟨hformed, rfl⟩
    exact hformed.scan? rest

end Placeholder

end Numbering
