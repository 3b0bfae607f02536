import Numbering.Json.Number
import Numbering.Proofs.Decimal.Literal
import Numbering.Proofs.Text.Digits

/-!
# The grammar of JSON numbers

`NumberSpelling` says how a token is written: a minus sign or nothing, digits without a superfluous
zero in front, a point with at least one digit or nothing, and an exponent or nothing. Scanning
such a text finds the token, and stops where the text ends (`Json.scanNumber_of_spelling`).
-/

namespace Numbering.Json

open Digits Text Literal

/-- The character may go on with a number. -/
def extendsNumber (char : Char) : Bool :=
  isDecimal char || char = '.' || char = 'e' || char = 'E'

/-- The text is a point and digits, or nothing at all. -/
inductive PointSpelling : List Nat → List Char → Prop where
  | absent : PointSpelling [] []
  | point {fraction : List Nat} (hne : fraction ≠ [])
      (hdigits : ∀ digit ∈ fraction, digit < 10) :
      PointSpelling fraction ('.' :: chars fraction)

/-- The text is a token as a JSON document writes it. -/
inductive NumberSpelling : NumberToken → List Char → Prop where
  | intro (negative : Bool) {whole fraction : List Nat} {exponent : Int} {point mark : List Char}
      (hne : whole ≠ []) (hdigits : ∀ digit ∈ whole, digit < 10)
      (hlead : whole = [0] ∨ whole.head? ≠ some 0) (hpoint : PointSpelling fraction point)
      (hmark : ExponentSpelling exponent mark) :
      NumberSpelling ⟨negative, whole, fraction, exponent⟩
        (signText negative ++ (chars whole ++ (point ++ mark)))

section Rest

variable {rest : List Char} (hrest : StopsRun extendsNumber rest)

include hrest

/-- What stops a token of a number stops its digits. -/
theorem stopsRun_isDecimal : StopsRun isDecimal rest := by
  intro char hchar
  have hstop := hrest char hchar
  simp only [extendsNumber, Bool.or_eq_false_iff] at hstop
  exact hstop.1.1.1

/-- Digits with a sign behind an `e` are scanned up to what does not go on with a number. -/
theorem scanExponent_cons {mark : Char} {signed digits : List Char} {negative : Bool}
    (hmark : mark = 'e' ∨ mark = 'E') (hsign : takeSign signed = (negative, digits ++ rest))
    (hrun : IsRun digits) :
    scanExponent (mark :: signed) =
      .ok (if negative then -(decimalNat digits : Int) else decimalNat digits, rest) := by
  unfold scanExponent
  dsimp only
  rw [if_pos hmark, hsign]
  dsimp only
  rw [takeDigits_run hrun.isDigit (stopsRun_isDecimal hrest)]
  exact if_neg (by simpa using hrun.ne_nil)

/-- An exponent in front of what does not go on with a number is scanned as a whole. -/
theorem scanExponent_of_spelling {exponent : Int} {mark : List Char}
    (hmark : ExponentSpelling exponent mark) :
    scanExponent (mark ++ rest) = .ok (exponent, rest) := by
  cases hmark with
  | absent =>
      cases rest with
      | nil => rfl
      | cons char rest =>
          have hstop := stopsRun_cons.1 hrest
          simp only [extendsNumber, Bool.or_eq_false_iff, decide_eq_false_iff_not] at hstop
          exact if_neg (not_or.2 ⟨hstop.1.2, hstop.2⟩)
  | @unsigned _ digits hcase hrun =>
      obtain ⟨first, others, rfl⟩ := List.exists_cons_of_ne_nil hrun.ne_nil
      have hfirst := hrun.isDigit first (by simp)
      exact scanExponent_cons hrest hcase
        (takeSign_of_ne (hfirst.ne (by decide)) (hfirst.ne (by decide))) hrun
  | @plus _ digits hcase hrun =>
      have hsign : takeSign ('+' :: (digits ++ rest)) = (false, digits ++ rest) := rfl
      exact scanExponent_cons hrest hcase hsign hrun
  | @minus _ digits hcase hrun =>
      have hsign : takeSign ('-' :: (digits ++ rest)) = (true, digits ++ rest) := rfl
      exact scanExponent_cons hrest hcase hsign hrun

/-- Neither a digit nor a point follows on the digits of a number. -/
theorem stops_exponent {exponent : Int} {mark : List Char}
    (hmark : ExponentSpelling exponent mark) :
    StopsRun (fun char ↦ isDecimal char || char = '.') (mark ++ rest) := by
  obtain rfl | ⟨letter, others, rfl, rfl | rfl⟩ := hmark.eq_nil_or_cons
  · intro char hchar
    have hstop := hrest char hchar
    rw [extendsNumber, Bool.or_eq_false_iff, Bool.or_eq_false_iff] at hstop
    exact hstop.1.1
  · exact stopsRun_cons.2 (by decide)
  · exact stopsRun_cons.2 (by decide)

end Rest

section After

variable {after : List Char}
  (hafter : StopsRun (fun char ↦ isDecimal char || char = '.') after)

include hafter

/-- A fraction is scanned up to what goes on with neither a digit nor a point. -/
theorem scanFraction_of_spelling {fraction : List Nat} {point : List Char}
    (hpoint : PointSpelling fraction point) :
    scanFraction (point ++ after) = .ok (fraction, after) := by
  cases hpoint with
  | absent =>
      cases after with
      | nil => rfl
      | cons char after =>
          have hstop := stopsRun_cons.1 hafter
          rw [Bool.or_eq_false_iff, decide_eq_false_iff_not] at hstop
          rw [List.nil_append]
          unfold scanFraction
          split
          · rename_i heq
            exact absurd (List.cons.inj heq).1 hstop.2
          · rfl
  | point hne hdigits =>
      have hstop : StopsRun isDecimal after := fun char hchar ↦
        (Bool.or_eq_false_iff.1 (hafter char hchar)).1
      have hempty : ¬ (chars fraction).isEmpty = true := by simpa [chars] using hne
      rw [List.cons_append, scanFraction,
        takeDigits_run (fun _ ↦ isDigit_of_mem_chars hdigits) hstop]
      dsimp only
      rw [if_neg hempty, map_decimalValue_chars hdigits]

/-- Digits in front of the fraction are a run of their own. -/
theorem stopsRun_point {fraction : List Nat} {point : List Char}
    (hpoint : PointSpelling fraction point) : StopsRun isDecimal (point ++ after) := by
  cases hpoint with
  | absent => exact fun char hchar ↦ (Bool.or_eq_false_iff.1 (hafter char hchar)).1
  | point _ _ => exact stopsRun_cons.2 (by decide)

end After

/-- A number starts with a minus sign or a digit. -/
theorem NumberSpelling.eq_cons {token : NumberToken} {text : List Char}
    (htext : NumberSpelling token text) :
    ∃ first others, text = first :: others ∧ (first = '-' ∨ IsDigit first) := by
  obtain ⟨negative, hne, hdigits, -, -, -⟩ := htext
  cases negative with
  | true => exact ⟨_, _, rfl, .inl rfl⟩
  | false =>
      obtain ⟨digit, digits, rfl⟩ := List.exists_cons_of_ne_nil hne
      exact ⟨_, _, rfl, .inr (character_spec (hdigits digit (by simp))).1⟩

/-- No zero stands in front of other digits. -/
theorem not_superfluous {whole : List Nat} (hdigits : ∀ digit ∈ whole, digit < 10)
    (hlead : whole = [0] ∨ whole.head? ≠ some 0) :
    ¬ ((chars whole).head? = some '0' ∧ 1 < (chars whole).length) := by
  rintro ⟨hhead, hlength⟩
  cases whole with
  | nil => cases hhead
  | cons digit digits =>
      have hvalue := (character_spec (hdigits digit (by simp))).2
      rw [Option.some.inj hhead] at hvalue
      obtain rfl : 0 = digit := hvalue
      rcases hlead with hzero | hother
      · rw [hzero] at hlength
        exact absurd hlength (by decide)
      · exact hother rfl

/-- Scanning a number finds its token and leaves what does not go on with it. -/
theorem scanNumber_of_spelling {token : NumberToken} {text rest : List Char}
    (htext : NumberSpelling token text) (hrest : StopsRun extendsNumber rest) :
    scanNumber (text ++ rest) = .ok (token, rest) := by
  obtain ⟨negative, hne, hdigits, hlead, hpoint, hmark⟩ := htext
  rename_i whole fraction exponent point mark
  have hafter := stops_exponent hrest hmark
  have hunsigned : scanUnsigned negative (chars whole ++ (point ++ (mark ++ rest))) =
      .ok (⟨negative, whole, fraction, exponent⟩, rest) := by
    have hsome : ¬ (chars whole).isEmpty = true := by simpa [chars] using hne
    unfold scanUnsigned
    rw [takeDigits_run (fun _ ↦ isDigit_of_mem_chars hdigits) (stopsRun_point hafter hpoint)]
    dsimp only
    rw [if_neg (not_or.2 ⟨hsome, not_superfluous hdigits hlead⟩),
      scanFraction_of_spelling hafter hpoint]
    dsimp only
    rw [scanExponent_of_spelling hrest hmark, map_decimalValue_chars hdigits]
    rfl
  rw [List.append_assoc, List.append_assoc, List.append_assoc]
  cases negative with
  | true => exact hunsigned
  | false =>
      obtain ⟨digit, digits, rfl⟩ := List.exists_cons_of_ne_nil hne
      have hfirst := (character_spec (hdigits digit (by simp))).1
      refine Eq.trans ?_ hunsigned
      show scanNumber (character digit :: _) = scanUnsigned false (character digit :: _)
      unfold scanNumber
      split
      · rename_i heq
        exact absurd (List.cons.inj heq).1 (hfirst.ne (by decide))
      · rfl

end Numbering.Json
