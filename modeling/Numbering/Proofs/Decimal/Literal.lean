import Numbering.Decimal.Literal
import Numbering.Proofs.Text.Runs

/-!
# The grammar of decimal literals

`Literal.Spelling` says which texts are an unsigned decimal literal, and for which significand and
power of ten. Scanning such a text takes all of it and finds that significand and that power
(`Literal.scan?_of_spelling`).
-/

namespace Numbering

open Digits Text

namespace Literal

/-- The text is a point and digits, or nothing at all. -/
inductive FractionSpelling : List Char → List Char → Prop where
  | absent : FractionSpelling [] []
  | point {digits : List Char} (hdigits : ∀ char ∈ digits, IsDigit char) :
      FractionSpelling digits ('.' :: digits)

/-- The text is an `e` of either case with digits and an optional sign, or nothing at all. -/
inductive ExponentSpelling : Int → List Char → Prop where
  | absent : ExponentSpelling 0 []
  | unsigned {mark : Char} {digits : List Char} (hmark : mark = 'e' ∨ mark = 'E')
      (hrun : IsRun digits) : ExponentSpelling (decimalNat digits : Nat) (mark :: digits)
  | plus {mark : Char} {digits : List Char} (hmark : mark = 'e' ∨ mark = 'E')
      (hrun : IsRun digits) : ExponentSpelling (decimalNat digits : Nat) (mark :: '+' :: digits)
  | minus {mark : Char} {digits : List Char} (hmark : mark = 'e' ∨ mark = 'E')
      (hrun : IsRun digits) : ExponentSpelling (-(decimalNat digits : Nat)) (mark :: '-' :: digits)

/-- The text is an unsigned decimal literal with a significand and a power of ten. -/
inductive Spelling : Nat → Int → List Char → Prop where
  | intro {whole fraction point mark : List Char} {exponent : Int}
      (hwhole : ∀ char ∈ whole, IsDigit char) (hpoint : FractionSpelling fraction point)
      (hdigits : whole ++ fraction ≠ []) (hmark : ExponentSpelling exponent mark) :
      Spelling (decimalNat (whole ++ fraction)) (exponent - fraction.length)
        (whole ++ point ++ mark)

/-- The sign of a literal. -/
def signText (negative : Bool) : List Char := if negative then ['-'] else []

/-! ## Characters of literals -/

/-- The character may stand in a decimal literal. -/
def IsLiteralChar (char : Char) : Prop := IsDigit char ∨ char ∈ ['.', 'e', 'E', '+', '-']

instance (char : Char) : Decidable (IsLiteralChar char) := inferInstanceAs (Decidable (_ ∨ _))

section Chars

variable {char : Char} {text : List Char}

/-- A fraction is spelled with characters of literals. -/
theorem FractionSpelling.isLiteralChar {fraction : List Char}
    (hpoint : FractionSpelling fraction text) (hchar : char ∈ text) : IsLiteralChar char := by
  cases hpoint with
  | absent => cases hchar
  | point hdigits =>
      rcases List.mem_cons.1 hchar with rfl | hchar
      · decide
      · exact Or.inl (hdigits char hchar)

/-- An exponent is spelled with characters of literals. -/
theorem ExponentSpelling.isLiteralChar {exponent : Int} (hmark : ExponentSpelling exponent text)
    (hchar : char ∈ text) : IsLiteralChar char := by
  have hletter : ∀ {mark : Char}, mark = 'e' ∨ mark = 'E' → IsLiteralChar mark := by
    rintro mark (rfl | rfl)
    · decide
    · decide
  cases hmark with
  | absent => cases hchar
  | unsigned hcase hrun =>
      rcases List.mem_cons.1 hchar with rfl | hchar
      · exact hletter hcase
      · exact Or.inl (hrun.isDigit char hchar)
  | plus hcase hrun | minus hcase hrun =>
      rcases List.mem_cons.1 hchar with rfl | hchar
      · exact hletter hcase
      · rcases List.mem_cons.1 hchar with rfl | hchar
        · decide
        · exact Or.inl (hrun.isDigit char hchar)

/-- A literal is spelled with characters of literals. -/
theorem Spelling.isLiteralChar {significand : Nat} {exponent : Int}
    (htext : Spelling significand exponent text) (hchar : char ∈ text) : IsLiteralChar char := by
  obtain ⟨hwhole, hpoint, -, hmark⟩ := htext
  rcases List.mem_append.1 hchar with hchar | hchar
  · rcases List.mem_append.1 hchar with hchar | hchar
    · exact Or.inl (hwhole char hchar)
    · exact hpoint.isLiteralChar hchar
  · exact hmark.isLiteralChar hchar

/-- A literal starts with a digit or a point. -/
theorem Spelling.eq_cons {significand : Nat} {exponent : Int}
    (htext : Spelling significand exponent text) :
    ∃ first rest, text = first :: rest ∧ (IsDigit first ∨ first = '.') := by
  obtain @⟨whole, fraction, point, mark, _, hwhole, hpoint, hdigits, -⟩ := htext
  cases whole with
  | cons first whole => exact ⟨first, _, rfl, Or.inl (hwhole first (by simp))⟩
  | nil =>
      cases hpoint with
      | absent => exact absurd rfl hdigits
      | point hfraction => exact ⟨'.', _, rfl, Or.inr rfl⟩

end Chars

/-! ## Scanning -/

/-- All digits in front of something else are taken. -/
theorem takeDigits_run {digits rest : List Char} (hdigits : ∀ char ∈ digits, IsDigit char)
    (hstop : StopsRun isDecimal rest) : takeDigits (digits ++ rest) = (digits, rest) := by
  have hrun : ∀ char ∈ digits, isDecimal char = true :=
    fun char hchar ↦ isDecimal_iff.2 (hdigits char hchar)
  rw [takeDigits, takeWhile_run hrun hstop, dropWhile_run hrun hstop]

/-- All of the digits are taken. -/
theorem takeDigits_all {digits : List Char} (hdigits : ∀ char ∈ digits, IsDigit char) :
    takeDigits digits = (digits, []) := by
  have htaken := takeDigits_run hdigits (stopsRun_nil isDecimal)
  rwa [List.append_nil] at htaken

/-- A text that starts with anything but a sign has none. -/
theorem takeSign_of_ne {first : Char} {rest : List Char} (hminus : first ≠ '-')
    (hplus : first ≠ '+') : takeSign (first :: rest) = (false, first :: rest) := by
  unfold takeSign
  split
  · rename_i heq
    exact absurd (List.cons.inj heq).1 hminus
  · rename_i heq
    exact absurd (List.cons.inj heq).1 hplus
  · rfl

/-- A written sign is taken. -/
theorem takeSign_signText (negative : Bool) {first : Char} {rest : List Char}
    (hminus : first ≠ '-') (hplus : first ≠ '+') :
    takeSign (signText negative ++ first :: rest) = (negative, first :: rest) := by
  cases negative with
  | true => rfl
  | false => exact takeSign_of_ne hminus hplus

/-- In front of a run of digits there is no sign to take. -/
theorem takeSign_run {digits : List Char} (hrun : IsRun digits) :
    takeSign digits = (false, digits) := by
  cases digits with
  | nil => exact absurd rfl hrun.ne_nil
  | cons first rest =>
      have hfirst := hrun.isDigit first (by simp)
      exact takeSign_of_ne (hfirst.ne (by decide)) (hfirst.ne (by decide))

/-- Digits with a sign behind an `e` are taken as a whole. -/
theorem takeExponent_cons {mark : Char} {rest digits : List Char} {negative : Bool}
    (hmark : mark = 'e' ∨ mark = 'E') (hsign : takeSign rest = (negative, digits))
    (hrun : IsRun digits) :
    takeExponent (mark :: rest) =
      (if negative then -(decimalNat digits : Int) else decimalNat digits, []) := by
  unfold takeExponent
  dsimp only
  rw [if_pos hmark, hsign]
  dsimp only
  rw [takeDigits_all hrun.isDigit]
  exact if_neg (by simpa using hrun.ne_nil)

/-- An exponent part is taken as a whole. -/
theorem takeExponent_of_spelling {exponent : Int} {text : List Char}
    (hmark : ExponentSpelling exponent text) : takeExponent text = (exponent, []) := by
  cases hmark with
  | absent => rfl
  | unsigned hcase hrun => exact takeExponent_cons hcase (takeSign_run hrun) hrun
  | plus hcase hrun => exact takeExponent_cons hcase rfl hrun
  | minus hcase hrun => exact takeExponent_cons hcase rfl hrun

/-- An exponent part does not go on with a digit or a point. -/
theorem ExponentSpelling.eq_nil_or_cons {exponent : Int} {text : List Char}
    (hmark : ExponentSpelling exponent text) :
    text = [] ∨ ∃ mark rest, text = mark :: rest ∧ (mark = 'e' ∨ mark = 'E') := by
  cases hmark with
  | absent => exact Or.inl rfl
  | unsigned hcase _ | plus hcase _ | minus hcase _ => exact Or.inr ⟨_, _, rfl, hcase⟩

/-- No digit stands at the front of an exponent. -/
theorem ExponentSpelling.stopsRun {exponent : Int} {text : List Char}
    (hmark : ExponentSpelling exponent text) : StopsRun isDecimal text := by
  obtain rfl | ⟨mark, rest, rfl, rfl | rfl⟩ := hmark.eq_nil_or_cons
  · exact stopsRun_nil _
  · exact stopsRun_cons.2 (by decide)
  · exact stopsRun_cons.2 (by decide)

/-- The fraction in front of an exponent part is taken as a whole. -/
theorem takeFraction_of_spelling {fraction point mark : List Char} {exponent : Int}
    (hpoint : FractionSpelling fraction point) (hmark : ExponentSpelling exponent mark) :
    takeFraction (point ++ mark) = (fraction, mark) := by
  cases hpoint with
  | absent =>
      obtain rfl | ⟨letter, rest, rfl, rfl | rfl⟩ := hmark.eq_nil_or_cons
      · rfl
      · rfl
      · rfl
  | point hdigits => exact takeDigits_run hdigits hmark.stopsRun

/-- An unsigned literal is taken as a whole. -/
theorem takeDecimal?_of_spelling {significand : Nat} {exponent : Int} {text : List Char}
    (htext : Spelling significand exponent text) :
    takeDecimal? text = some (significand, exponent, []) := by
  obtain @⟨whole, fraction, point, mark, exponent, hwhole, hpoint, hdigits, hmark⟩ := htext
  have hstop : StopsRun isDecimal (point ++ mark) := by
    cases hpoint with
    | absent => exact hmark.stopsRun
    | point _ => exact stopsRun_cons.2 (by decide)
  have hempty : ¬ (whole.isEmpty && fraction.isEmpty) = true := by
    rw [Bool.and_eq_true, List.isEmpty_iff, List.isEmpty_iff]
    rintro ⟨rfl, rfl⟩
    exact hdigits rfl
  unfold takeDecimal?
  rw [List.append_assoc, takeDigits_run hwhole hstop]
  dsimp only
  rw [takeFraction_of_spelling hpoint hmark]
  dsimp only
  rw [if_neg hempty, takeExponent_of_spelling hmark]

/-- A signed literal is scanned as a whole, and its value is that of its decimal. -/
theorem scan?_of_spelling {significand : Nat} {exponent : Int} {text : List Char}
    (htext : Spelling significand exponent text) (negative : Bool) :
    scan? (signText negative ++ text) =
      some (Binary64.ofDecimal negative significand exponent, []) := by
  obtain ⟨first, rest, rfl, hfirst⟩ := htext.eq_cons
  have hother : ∀ other, ¬ IsDigit other → other ≠ '.' → first ≠ other := by
    rintro other hdigit hpoint rfl
    exact hfirst.elim hdigit hpoint
  -- A digit or a point is not the first letter of `Infinity`.
  have hword : takeWord? "Infinity".toList (first :: rest) = none :=
    if_neg (hother 'I' (by decide) (by decide)).symm
  unfold scan?
  rw [takeSign_signText negative (hother '-' (by decide) (by decide))
    (hother '+' (by decide) (by decide))]
  dsimp only
  rw [hword, takeDecimal?_of_spelling htext]
  rfl

/-- A literal with its sign is read as the decimal it spells. -/
theorem read?_of_spelling {significand : Nat} {exponent : Int} {text : List Char}
    (htext : Spelling significand exponent text) (negative : Bool) :
    read? (signText negative ++ text) =
      some (Binary64.ofDecimal negative significand exponent) := by
  unfold read?
  rw [scan?_of_spelling htext negative]

end Literal

end Numbering
