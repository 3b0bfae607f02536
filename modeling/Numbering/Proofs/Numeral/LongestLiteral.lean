import Numbering.Proofs.Numeral.SignedDigits

/-!
# The longest literal at the front of a text

A decimal literal is `Infinity` or an unsigned decimal, with a sign or without (`IsLiteral`). What
the scanner cuts off the front of a text is a literal, and its value is the one of the literal
(`Literal.isLiteral_of_scan?`). Every part is taken as long as can be, so that no more is left of a
text than what stands behind a literal in it (`Literal.length_scan?_append`); in this way the
scanner takes the longest literal at the front (`Literal.isLongest_of_scan?`).
-/

namespace Numbering

open Digits Text

namespace Literal

/-- The text is a decimal literal with a value: `Infinity`, or an unsigned decimal whose value is
the nearest binary64 number, behind a sign or none. -/
inductive IsLiteral : Binary64 → List Char → Prop where
  | infinity {sign : List Char} {negative : Bool} (hsign : IsSign sign negative) :
      IsLiteral (.infinity negative) (sign ++ "Infinity".toList)
  | decimal {sign text : List Char} {negative : Bool} {value : Rat}
      (hsign : IsSign sign negative) (htext : Denotes text value) :
      IsLiteral (Binary64.ofMagnitude negative value) (sign ++ text)

/-- The text is the longest literal at the front of another text. -/
structure IsLongest (number : Binary64) (front chars : List Char) : Prop where
  isLiteral : IsLiteral number front
  isPrefix : front <+: chars
  longest : ∀ other value, IsLiteral value other → other <+: chars → other.length ≤ front.length

/-! ## What is cut off -/

section Taken

variable {chars rest : List Char}

/-- What is taken as a sign is one, in front of the rest. -/
theorem exists_of_takeSign {negative : Bool} (htake : takeSign chars = (negative, rest)) :
    ∃ sign, IsSign sign negative ∧ chars = sign ++ rest := by
  unfold takeSign at htake
  split at htake
  · cases htake
    exact ⟨['-'], .minus, rfl⟩
  · cases htake
    exact ⟨['+'], .plus, rfl⟩
  · cases htake
    exact ⟨[], .absent, rfl⟩

/-- What is taken as a word is the word, in front of the rest. -/
theorem exists_of_takeWord? {word : List Char} (htake : takeWord? word chars = some rest) :
    chars = word ++ rest := by
  induction word generalizing chars with
  | nil =>
      cases htake
      rfl
  | cons letter word ih =>
      cases chars with
      | nil => cases htake
      | cons char chars =>
          rw [takeWord?] at htake
          split at htake
          · rename_i hletter
            rw [ih htake, hletter, List.cons_append]
          · cases htake

/-- What is taken as digits are digits, in front of the rest. -/
theorem exists_of_takeDigits {digits : List Char} (htake : takeDigits chars = (digits, rest)) :
    (∀ char ∈ digits, IsDigit char) ∧ chars = digits ++ rest := by
  cases htake
  exact ⟨fun char hchar ↦ isDecimal_iff.1 (of_mem_takeWhile hchar),
    List.takeWhile_append_dropWhile.symm⟩

/-- What is taken as a fraction spells one, in front of the rest. -/
theorem exists_of_takeFraction {fraction : List Char}
    (htake : takeFraction chars = (fraction, rest)) :
    ∃ point, FractionSpelling fraction point ∧ chars = point ++ rest := by
  unfold takeFraction at htake
  split at htake
  · obtain ⟨hdigits, rfl⟩ := exists_of_takeDigits htake
    exact ⟨_, .point hdigits, rfl⟩
  · cases htake
    exact ⟨[], .absent, rfl⟩

/-- What is taken as an exponent spells one, in front of the rest. -/
theorem exists_of_takeExponent {exponent : Int} (htake : takeExponent chars = (exponent, rest)) :
    ∃ mark, ExponentSpelling exponent mark ∧ chars = mark ++ rest := by
  unfold takeExponent at htake
  split at htake
  · cases htake
    exact ⟨[], .absent, rfl⟩
  · rename_i mark unmarked
    split at htake
    · rename_i hmark
      generalize hsigned : takeSign unmarked = signed at htake
      obtain ⟨negative, unsigned⟩ := signed
      dsimp only at htake
      generalize htaken : takeDigits unsigned = taken at htake
      obtain ⟨digits, after⟩ := taken
      dsimp only at htake
      obtain ⟨sign, hsign, hunmarked⟩ := exists_of_takeSign hsigned
      obtain ⟨hdigits, hunsigned⟩ := exists_of_takeDigits htaken
      rw [hunsigned] at hunmarked
      split at htake
      · cases htake
        exact ⟨[], .absent, rfl⟩
      · rename_i hne
        have hrun : IsRun digits := ⟨by simpa using hne, hdigits⟩
        cases htake
        rw [hunmarked]
        cases hsign with
        | absent => exact ⟨mark :: digits, .unsigned hmark hrun, rfl⟩
        | plus => exact ⟨mark :: '+' :: digits, .plus hmark hrun, rfl⟩
        | minus => exact ⟨mark :: '-' :: digits, .minus hmark hrun, rfl⟩
    · cases htake
      exact ⟨[], .absent, rfl⟩

/-- What is taken as a decimal spells one, in front of the rest. -/
theorem exists_of_takeDecimal? {significand : Nat} {exponent : Int}
    (htake : takeDecimal? chars = some (significand, exponent, rest)) :
    ∃ text, Spelling significand exponent text ∧ chars = text ++ rest := by
  unfold takeDecimal? at htake
  generalize htakeWhole : takeDigits chars = first at htake
  obtain ⟨whole, afterWhole⟩ := first
  dsimp only at htake
  generalize htakeFraction : takeFraction afterWhole = second at htake
  obtain ⟨fraction, afterFraction⟩ := second
  dsimp only at htake
  generalize htakeExponent : takeExponent afterFraction = third at htake
  obtain ⟨power, after⟩ := third
  dsimp only at htake
  obtain ⟨hwhole, rfl⟩ := exists_of_takeDigits htakeWhole
  obtain ⟨point, hpoint, rfl⟩ := exists_of_takeFraction htakeFraction
  obtain ⟨mark, hmark, rfl⟩ := exists_of_takeExponent htakeExponent
  split at htake
  · cases htake
  · rename_i hne
    cases htake
    exact ⟨_, .intro hwhole hpoint (by simpa using hne) hmark, by simp⟩

/-- What the scanner cuts off is a literal. -/
theorem isLiteral_of_scan? {number : Binary64} (hscan : scan? chars = some (number, rest)) :
    ∃ text, IsLiteral number text ∧ chars = text ++ rest := by
  unfold scan? at hscan
  generalize hsigned : takeSign chars = signed at hscan
  obtain ⟨negative, unsigned⟩ := signed
  dsimp only at hscan
  obtain ⟨sign, hsign, rfl⟩ := exists_of_takeSign hsigned
  split at hscan
  · rename_i after hword
    cases hscan
    exact ⟨_, .infinity hsign, by rw [exists_of_takeWord? hword, List.append_assoc]⟩
  · obtain ⟨⟨significand, exponent, after⟩, hdecimal, heq⟩ := Option.map_eq_some_iff.1 hscan
    cases heq
    obtain ⟨text, hspelling, rfl⟩ := exists_of_takeDecimal? hdecimal
    dsimp only
    rw [Binary64.ofDecimal_eq]
    exact ⟨_, .decimal hsign ⟨_, _, hspelling, rfl⟩, (List.append_assoc _ _ _).symm⟩

end Taken

/-! ## What is left -/

section Left

variable {text fraction point mark : List Char} {exponent : Int}

/-- Digits in front of a text are taken together with the digits at its front. -/
theorem takeDigits_append {digits : List Char} (hdigits : ∀ char ∈ digits, IsDigit char)
    (rest : List Char) :
    takeDigits (digits ++ rest) = (digits ++ (takeDigits rest).1, (takeDigits rest).2) := by
  have hrun : ∀ char ∈ digits, isDecimal char = true :=
    fun char hchar ↦ isDecimal_iff.2 (hdigits char hchar)
  rw [takeDigits, List.takeWhile_append_of_pos hrun, List.dropWhile_append_of_pos hrun]
  rfl

/-- Taking digits leaves no more than there was. -/
theorem length_takeDigits (chars : List Char) : (takeDigits chars).2.length ≤ chars.length :=
  (List.dropWhile_sublist _).length_le

/-- Taking a fraction leaves no more than there was. -/
theorem length_takeFraction (chars : List Char) :
    (takeFraction chars).2.length ≤ chars.length := by
  unfold takeFraction
  split
  · exact (length_takeDigits _).trans (Nat.le_succ _)
  · exact le_rfl

/-- Taking an exponent leaves no more than there was. -/
theorem length_takeExponent (chars : List Char) :
    (takeExponent chars).2.length ≤ chars.length := by
  obtain ⟨mark, -, hchars⟩ := exists_of_takeExponent (Prod.mk.eta (p := takeExponent chars)).symm
  have hlength := congrArg List.length hchars
  rw [List.length_append] at hlength
  omega

/-- Digits behind an `e` and a sign are taken as an exponent, and the digits behind them as well. -/
theorem takeExponent_snd {letter : Char} {unmarked digits rest : List Char} {negative : Bool}
    (hletter : letter = 'e' ∨ letter = 'E')
    (hsign : takeSign unmarked = (negative, digits ++ rest)) (hrun : IsRun digits) :
    (takeExponent (letter :: unmarked)).2 = (takeDigits rest).2 := by
  have hne : (digits ++ (takeDigits rest).1).isEmpty = false := by simp [hrun.ne_nil]
  unfold takeExponent
  dsimp only
  rw [if_pos hletter, hsign]
  dsimp only
  rw [takeDigits_append hrun.isDigit, hne]
  rfl

/-- At least the exponent in front of a text is taken. -/
theorem length_takeExponent_append (hmark : ExponentSpelling exponent mark) (rest : List Char) :
    (takeExponent (mark ++ rest)).2.length ≤ rest.length := by
  cases hmark with
  | absent => exact length_takeExponent rest
  | @unsigned letter digits hletter hrun =>
      obtain ⟨first, others, rfl⟩ := List.exists_cons_of_ne_nil hrun.ne_nil
      have hfirst := hrun.isDigit first (by simp)
      have hsign : takeSign (first :: others ++ rest) = (false, first :: others ++ rest) :=
        takeSign_of_ne (hfirst.ne (by decide)) (hfirst.ne (by decide))
      rw [List.cons_append, takeExponent_snd hletter hsign hrun]
      exact length_takeDigits rest
  | plus hletter hrun | minus hletter hrun =>
      rw [List.cons_append, List.cons_append, takeExponent_snd hletter rfl hrun]
      exact length_takeDigits rest

/-- A fraction does not go on with a letter. -/
theorem takeFraction_letter {letter : Char} (hletter : letter = 'e' ∨ letter = 'E')
    (rest : List Char) : takeFraction (letter :: rest) = ([], letter :: rest) := by
  rcases hletter with rfl | rfl
  · rfl
  · rfl

/-- Where no digit is, none is taken. -/
theorem takeDigits_stopped {rest : List Char} (hstop : StopsRun isDecimal rest) :
    takeDigits rest = ([], rest) :=
  takeDigits_run (List.forall_mem_nil _) hstop

/-- At least the fraction and the exponent in front of a text are taken. -/
theorem length_takeFraction_append (hpoint : FractionSpelling fraction point)
    (hmark : ExponentSpelling exponent mark) (rest : List Char) :
    (takeExponent (takeFraction (point ++ (mark ++ rest))).2).2.length ≤ rest.length := by
  have hexponent := length_takeExponent_append hmark rest
  cases hpoint with
  | absent =>
      obtain rfl | ⟨letter, tail, rfl, hletter⟩ := hmark.eq_nil_or_cons
      · exact (length_takeExponent _).trans (length_takeFraction rest)
      · rw [List.nil_append, List.cons_append, takeFraction_letter hletter]
        exact hexponent
  | point hdigits =>
      have hfraction : takeFraction ('.' :: fraction ++ (mark ++ rest)) =
          (fraction ++ (takeDigits (mark ++ rest)).1, (takeDigits (mark ++ rest)).2) :=
        takeDigits_append hdigits _
      rw [hfraction]
      obtain rfl | ⟨letter, tail, rfl, hletter⟩ := hmark.eq_nil_or_cons
      · exact (length_takeExponent _).trans (length_takeDigits rest)
      · have hstop : StopsRun isDecimal (letter :: tail ++ rest) :=
          stopsRun_cons.2 (stopsRun_cons.1 hmark.stopsRun)
        rw [takeDigits_stopped hstop]
        exact hexponent

/-- Behind an unsigned decimal the scanner leaves no more than there is. -/
theorem length_takeDecimal?_append {significand : Nat}
    (htext : Spelling significand exponent text) (rest : List Char) :
    ∃ other power left, takeDecimal? (text ++ rest) = some (other, power, left) ∧
      left.length ≤ rest.length := by
  obtain @⟨whole, fraction, point, mark, exponent, hwhole, hpoint, hdigits, hmark⟩ := htext
  have hfraction := length_takeFraction_append hpoint hmark rest
  have hchars : whole ++ point ++ mark ++ rest = whole ++ (point ++ (mark ++ rest)) := by simp
  -- The digits in front of the point go on into the rest only when there is neither a point nor an
  -- exponent.
  obtain ⟨hnonempty, hleft⟩ :
      ((whole ++ (takeDigits (point ++ (mark ++ rest))).1).isEmpty &&
        (takeFraction (takeDigits (point ++ (mark ++ rest))).2).1.isEmpty) = false ∧
      (takeExponent (takeFraction (takeDigits (point ++ (mark ++ rest))).2).2).2.length ≤
        rest.length := by
    cases hpoint with
    | absent =>
        have hwholeNe : whole ≠ [] := by simpa using hdigits
        refine ⟨by simp [hwholeNe], ?_⟩
        obtain rfl | ⟨letter, tail, rfl, hletter⟩ := hmark.eq_nil_or_cons
        · exact ((length_takeExponent _).trans (length_takeFraction _)).trans
            (length_takeDigits rest)
        · have hstop : StopsRun isDecimal (letter :: tail ++ rest) :=
            stopsRun_cons.2 (stopsRun_cons.1 hmark.stopsRun)
          rw [List.nil_append, takeDigits_stopped hstop]
          exact hfraction
    | point hfractionDigits =>
        have hstop : StopsRun isDecimal ('.' :: fraction ++ (mark ++ rest)) :=
          stopsRun_cons.2 (by decide)
        have htaken : takeFraction ('.' :: fraction ++ (mark ++ rest)) =
            (fraction ++ (takeDigits (mark ++ rest)).1, (takeDigits (mark ++ rest)).2) :=
          takeDigits_append hfractionDigits _
        rw [takeDigits_stopped hstop]
        refine ⟨?_, hfraction⟩
        rw [htaken, List.append_nil, Bool.and_eq_false_iff, List.isEmpty_eq_false_iff,
          List.isEmpty_eq_false_iff]
        rcases eq_or_ne whole [] with rfl | hne
        · exact .inr (List.append_ne_nil_of_left_ne_nil hdigits _)
        · exact .inl hne
  unfold takeDecimal?
  rw [hchars, takeDigits_append hwhole]
  dsimp only
  rw [hnonempty]
  exact ⟨_, _, _, rfl, hleft⟩

/-- A word in front of a text is taken. -/
theorem takeWord?_append (word rest : List Char) : takeWord? word (word ++ rest) = some rest := by
  induction word with
  | nil => rfl
  | cons letter word ih => rw [List.cons_append, takeWord?, if_pos rfl, ih]

/-- A sign and an unsigned decimal behind it are scanned one after the other. -/
theorem scan?_decimal {sign text : List Char} {negative : Bool} {value : Rat}
    (hsign : IsSign sign negative) (htext : Denotes text value) (rest : List Char) :
    scan? (sign ++ (text ++ rest)) = (takeDecimal? (text ++ rest)).map
      fun (significand, exponent, rest) ↦
        (Binary64.ofDecimal negative significand exponent, rest) := by
  obtain ⟨significand, exponent, hspelling, -⟩ := htext
  obtain ⟨first, others, rfl, hfirst⟩ := hspelling.eq_cons
  have hother : ∀ other, ¬ IsDigit other → other ≠ '.' → first ≠ other := by
    rintro other hdigit hpoint rfl
    exact hfirst.elim hdigit hpoint
  have hword : takeWord? "Infinity".toList (first :: others ++ rest) = none :=
    if_neg (hother 'I' (by decide) (by decide)).symm
  unfold scan?
  rw [List.cons_append, hsign.takeSign ⟨hother '-' (by decide) (by decide),
    hother '+' (by decide) (by decide)⟩, ← List.cons_append]
  dsimp only
  rw [hword]

/-- The word for infinity is scanned, with its sign. -/
theorem scan?_infinity {sign : List Char} {negative : Bool} (hsign : IsSign sign negative)
    (rest : List Char) :
    scan? (sign ++ ("Infinity".toList ++ rest)) = some (.infinity negative, rest) := by
  have hword := takeWord?_append "Infinity".toList rest
  unfold scan?
  have htake : takeSign (sign ++ ("Infinity".toList ++ rest)) =
      (negative, "Infinity".toList ++ rest) := hsign.takeSign (by decide)
  rw [htake]
  dsimp only
  rw [hword]

/-- Behind a literal the scanner leaves no more than there is. -/
theorem length_scan?_append {number : Binary64} {literal : List Char}
    (hliteral : IsLiteral number literal) (rest : List Char) :
    ∃ other left, scan? (literal ++ rest) = some (other, left) ∧ left.length ≤ rest.length := by
  cases hliteral with
  | infinity hsign => exact ⟨_, rest, by rw [List.append_assoc, scan?_infinity hsign], le_rfl⟩
  | decimal hsign htext =>
      obtain ⟨significand, exponent, hspelling, -⟩ := id htext
      obtain ⟨other, power, left, htake, hleft⟩ := length_takeDecimal?_append hspelling rest
      exact ⟨_, left, by rw [List.append_assoc, scan?_decimal hsign htext, htake]; rfl, hleft⟩

/-- A literal is scanned as a whole, and has its value. -/
theorem scan?_of_isLiteral {number : Binary64} {literal : List Char}
    (hliteral : IsLiteral number literal) : scan? literal = some (number, []) := by
  cases hliteral with
  | @infinity sign _ hsign =>
      have hscan := scan?_infinity hsign []
      rwa [List.append_nil] at hscan
  | @decimal sign text _ _ hsign htext =>
      have hscan := scan?_decimal hsign htext []
      obtain ⟨significand, exponent, hspelling, rfl⟩ := htext
      rw [List.append_nil, takeDecimal?_of_spelling hspelling] at hscan
      rw [hscan, ← Binary64.ofDecimal_eq]
      rfl

end Left

/-! ## The longest literal -/

section Longest

variable {chars rest : List Char} {number : Binary64}

/-- The scanner finds the longest literal at the front of a text. -/
theorem isLongest_of_scan? (hscan : scan? chars = some (number, rest)) :
    ∃ front, IsLongest number front chars ∧ chars = front ++ rest := by
  obtain ⟨front, hliteral, hchars⟩ := isLiteral_of_scan? hscan
  refine ⟨front, ⟨hliteral, ⟨rest, hchars.symm⟩, ?_⟩, hchars⟩
  rintro other value hother ⟨tail, htail⟩
  obtain ⟨found, left, hfound, hleft⟩ := length_scan?_append hother tail
  rw [htail, hscan] at hfound
  cases hfound
  have hlength := congrArg List.length (htail.trans hchars)
  rw [List.length_append, List.length_append] at hlength
  omega

/-- It finds nothing only if there is no literal at the front. -/
theorem not_isLiteral_of_scan? (hscan : scan? chars = none) {front : List Char}
    (hfront : front <+: chars) : ¬IsLiteral number front := by
  intro hliteral
  obtain ⟨tail, rfl⟩ := hfront
  obtain ⟨other, left, hfound, -⟩ := length_scan?_append hliteral tail
  rw [hscan] at hfound
  cases hfound

end Longest

end Literal

end Numbering
