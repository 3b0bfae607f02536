import Mathlib.Data.List.TakeWhile
import Numbering.Proofs.Binary64.CorrectRounding
import Numbering.Proofs.Numeral.LongestLiteral

/-!
# The readers of numbers agree on literals

The reader that wants a text as a whole to be a number reads blanks as zero, the mark of a base with
digits behind it as the sum of these digits, a decimal literal as its value, and any other text as a
NaN (`Numeral.readNumber_cases`). The one that takes a decimal literal at the front finds the
longest one, of which there is only one (`Literal.IsLongest.unique`), and gives it the value that
the former reads in it; the parser behind both reads every literal, and what is read for a decimal
is correctly rounded (`Numeral.readers_agree_on_literals`).
-/

namespace Numbering

open Digits Text Literal

namespace Text

variable {chars : List Char}

/-- Nothing is left of blanks only. -/
theorem trim_eq_nil_iff : trim chars = [] ↔ ∀ char ∈ chars, isBlank char = true := by
  constructor
  · intro htrim
    have hstart : ∀ char ∈ trimStart chars, isBlank char = true := by
      have hreverse := List.dropWhile_eq_nil_iff.1 (List.reverse_eq_nil_iff.1 htrim)
      exact fun char hchar ↦ hreverse char (List.mem_reverse.2 hchar)
    have hnil : trimStart chars = [] := by
      rcases heq : trimStart chars with _ | ⟨first, rest⟩
      · rfl
      · have hfirst := hstart first (by rw [heq]; exact List.mem_cons_self)
        rw [head_trimStart heq] at hfirst
        cases hfirst
    exact List.dropWhile_eq_nil_iff.1 hnil
  · intro hblank
    have hnil : trimStart chars = [] := List.dropWhile_eq_nil_iff.2 hblank
    rw [trim, hnil]
    rfl

/-- Trimming takes blanks away from both ends. -/
theorem exists_of_trim (chars : List Char) :
    ∃ front back, (∀ char ∈ front, isBlank char = true) ∧ (∀ char ∈ back, isBlank char = true) ∧
      chars = front ++ (trim chars ++ back) := by
  refine ⟨chars.takeWhile isBlank, ((trimStart chars).reverse.takeWhile isBlank).reverse,
    fun char hchar ↦ of_mem_takeWhile hchar,
    fun char hchar ↦ of_mem_takeWhile (List.mem_reverse.1 hchar), ?_⟩
  have hstart : trim chars ++ ((trimStart chars).reverse.takeWhile isBlank).reverse =
      trimStart chars := by
    rw [trim, trimEnd, ← List.reverse_append, List.takeWhile_append_dropWhile, List.reverse_reverse]
  rw [hstart]
  exact List.takeWhile_append_dropWhile.symm

end Text

namespace Literal

/-- What a text without a sign denotes is not negative. -/
theorem Denotes.nonneg {text : List Char} {value : Rat} (hdenotes : Denotes text value) :
    0 ≤ value := by
  obtain ⟨significand, exponent, -, rfl⟩ := hdenotes
  exact mul_nonneg (Nat.cast_nonneg significand) (powerOfTen_pos exponent).le

section IsLiteral

variable {number : Binary64} {literal : List Char} (hliteral : IsLiteral number literal)

include hliteral

/-- The characters of a literal are those of a decimal or those of the word for infinity. -/
theorem IsLiteral.isLiteralChar {char : Char} (hchar : char ∈ literal) :
    IsLiteralChar char ∨ char ∈ "Infinity".toList := by
  have hsigned : ∀ {sign : List Char} {negative : Bool}, IsSign sign negative → char ∈ sign →
      IsLiteralChar char := by
    intro sign negative hsign hmem
    cases hsign with
    | absent => cases hmem
    | plus | minus =>
        rw [List.mem_singleton.1 hmem]
        decide
  cases hliteral with
  | infinity hsign => exact (List.mem_append.1 hchar).imp_left (hsigned hsign)
  | decimal hsign htext =>
      obtain ⟨significand, exponent, hspelling, -⟩ := htext
      exact .inl ((List.mem_append.1 hchar).elim (hsigned hsign) hspelling.isLiteralChar)

/-- There are no blanks in a literal. -/
theorem IsLiteral.isBlank_eq_false : ∀ char ∈ literal, isBlank char = false := by
  intro char hchar
  rcases hliteral.isLiteralChar hchar with hdecimal | hword
  · exact hdecimal.isBlank_eq_false
  · have hall : "Infinity".toList.all (fun letter ↦ !isBlank letter) = true := by decide
    simpa using List.all_eq_true.1 hall char hword

/-- A literal is not empty. -/
theorem IsLiteral.ne_nil : literal ≠ [] := by
  rintro rfl
  have hscan := scan?_of_isLiteral hliteral
  cases hscan

end IsLiteral

/-- A text is read as a literal exactly if it is one. -/
theorem read?_eq_some_iff {number : Binary64} {chars : List Char} :
    read? chars = some number ↔ IsLiteral number chars := by
  constructor
  · intro hread
    unfold read? at hread
    split at hread
    · rename_i found hscan
      cases hread
      obtain ⟨text, hliteral, rfl⟩ := isLiteral_of_scan? hscan
      rwa [List.append_nil]
    · cases hread
  · intro hliteral
    rw [read?, scan?_of_isLiteral hliteral]

/-- A text is one literal at most. -/
theorem IsLiteral.unique {first second : Binary64} {chars : List Char}
    (hfirst : IsLiteral first chars) (hsecond : IsLiteral second chars) : first = second :=
  Option.some.inj ((read?_eq_some_iff.2 hfirst).symm.trans (read?_eq_some_iff.2 hsecond))

/-- Only one text is the longest literal at the front of another. -/
theorem IsLongest.unique {first second : Binary64} {front other chars : List Char}
    (hfirst : IsLongest first front chars) (hsecond : IsLongest second other chars) :
    front = other ∧ first = second := by
  have hlength := hsecond.longest front first hfirst.isLiteral hfirst.isPrefix
  have hlength' := hfirst.longest other second hsecond.isLiteral hsecond.isPrefix
  have hprefix := List.prefix_of_prefix_length_le hfirst.isPrefix hsecond.isPrefix hlength
  obtain rfl := hprefix.eq_of_length (by omega)
  exact ⟨rfl, hfirst.isLiteral.unique hsecond.isLiteral⟩

/-- No literal stands for NaN. -/
theorem IsLiteral.ne_nan {number : Binary64} {literal : List Char}
    (hliteral : IsLiteral number literal) : number ≠ .nan := by
  cases hliteral with
  | infinity =>
      intro heq
      cases heq
  | @decimal _ _ negative value _ _ =>
      unfold Binary64.ofMagnitude
      cases Binary64.roundMagnitude? value with
      | none | some => nofun

/-! ### The parser behind the readers -/

/-- Digits and the point have no case. -/
theorem toLower_eq_self {char : Char} (hchar : IsDigit char ∨ char = '.') :
    char.toLower = char := by
  rcases hchar with hdigit | rfl
  · have hcode := isDigit_iff_toNat.1 hdigit
    unfold Char.toLower
    split
    · rename_i hupper
      have hlow : 65 ≤ char.toNat := hupper.1
      omega
    · rfl
  · decide

/-- The value of an option reads a literal with its sign as the decimal it spells. -/
theorem readOption?_of_spelling {significand : Nat} {exponent : Int} {text : List Char}
    (htext : Spelling significand exponent text) (negative : Bool) :
    readOption? (signText negative ++ text) =
      some (Binary64.ofDecimal negative significand exponent) := by
  obtain ⟨first, rest, rfl, hfirst⟩ := htext.eq_cons
  have hother : ∀ other, ¬ IsDigit other → other ≠ '.' → first ≠ other := by
    rintro other hdigit hpoint rfl
    exact hfirst.elim hdigit hpoint
  -- No word for an infinity or a NaN starts like a decimal.
  have hword : ∀ letter word, ¬ IsDigit letter → letter ≠ '.' →
      (first :: rest).map Char.toLower ≠ letter :: word := by
    intro letter word hdigit hpoint heq
    rw [List.map_cons, toLower_eq_self hfirst] at heq
    exact hother letter hdigit hpoint (List.cons.inj heq).1
  have hinf : (first :: rest).map Char.toLower ≠ "inf".toList :=
    hword 'i' ['n', 'f'] (by decide) (by decide)
  have hinfinity : (first :: rest).map Char.toLower ≠ "infinity".toList :=
    hword 'i' ['n', 'f', 'i', 'n', 'i', 't', 'y'] (by decide) (by decide)
  have hnan : (first :: rest).map Char.toLower ≠ "nan".toList :=
    hword 'n' ['a', 'n'] (by decide) (by decide)
  unfold readOption? readOptionWith?
  rw [takeSign_signText negative (hother '-' (by decide) (by decide))
    (hother '+' (by decide) (by decide))]
  dsimp only
  rw [if_neg (not_or.2 ⟨hinf, hinfinity⟩), if_neg hnan, takeDecimal?_of_spelling htext]

/-- The parser that literals are handed to, without a plus sign in front, reads each of them as its
value. -/
theorem readOption?_of_isLiteral {number : Binary64} {literal : List Char}
    (hliteral : IsLiteral number literal) :
    readOption? (literal.dropWhile (· == '+')) = some number := by
  cases hliteral with
  | infinity hsign =>
      cases hsign with
      | absent | plus | minus => rfl
  | decimal hsign htext =>
      obtain ⟨significand, exponent, hspelling, rfl⟩ := htext
      have hread := readOption?_of_spelling hspelling
      rw [← Binary64.ofDecimal_eq]
      obtain ⟨first, rest, rfl, hfirst⟩ := hspelling.eq_cons
      have hplus : first ≠ '+' := by
        rintro rfl
        exact hfirst.elim (by decide) (by decide)
      have hkept : (first :: rest).dropWhile (· == '+') = first :: rest :=
        List.dropWhile_cons_of_neg (by simpa using hplus)
      cases hsign with
      | absent => exact (congrArg readOption? hkept).trans (hread false)
      | plus => exact (congrArg readOption? hkept).trans (hread false)
      | minus => exact hread true

end Literal

namespace Numeral

/-- The text is the mark of a base with digits of the base behind it, and these add up to the
number. -/
inductive IsMarkedDigits : Binary64 → List Char → Prop where
  | intro {letter : Char} {base : Nat} {digits : List Nat} {run : List Char}
      (hletter : (letter, base) ∈ [('x', 16), ('X', 16), ('o', 8), ('O', 8), ('b', 2), ('B', 2)])
      (hne : run ≠ []) (hrun : IsDigitText base run digits) :
      IsMarkedDigits (accumulate base digits) ('0' :: letter :: run)

/-- What is read as digits is a text of digits. -/
theorem isDigitText_of_allDigits? {base : Nat} {text : List Char} {digits : List Nat}
    (hall : allDigits? base text = some digits) : IsDigitText base text digits := by
  induction text generalizing digits with
  | nil =>
      cases hall
      exact .nil
  | cons char text ih =>
      rw [allDigits?] at hall
      split at hall
      · rename_i hvalue hrest
        cases hall
        exact .cons hvalue (ih hrest)
      · cases hall

/-- The ways of reading a text as a number: as a blank, by the digits behind the mark of a base, or
as a literal. -/
theorem readNumber_cases (text : List Char) :
    trim text = [] ∧ readNumber text = .zero ∨
    (∃ letter base digits,
      (letter, base) ∈ [('x', 16), ('X', 16), ('o', 8), ('O', 8), ('b', 2), ('B', 2)] ∧
        trim text = '0' :: letter :: digits ∧ readNumber text = readDigits base digits) ∨
    trim text ≠ [] ∧ readNumber text = (Literal.read? (trim text)).getD .nan := by
  unfold readNumber
  split
  · exact .inl ⟨‹_›, rfl⟩
  · exact .inr (.inl ⟨'x', 16, _, by simp, ‹_›, rfl⟩)
  · exact .inr (.inl ⟨'X', 16, _, by simp, ‹_›, rfl⟩)
  · exact .inr (.inl ⟨'o', 8, _, by simp, ‹_›, rfl⟩)
  · exact .inr (.inl ⟨'O', 8, _, by simp, ‹_›, rfl⟩)
  · exact .inr (.inl ⟨'b', 2, _, by simp, ‹_›, rfl⟩)
  · exact .inr (.inl ⟨'B', 2, _, by simp, ‹_›, rfl⟩)
  · exact .inr (.inr ⟨‹_›, rfl⟩)

/-- The mark of a base is no literal, whatever follows it. -/
theorem not_isLiteral_mark {number : Binary64} {letter : Char} {base : Nat} {rest : List Char}
    (hletter : (letter, base) ∈ [('x', 16), ('X', 16), ('o', 8), ('O', 8), ('b', 2), ('B', 2)]) :
    ¬IsLiteral number ('0' :: letter :: rest) := by
  intro hliteral
  have hchar := hliteral.isLiteralChar (List.mem_cons_of_mem _ List.mem_cons_self)
  have hall : ∀ mark ∈ [('x', 16), ('X', 16), ('o', 8), ('O', 8), ('b', 2), ('B', 2)],
      ¬(IsLiteralChar mark.1 ∨ mark.1 ∈ "Infinity".toList) := by decide
  exact hall _ hletter hchar

/-- A literal is read as its value. -/
theorem readNumber_of_isLiteral {number : Binary64} {text : List Char}
    (hliteral : IsLiteral number (trim text)) : readNumber text = number := by
  obtain ⟨hnil, -⟩ | ⟨letter, base, digits, hletter, htext, -⟩ | ⟨-, hread⟩ := readNumber_cases text
  · exact absurd hnil hliteral.ne_nil
  · rw [htext] at hliteral
    exact absurd hliteral (not_isLiteral_mark hletter)
  · rw [hread, read?_eq_some_iff.2 hliteral]
    rfl

/-- A literal is read as the number it stands for. -/
theorem readNumber_literal {number : Binary64} {literal : List Char}
    (hliteral : IsLiteral number literal) : readNumber literal = number :=
  readNumber_of_isLiteral ((trim_eq_self hliteral.isBlank_eq_false).symm ▸ hliteral)

/-- A decimal literal is read as the number that is nearest to what it denotes. -/
theorem isCorrectlyRounded_readNumber {sign literal : List Char} {negative : Bool} {value : Rat}
    (hsign : IsSign sign negative) (hdenotes : Denotes literal value) :
    Binary64.IsCorrectlyRounded negative value (readNumber (sign ++ literal)) := by
  rw [readNumber_literal (.decimal hsign hdenotes)]
  exact Binary64.isCorrectlyRounded_ofMagnitude hdenotes.nonneg negative

/-- Digits behind the mark of their base are read as their sum. -/
theorem readNumber_of_isMarkedDigits {number : Binary64} {text : List Char}
    (hmarked : IsMarkedDigits number (trim text)) : readNumber text = number := by
  obtain ⟨front, back, hfront, hback, htext⟩ := exists_of_trim text
  generalize trim text = marked at hmarked htext
  obtain ⟨hletter, -, hrun⟩ := hmarked
  rw [htext]
  exact readNumber_letter hfront hletter hrun hback

/-- What is neither blank nor digits behind a mark nor a literal is a NaN. -/
theorem readNumber_eq_nan {text : List Char} (hblank : trim text ≠ [])
    (hmarked : ∀ number, ¬IsMarkedDigits number (trim text))
    (hliteral : ∀ number, ¬IsLiteral number (trim text)) : readNumber text = .nan := by
  obtain ⟨hnil, -⟩ | ⟨letter, base, run, hletter, htext, hread⟩ | ⟨-, hread⟩ :=
    readNumber_cases text
  · exact absurd hnil hblank
  · rw [hread, readDigits]
    cases hall : allDigits? base run with
    | none => rfl
    | some digits =>
        rcases eq_or_ne run [] with rfl | hne
        · cases hall
          rfl
        · rw [htext] at hmarked
          exact absurd (.intro hletter hne (isDigitText_of_allDigits? hall)) (hmarked _)
  · rw [hread]
    cases hliteralRead : Literal.read? (trim text) with
    | none => rfl
    | some number => exact absurd (read?_eq_some_iff.1 hliteralRead) (hliteral number)

/-- **The readers of numbers agree on literals.** A text is read as zero if it is blank, as the sum
of its digits if it is the mark of a base with digits behind it and nothing else, as the value of
the literal if it is one, and as a NaN in every other case; blanks at either end do not count. The
reader that takes a literal at the front of a text, behind blanks, reads the longest one there is
like that, and a NaN if there is none. Every literal is read by the parser it is handed to, and as a
number. The one that is read for a decimal literal is the nearest to what it denotes. -/
theorem readers_agree_on_literals (text : List Char) :
    ((∀ char ∈ text, isBlank char = true) → readNumber text = .zero) ∧
    (∀ number, IsMarkedDigits number (trim text) → readNumber text = number) ∧
    (∀ number, IsLiteral number (trim text) → readNumber text = number) ∧
    (((∃ char ∈ text, isBlank char = false) ∧ (∀ number, ¬IsMarkedDigits number (trim text)) ∧
      ∀ number, ¬IsLiteral number (trim text)) → readNumber text = .nan) ∧
    ((∃ number front, IsLongest number front (trimStart text) ∧ readDecimal text = number ∧
        readNumber front = number) ∨
      (∀ number front, front <+: trimStart text → ¬IsLiteral number front) ∧
        readDecimal text = .nan) ∧
    (∀ number literal, IsLiteral number literal →
      readOption? (literal.dropWhile (· == '+')) = some number ∧ number ≠ .nan) ∧
    ∀ sign negative literal value, IsSign sign negative → Denotes literal value →
      Binary64.IsCorrectlyRounded negative value (readNumber (sign ++ literal)) := by
  refine ⟨fun hblank ↦ ?_, fun _ ↦ readNumber_of_isMarkedDigits, fun _ ↦ readNumber_of_isLiteral,
    ?_, ?_, fun _ _ hliteral ↦ ⟨readOption?_of_isLiteral hliteral, hliteral.ne_nan⟩,
    fun _ _ _ _ ↦ isCorrectlyRounded_readNumber⟩
  · rw [readNumber, trim_eq_nil_iff.2 hblank]
  · rintro ⟨⟨char, hchar, hkept⟩, hmarked, hliteral⟩
    refine readNumber_eq_nan (fun hnil ↦ ?_) hmarked hliteral
    rw [trim_eq_nil_iff.1 hnil char hchar] at hkept
    cases hkept
  · unfold readDecimal
    cases hscan : scan? (trimStart text) with
    | none => exact .inr ⟨fun _ _ hprefix ↦ not_isLiteral_of_scan? hscan hprefix, rfl⟩
    | some found =>
        obtain ⟨number, rest⟩ := found
        obtain ⟨front, hlongest, -⟩ := isLongest_of_scan? hscan
        exact .inl ⟨number, front, hlongest, rfl, readNumber_literal hlongest.isLiteral⟩

/-- A literal with one more character behind it. -/
def literalAndMore : List Char := "\t-1.5e2x".toList

/-- The number at the front of that text. -/
def literalNumber : Binary64 := .ofDecimal true 15 1

/-- Only the last character is not part of the literal. -/
theorem isLongest_literalAndMore :
    IsLongest literalNumber "-1.5e2".toList (trimStart literalAndMore) where
  isLiteral := read?_eq_some_iff.1 (by decide +kernel)
  isPrefix := ⟨['x'], by decide⟩
  longest := by
    intro other number hother hway
    have hlength : (trimStart literalAndMore).length = "-1.5e2".toList.length + 1 := by decide
    have hwhole : read? (trimStart literalAndMore) = none := by decide +kernel
    by_contra hlong
    have hsame := hway.eq_of_length (by have := hway.length_le; omega)
    rw [hsame, ← read?_eq_some_iff, hwhole] at hother
    cases hother

/-- Digits behind the mark of their base; and a literal with something behind it, which is read by
the reader that takes it at the front, and is a NaN for the other one. -/
theorem readers_agree_on_literals_binary :
    (IsMarkedDigits (accumulate 2 [1, 0, 1]) (trim " 0B101\n".toList) ∧
        readNumber " 0B101\n".toList = accumulate 2 [1, 0, 1]) ∧
      readDecimal literalAndMore = literalNumber ∧ readNumber literalAndMore = .nan := by
  refine ⟨?_, ?_, ?_⟩
  · have hrun : IsDigitText 2 ['1', '0', '1'] [1, 0, 1] :=
      .cons rfl (.cons rfl (.cons rfl .nil))
    have hmarked : IsMarkedDigits (accumulate 2 [1, 0, 1]) (trim " 0B101\n".toList) :=
      IsMarkedDigits.intro (by decide : ('B', 2) ∈ _) (by decide) hrun
    exact ⟨hmarked, (readers_agree_on_literals _).2.1 _ hmarked⟩
  · have hlongest := isLongest_literalAndMore
    obtain ⟨-, -, -, -, hread, -⟩ := readers_agree_on_literals literalAndMore
    rcases hread with ⟨number, front, hfound, hnumber, -⟩ | ⟨hnone, -⟩
    · rw [hnumber, (hfound.unique hlongest).2]
    · exact absurd hlongest.isLiteral (hnone _ _ hlongest.isPrefix)
  · have hkept : ∃ char ∈ literalAndMore, isBlank char = false := ⟨'x', by decide, by decide⟩
    have hmarked : ∀ number, ¬IsMarkedDigits number (trim literalAndMore) := by
      -- The text starts with a minus sign and not with a zero.
      intro number hdigits
      cases hdigits
    have hliteral : ∀ number, ¬IsLiteral number (trim literalAndMore) := by
      have hnone : read? (trim literalAndMore) = none := by decide +kernel
      intro number hnumber
      rw [← read?_eq_some_iff, hnone] at hnumber
      cases hnumber
    exact (readers_agree_on_literals literalAndMore).2.2.2.1 ⟨hkept, hmarked, hliteral⟩

end Numeral

end Numbering
