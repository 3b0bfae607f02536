import Numbering.Proofs.Template.Scanning
import Numbering.Proofs.Text.Ways

/-!
# Placeholders as a pattern

A placeholder is described by a pattern with alternatives: a reference, signs and numbers that may
be absent, and runs of digits of any length. `Placeholder.ways` lists everything that the pattern
can match at the front of a text, the preferred matches first. Each optional part is decided at
once by its scanner, provided that what follows the part refuses what the part could have left.
-/

namespace Numbering

open Text Digits

namespace Placeholder

open Ways

/-! ## The pattern -/

/-- A number without a leading zero, and a dollar sign. -/
def positionWays : Ways WrittenReference :=
  (one fun char ↦ isDecimal char && char != '0').andThen fun first ↦
    (many isDecimal).andThen fun others ↦
      (one (· = '$')).andThen fun _ ↦ done (.position (first :: others))

/-- A nonempty text in parentheses. -/
def fieldWays : Ways WrittenReference :=
  (one (· = '(')).andThen fun _ ↦ (one (· ≠ ')')).andThen fun first ↦
    (many (· ≠ ')')).andThen fun others ↦
      (one (· = ')')).andThen fun _ ↦ done (.field (first :: others))

/-- A position or a field, if there is one. -/
def referenceWays : Ways WrittenReference :=
  (positionWays.orElse fieldWays).orElse (done .absent)

/-- A flag, if it is there. -/
def flagWays (flag : Char) : Ways Bool :=
  ((one (· = flag)).andThen fun _ ↦ done true).orElse (done false)

/-- A zero, or a quote and any character but a dollar sign, if it is there. -/
def paddingWays : Ways (Option Padding) :=
  (((one (· = '0')).andThen fun _ ↦ done (some .zero)).orElse
    ((one (· = '\'')).andThen fun _ ↦
      (one (· ≠ '$')).andThen fun char ↦ done (some (.custom char)))).orElse (done none)

/-- One or more digits. -/
def runWays : Ways (Option (List Char)) :=
  (one isDecimal).andThen fun first ↦
    (many isDecimal).andThen fun others ↦ done (some (first :: others))

/-- A run of digits, if it is there. -/
def widthWays : Ways (Option (List Char)) := runWays.orElse (done none)

/-- A point and a run of digits, if they are there. -/
def precisionWays : Ways (Option (List Char)) :=
  ((one (· = '.')).andThen fun _ ↦ runWays).orElse (done none)

/-- A conversion letter. -/
def conversionWays : Ways Conversion := fun chars ↦ (scanConversion? chars).toList

/-! The other parts are matched one after the other, given what makes a placeholder of them. -/

abbrev OfConversion := Conversion → Placeholder

abbrev OfPrecision := Option (List Char) → OfConversion

abbrev OfWidth := Option (List Char) → OfPrecision

abbrev OfAlignment := Bool → OfWidth

abbrev OfPadding := Option Padding → OfAlignment

abbrev OfSign := Bool → OfPadding

def conversionThen (build : OfConversion) : Ways Placeholder :=
  conversionWays.andThen fun conversion ↦ done (build conversion)

def precisionThen (build : OfPrecision) : Ways Placeholder :=
  precisionWays.andThen fun precision ↦ conversionThen (build precision)

def widthThen (build : OfWidth) : Ways Placeholder :=
  widthWays.andThen fun width ↦ precisionThen (build width)

def alignmentThen (build : OfAlignment) : Ways Placeholder :=
  (flagWays '-').andThen fun leftAlign ↦ widthThen (build leftAlign)

def paddingThen (build : OfPadding) : Ways Placeholder :=
  paddingWays.andThen fun padding ↦ alignmentThen (build padding)

def signThen (build : OfSign) : Ways Placeholder :=
  (flagWays '+').andThen fun forceSign ↦ paddingThen (build forceSign)

/-- Everything that the pattern of a placeholder can match at the front of a text, given what
follows the percent sign. -/
def ways : Ways Placeholder :=
  referenceWays.andThen fun reference ↦ signThen (Placeholder.mk reference)

/-! ## Parts that are scanned at once -/

section Parts

variable {β : Type}

/-- A run of digits is scanned as far as it goes. -/
theorem scanDigits_cons {char : Char} (hdigit : isDecimal char = true) (rest : List Char) :
    scanDigits (char :: rest) =
      (some (char :: rest.takeWhile isDecimal), rest.dropWhile isDecimal) := by
  unfold scanDigits
  rw [List.takeWhile_cons_of_pos hdigit, List.dropWhile_cons_of_pos hdigit]
  rfl

/-- Where no digit is, no run is scanned. -/
theorem scanDigits_cons_of_not {char : Char} (hdigit : isDecimal char = false)
    (rest : List Char) : scanDigits (char :: rest) = (none, char :: rest) := by
  have hdigit : ¬ isDecimal char = true := by simp [hdigit]
  unfold scanDigits
  rw [List.takeWhile_cons_of_neg hdigit, List.dropWhile_cons_of_neg hdigit]
  rfl

/-- A run does not start with anything but a digit. -/
theorem refuses_runWays {next : Option (List Char) → Ways β} {char : Char}
    (hdigit : isDecimal char = false) : Refuses (runWays.andThen next) char := by
  rw [runWays, andThen_assoc]
  exact refuses_one hdigit

/-- Of the runs of digits, only the one that is scanned goes on. -/
theorem runWays_andThen {next : Option (List Char) → Ways β}
    (hrefuses : ∀ digits char, isDecimal char = true → Refuses (next (some digits)) char)
    {char : Char} (hdigit : isDecimal char = true) (rest : List Char) :
    runWays.andThen next (char :: rest) =
      next (scanDigits (char :: rest)).1 (scanDigits (char :: rest)).2 := by
  rw [runWays, andThen_assoc, one_andThen_cons, if_pos hdigit, scanDigits_cons hdigit]
  simp only [andThen_assoc, done_andThen]
  exact many_andThen (fun taken ↦ hrefuses (char :: taken)) rest

/-- A flag is taken where it stands, because what follows does not start with it. -/
theorem head?_flagWays {flag : Char} {next : Bool → Ways β} (hnone : Refuses (next false) flag)
    (chars : List Char) : ((flagWays flag).andThen next chars).head? =
      (next (scanFlag flag chars).1 (scanFlag flag chars).2).head? := by
  rw [flagWays, orElse_andThen, done_andThen, andThen_assoc]
  simp only [done_andThen]
  cases chars with
  | nil => rfl
  | cons char rest =>
      rw [one_andThen_cons, scanFlag]
      by_cases hflag : char = flag
      · rw [hflag, hnone rest, if_pos (decide_eq_true rfl), if_pos rfl, List.append_nil]
      · rw [if_neg (by simpa using hflag), if_neg hflag, List.nil_append]

/-- A width is taken where a digit stands, and with all its digits. -/
theorem head?_widthWays {next : Option (List Char) → Ways β}
    (hrefuses : ∀ width char, isDecimal char = true → Refuses (next width) char)
    (chars : List Char) : (widthWays.andThen next chars).head? =
      (next (scanDigits chars).1 (scanDigits chars).2).head? := by
  rw [widthWays, orElse_andThen, done_andThen]
  cases chars with
  | nil => rfl
  | cons char rest =>
      by_cases hdigit : isDecimal char = true
      · rw [runWays_andThen (fun digits ↦ hrefuses (some digits)) hdigit,
          hrefuses none char hdigit rest, List.append_nil]
      · have hdigit : isDecimal char = false := by simpa using hdigit
        rw [refuses_runWays hdigit rest, scanDigits_cons_of_not hdigit, List.nil_append]

/-- A precision is taken where a point and a digit stand, and with all its digits. -/
theorem head?_precisionWays {next : Option (List Char) → Ways β}
    (hrefuses : ∀ precision char, isDecimal char = true → Refuses (next precision) char)
    (hpoint : Refuses (next none) '.') (chars : List Char) :
    (precisionWays.andThen next chars).head? =
      (next (scanPrecision chars).1 (scanPrecision chars).2).head? := by
  rw [precisionWays, orElse_andThen, done_andThen, andThen_assoc]
  cases chars with
  | nil => rfl
  | cons char rest =>
      rw [one_andThen_cons]
      by_cases hmark : char = '.'
      · rw [hmark, if_pos (by decide), hpoint rest, List.append_nil]
        cases rest with
        | nil => exact (congrArg List.head? (hpoint [])).symm
        | cons digit rest =>
            by_cases hdigit : isDecimal digit = true
            · have hscan : scanPrecision ('.' :: digit :: rest) =
                  scanDigits (digit :: rest) := by
                simp only [scanPrecision, scanDigits_cons hdigit]
              rw [runWays_andThen (fun digits ↦ hrefuses (some digits)) hdigit, hscan]
            · have hdigit : isDecimal digit = false := by simpa using hdigit
              have hscan : scanPrecision ('.' :: digit :: rest) = (none, '.' :: digit :: rest) := by
                simp only [scanPrecision, scanDigits_cons_of_not hdigit]
              rw [refuses_runWays hdigit rest, hscan]
              exact (congrArg List.head? (hpoint (digit :: rest))).symm
      · have hscan : scanPrecision (char :: rest) = (none, char :: rest) := by
          unfold scanPrecision
          split
          · rename_i heq
            exact absurd (List.cons.inj heq).1 hmark
          · rfl
        rw [if_neg (by simpa using hmark), hscan, List.nil_append]

/-- A pad is taken where it stands; a zero is taken as a pad when that leads to a match, and it
does so whenever leaving it for the width does. -/
theorem head?_paddingWays {next : Option Padding → Ways β}
    (hzero : ∀ rest, next (some .zero) rest = [] → next none ('0' :: rest) = [])
    (hquote : Refuses (next none) '\'') (chars : List Char) :
    (paddingWays.andThen next chars).head? =
      (next (scanPadding chars).1 (scanPadding chars).2).head? := by
  rw [paddingWays, orElse_andThen, orElse_andThen, done_andThen, andThen_assoc, andThen_assoc]
  simp only [andThen_assoc, done_andThen]
  cases chars with
  | nil => rfl
  | cons char rest =>
      rw [one_andThen_cons, one_andThen_cons]
      by_cases hmark : char = '0'
      · rw [hmark, if_pos (by decide), if_neg (by decide), List.append_nil]
        show (_ ++ next none ('0' :: rest)).head? = (next (some .zero) rest).head?
        -- The zero is taken whenever the pattern can go on behind it, and otherwise leaving it
        -- for the width does not help.
        cases hnext : next (some .zero) rest with
        | nil => rw [hzero rest hnext, List.append_nil]
        | cons way ways => rfl
      · rw [if_neg (by simpa using hmark), List.nil_append]
        by_cases hmarkQuote : char = '\''
        · rw [hmarkQuote, if_pos (by decide), hquote rest, List.append_nil]
          cases rest with
          | nil => exact (congrArg List.head? (hquote [])).symm
          | cons custom rest =>
              rw [one_andThen_cons]
              by_cases hdollar : custom = '$'
              · have hscan : scanPadding ('\'' :: custom :: rest) =
                    (none, '\'' :: custom :: rest) := if_pos hdollar
                rw [if_neg (by simpa using hdollar), hscan]
                exact (congrArg List.head? (hquote (custom :: rest))).symm
              · have hscan : scanPadding ('\'' :: custom :: rest) =
                    (some (.custom custom), rest) := if_neg hdollar
                rw [if_pos (by simpa using hdollar), hscan]
        · have hscan : scanPadding (char :: rest) = (none, char :: rest) := by
            unfold scanPadding
            split
            · rename_i heq
              exact absurd (List.cons.inj heq).1 hmark
            · rename_i heq
              exact absurd (List.cons.inj heq).1 hmarkQuote
            · rfl
          rw [if_neg (by simpa using hmarkQuote), hscan, List.nil_append]

/-- A position is read where the digits stop at a dollar sign, unless the first one is a zero. -/
theorem scanPosition?_cons {first : Char} (hdigit : isDecimal first = true) (rest : List Char) :
    scanPosition? (first :: rest) =
      if first ≠ '0' ∧ (rest.dropWhile isDecimal).head? = some '$' then
        some (first :: rest.takeWhile isDecimal, (rest.dropWhile isDecimal).tail)
      else none := by
  unfold scanPosition?
  rw [List.takeWhile_cons_of_pos hdigit, List.dropWhile_cons_of_pos hdigit]
  dsimp only
  split
  · rename_i heq hdrop
    cases heq
    rw [hdrop]
    by_cases hzero : first = '0'
    · rw [if_pos hzero, if_neg fun hboth ↦ hboth.1 hzero]
    · rw [if_neg hzero, if_pos ⟨hzero, rfl⟩]
      rfl
  · rename_i hother
    refine (if_neg ?_).symm
    rintro ⟨-, hhead⟩
    obtain ⟨after, hdrop⟩ := List.head?_eq_some_iff.1 hhead
    exact hother first _ after rfl hdrop

/-- A position does not start with anything but a digit. -/
theorem refuses_positionWays {next : WrittenReference → Ways β} {char : Char}
    (hdigit : isDecimal char = false) : Refuses (positionWays.andThen next) char := by
  rw [positionWays, andThen_assoc]
  exact refuses_one (by rw [hdigit]; rfl)

/-- A field does not start with anything but a parenthesis. -/
theorem refuses_fieldWays {next : WrittenReference → Ways β} {char : Char} (hopen : char ≠ '(') :
    Refuses (fieldWays.andThen next) char := by
  rw [fieldWays, andThen_assoc]
  exact refuses_one (decide_eq_false hopen)

/-- Of the runs of digits, only the one that stands before a dollar sign is a position. -/
theorem positionWays_andThen (next : WrittenReference → Ways β) {first : Char}
    (hdigit : isDecimal first = true) (rest : List Char) :
    positionWays.andThen next (first :: rest) =
      match scanPosition? (first :: rest) with
      | some (digits, after) => next (.position digits) after
      | none => [] := by
  have hrefuses : ∀ (taken : List Char) (char : Char), isDecimal char = true →
      Refuses ((one (· = '$')).andThen fun _ ↦ next (.position (first :: taken))) char := by
    intro taken char hchar
    refine refuses_one (decide_eq_false ?_)
    rintro rfl
    exact absurd hchar (by decide)
  rw [positionWays, andThen_assoc]
  simp only [andThen_assoc, done_andThen]
  rw [one_andThen_cons, many_andThen hrefuses, scanPosition?_cons hdigit]
  by_cases hzero : first = '0'
  · rw [if_neg (by simp [hzero]), if_neg fun hboth ↦ hboth.1 hzero]
  · rw [if_pos (by simp [hdigit, hzero])]
    cases rest.dropWhile isDecimal with
    | nil =>
        rw [if_neg (by simp)]
        rfl
    | cons char after =>
        rw [one_andThen_cons]
        by_cases hdollar : char = '$'
        · rw [hdollar, if_pos (decide_eq_true rfl), if_pos ⟨hzero, rfl⟩]
          rfl
        · rw [if_neg (by simpa using hdollar), if_neg (by simp [hdollar])]

/-- Of the texts behind an opening parenthesis, only the one that stands before the first closing
one is a field. -/
theorem fieldWays_andThen (next : WrittenReference → Ways β) (inner : List Char) :
    fieldWays.andThen next ('(' :: inner) =
      match scanField? inner with
      | some (field, rest) => next (.field field) rest
      | none => [] := by
  rw [fieldWays, andThen_assoc]
  simp only [andThen_assoc, done_andThen]
  rw [one_andThen_cons, if_pos (decide_eq_true rfl)]
  cases inner with
  | nil => rfl
  | cons first rest =>
      have hrefuses : ∀ (taken : List Char) (char : Char), decide (char ≠ ')') = true →
          Refuses ((one (· = ')')).andThen fun _ ↦ next (.field (first :: taken))) char :=
        fun taken char hchar ↦ refuses_one (decide_eq_false (of_decide_eq_true hchar))
      have hstop := stopsRun_dropWhile (fun char ↦ decide (char ≠ ')')) rest
      rw [one_andThen_cons, many_andThen hrefuses]
      unfold scanField?
      by_cases hclosing : first = ')'
      · rw [if_neg (by simpa using hclosing), hclosing]
        rfl
      · have htake : (first :: rest).takeWhile (fun char ↦ decide (char ≠ ')')) =
            first :: rest.takeWhile fun char ↦ decide (char ≠ ')') :=
          List.takeWhile_cons_of_pos (decide_eq_true hclosing)
        have hdropFirst : (first :: rest).dropWhile (fun char ↦ decide (char ≠ ')')) =
            rest.dropWhile fun char ↦ decide (char ≠ ')') :=
          List.dropWhile_cons_of_pos (decide_eq_true hclosing)
        rw [if_pos (decide_eq_true hclosing), htake, hdropFirst]
        cases hdrop : rest.dropWhile fun char ↦ decide (char ≠ ')') with
        | nil => rfl
        | cons char after =>
            rw [hdrop, stopsRun_cons] at hstop
            rw [one_andThen_cons, if_pos (by simpa using hstop)]
            rfl

/-- A reference is taken where it stands, because what follows starts neither with a parenthesis
nor with a number and a dollar sign. -/
theorem head?_referenceWays {next : WrittenReference → Ways β}
    (hopen : Refuses (next .absent) '(')
    (hposition : ∀ digits rest, IsRun digits → digits.head? ≠ some '0' →
      next .absent (digits ++ '$' :: rest) = [])
    (chars : List Char) : (referenceWays.andThen next chars).head? =
      (next (scanReference chars).1 (scanReference chars).2).head? := by
  rw [referenceWays, orElse_andThen, orElse_andThen, done_andThen]
  cases chars with
  | nil => rfl
  | cons first rest =>
      by_cases hparenthesis : first = '('
      · subst hparenthesis
        rw [refuses_positionWays (by decide) rest, fieldWays_andThen, hopen rest, List.nil_append,
          List.append_nil]
        have hreference : scanReference ('(' :: rest) =
            match scanField? rest with
            | some (field, after) => (.field field, after)
            | none => (.absent, '(' :: rest) := rfl
        rw [hreference]
        cases scanField? rest with
        | none => exact (congrArg List.head? (hopen rest)).symm
        | some found => rfl
      · rw [refuses_fieldWays hparenthesis rest, List.append_nil]
        have hreference : scanReference (first :: rest) =
            match scanPosition? (first :: rest) with
            | some (digits, after) => (.position digits, after)
            | none => (.absent, first :: rest) := by
          unfold scanReference
          split
          · rename_i heq
            exact absurd (List.cons.inj heq).1 hparenthesis
          · rfl
        by_cases hdigit : isDecimal first = true
        · rw [positionWays_andThen next hdigit]
          cases hscan : scanPosition? (first :: rest) with
          | none => rw [hreference, hscan, List.nil_append]
          | some found =>
              rw [hscan] at hreference
              obtain ⟨htext, hrun, hfirst⟩ := eq_append_of_scanReference hreference
              have habsent : next .absent (first :: rest) = [] := by
                rw [htext, WrittenReference.text, List.append_assoc]
                exact hposition _ _ hrun hfirst
              rw [habsent, hreference, List.append_nil]
        · have hdigit : isDecimal first = false := by simpa using hdigit
          have hnone : scanPosition? (first :: rest) = none := by
            unfold scanPosition?
            rw [List.takeWhile_cons_of_neg (by simp [hdigit])]
          rw [refuses_positionWays hdigit rest, hreference, hnone, List.nil_append]

end Parts

end Placeholder

end Numbering
