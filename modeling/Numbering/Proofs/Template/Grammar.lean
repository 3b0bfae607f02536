import Numbering.Proofs.KeyPath.Grammar
import Numbering.Proofs.Template.Scanning
import Numbering.Proofs.Text.Digits

/-!
# The grammar of directives

`Directive.Spelling` says which texts spell a directive, part by part: `%`, a reference, a sign, a
pad, an alignment, a width, a precision and the letter of the conversion, all but the first and
the last of which may be absent. A text spells a directive precisely when it is the writing of a
well-formed placeholder that denotes the directive (`Directive.spelling_iff`).
-/

namespace Numbering

open Text Digits

/-- The ways to spell a reference. -/
inductive Reference.Spelling : Reference → List Char → Prop where
  | next : Spelling .next []
  | position (number digits) :
      IsCount number digits → digits.head? ≠ some '0' → 1 ≤ number →
      Spelling (.position number) (digits ++ ['$'])
  | path (path chars) : path.Spelling chars → Spelling (.path path) ('(' :: chars ++ [')'])

namespace Directive

/-- The ways to spell a flag: its character when it is set, and nothing otherwise. -/
inductive FlagSpelling (flag : Char) : Bool → List Char → Prop where
  | unset : FlagSpelling flag false []
  | set : FlagSpelling flag true [flag]

/-- The ways to spell a pad: a zero, or a quote and any character but a dollar sign. -/
inductive PaddingSpelling : Option Padding → List Char → Prop where
  | absent : PaddingSpelling none []
  | zero : PaddingSpelling (some .zero) ['0']
  | custom (char) : char ≠ '$' → PaddingSpelling (some (.custom char)) ['\'', char]

/-- The ways to spell a number that may be absent: a mark and a numeral. -/
inductive CountSpelling (mark : List Char) : Option Nat → List Char → Prop where
  | absent : CountSpelling mark none []
  | given (number digits) :
      IsCount number digits → CountSpelling mark (some number) (mark ++ digits)

/-- The ways to spell a directive. Without a pad, no zero may stand where the pad would be. -/
inductive Spelling (directive : Directive) : List Char → Prop where
  | intro (reference sign padding alignment width precision) :
      directive.reference.Spelling reference →
      FlagSpelling '+' directive.forceSign sign →
      PaddingSpelling directive.padding padding →
      FlagSpelling '-' directive.leftAlign alignment →
      CountSpelling [] directive.width width →
      CountSpelling ['.'] directive.precision precision →
      (padding = [] → (alignment ++ width).head? ≠ some '0') →
      Spelling directive
        ('%' :: (reference ++ sign ++ padding ++ alignment ++ width ++ precision ++
          [directive.conversion.letter]))

end Directive

/-! ## Key paths in parentheses -/

namespace KeyPath

/-- A spelled path is nonempty and contains no closing parenthesis. -/
theorem IsKey.wellFormed {key : List Char} (hkey : IsKey key) : key ≠ [] ∧ ')' ∉ key := by
  cases hkey with
  | intro first rest hfirst hrest =>
      refine ⟨by simp, fun hmem ↦ ?_⟩
      rcases List.mem_cons.1 hmem with heq | hmem
      · rw [← heq] at hfirst
        exact absurd hfirst (by simp [StartsKey])
      · exact absurd (hrest _ hmem) (by simp [StartsKey]; decide)

/-- No step of a path holds a closing parenthesis. -/
theorem Steps.not_mem {accessors : List Accessor} {chars : List Char}
    (hsteps : Steps accessors chars) : ')' ∉ chars := by
  induction hsteps with
  | nil => simp
  | cons accessor accessors chars others hspelling hsteps ih =>
      have hchars : ')' ∉ chars := by
        cases hspelling with
        | key name hkey => simpa using hkey.wellFormed.2
        | index position digits hcount =>
            have hdigits : ')' ∉ digits := fun hmem ↦ absurd (hcount.isDigit _ hmem) (by decide)
            simpa using hdigits
      simp [hchars, ih]

/-- The spelling of a path may stand between parentheses. -/
theorem Spelling.wellFormed {path : KeyPath} {chars : List Char} (hspelling : path.Spelling chars) :
    WrittenReference.WellFormed (.field chars) := by
  obtain ⟨hkey, others, hsteps, rfl⟩ := hspelling
  exact ⟨by simp [hkey.wellFormed.1], by simp [hkey.wellFormed.2, hsteps.not_mem]⟩

end KeyPath

/-! ## Spellings and placeholders -/

/-- A spelled reference is a well-formed written one that denotes it. -/
theorem Reference.spelling_iff {reference : Reference} {chars : List Char} :
    reference.Spelling chars ↔ ∃ written : WrittenReference, written.WellFormed ∧
      Placeholder.referenceOf written = .ok reference ∧ chars = written.text := by
  constructor
  · intro hspelling
    cases hspelling with
    | next => exact ⟨.absent, trivial, rfl, rfl⟩
    | position number digits hcount hfirst _ =>
        refine ⟨.position digits, ⟨hcount.toIsRun, hfirst⟩, ?_, rfl⟩
        simp [Placeholder.referenceOf, hcount.count?]
    | path path chars hpath =>
        refine ⟨.field chars, hpath.wellFormed, ?_, rfl⟩
        have hparse : KeyPath.parse? (String.ofList chars) = some path :=
          KeyPath.parse?_eq_some_iff.2 (by rwa [String.toList_ofList])
        simp [Placeholder.referenceOf, hparse]
  · rintro ⟨written, hformed, hdenotes, rfl⟩
    cases written with
    | absent =>
        cases hdenotes
        exact .next
    | position digits =>
        rw [Placeholder.referenceOf] at hdenotes
        split at hdenotes
        · rename_i number hcount
          cases hdenotes
          have hnumeral := hformed.1.isCount hcount
          refine .position _ _ hnumeral hformed.2 ?_
          rw [← hnumeral.value]
          exact hformed.1.one_le_decimalNat hformed.2
        · cases hdenotes
    | field chars =>
        rw [Placeholder.referenceOf] at hdenotes
        split at hdenotes
        · rename_i path hparse
          cases hdenotes
          have hpath := KeyPath.parse?_eq_some_iff.1 hparse
          rw [String.toList_ofList] at hpath
          exact .path _ _ hpath
        · cases hdenotes

namespace Directive

/-- A spelled number is a written one that denotes it. -/
theorem countSpelling_iff {mark chars : List Char} {number? : Option Nat} :
    CountSpelling mark number? chars ↔ ∃ digits? : Option (List Char),
      (∀ digits ∈ digits?, IsRun digits) ∧ Placeholder.countOf digits? = .ok number? ∧
        chars = (digits?.map (mark ++ ·)).getD [] := by
  constructor
  · intro hspelling
    cases hspelling with
    | absent => exact ⟨none, by simp, rfl, rfl⟩
    | given number digits hcount =>
        refine ⟨some digits, ?_, ?_, rfl⟩
        · rintro _ ⟨⟩
          exact hcount.toIsRun
        · simp [Placeholder.countOf, hcount.count?]
  · rintro ⟨digits?, hrun, hdenotes, rfl⟩
    cases digits? with
    | none =>
        cases hdenotes
        exact .absent
    | some digits =>
        rw [Placeholder.countOf] at hdenotes
        split at hdenotes
        · rename_i number hcount
          cases hdenotes
          exact .given _ _ ((hrun digits rfl).isCount hcount)
        · cases hdenotes

/-- A flag is spelled by its character, or not at all. -/
theorem flagSpelling_iff {flag : Char} {given : Bool} {chars : List Char} :
    FlagSpelling flag given chars ↔ chars = Placeholder.flagText flag given := by
  constructor
  · intro hspelling
    cases hspelling <;> rfl
  · rintro rfl
    cases given
    · exact .unset
    · exact .set

/-- A padding is spelled in one way, and a dollar sign is none. -/
theorem paddingSpelling_iff {padding : Option Padding} {chars : List Char} :
    PaddingSpelling padding chars ↔
      padding ≠ some (.custom '$') ∧ chars = Placeholder.paddingText padding := by
  constructor
  · intro hspelling
    cases hspelling with
    | absent => exact ⟨by simp, rfl⟩
    | zero => exact ⟨by simp, rfl⟩
    | custom char hne => exact ⟨by simpa using hne, rfl⟩
  · rintro ⟨hne, rfl⟩
    cases padding with
    | none => exact .absent
    | some padding =>
        cases padding with
        | zero => exact .zero
        | custom char => exact .custom char (by simpa using hne)

/-- A placeholder denotes the directive with the meaning of each of its parts. -/
theorem directive_eq_ok_iff {placeholder : Placeholder} {directive : Directive} :
    placeholder.directive = .ok directive ↔
      Placeholder.referenceOf placeholder.reference = .ok directive.reference ∧
        Placeholder.countOf placeholder.width = .ok directive.width ∧
        Placeholder.countOf placeholder.precision = .ok directive.precision ∧
        placeholder.forceSign = directive.forceSign ∧ placeholder.padding = directive.padding ∧
        placeholder.leftAlign = directive.leftAlign ∧
        placeholder.conversion = directive.conversion := by
  obtain ⟨reference, forceSign, padding, leftAlign, width, precision, conversion⟩ := directive
  unfold Placeholder.directive
  cases Placeholder.referenceOf placeholder.reference with
  | error fault => simp
  | ok written =>
      cases Placeholder.countOf placeholder.width with
      | error fault => simp
      | ok widthCount =>
          cases Placeholder.countOf placeholder.precision with
          | error fault => simp
          | ok precisionCount =>
              simp only [Except.ok.injEq, mk.injEq]
              constructor
              · rintro ⟨hreference, hsign, hpadding, halign, hwidth, hprecision, hconversion⟩
                exact ⟨hreference, hwidth, hprecision, hsign, hpadding, halign, hconversion⟩
              · rintro ⟨hreference, hwidth, hprecision, hsign, hpadding, halign, hconversion⟩
                exact ⟨hreference, hsign, hpadding, halign, hwidth, hprecision, hconversion⟩

/-- A text spells a directive precisely when it is the writing of a well-formed placeholder that
denotes the directive. -/
theorem spelling_iff {directive : Directive} {chars : List Char} :
    directive.Spelling chars ↔ ∃ placeholder : Placeholder, placeholder.WellFormed ∧
      placeholder.directive = .ok directive ∧ chars = '%' :: placeholder.text := by
  constructor
  · rintro ⟨_, _, _, _, _, _, hreference, hsign, hpadding, halign, hwidth, hprecision, hzero⟩
    obtain ⟨written, hformed, hdenotes, rfl⟩ := Reference.spelling_iff.1 hreference
    obtain rfl := flagSpelling_iff.1 hsign
    obtain ⟨hdollar, rfl⟩ := paddingSpelling_iff.1 hpadding
    obtain rfl := flagSpelling_iff.1 halign
    obtain ⟨width, hwidthRun, hwidthCount, rfl⟩ := countSpelling_iff.1 hwidth
    obtain ⟨precision, hprecisionRun, hprecisionCount, rfl⟩ := countSpelling_iff.1 hprecision
    refine ⟨⟨written, directive.forceSign, directive.padding, directive.leftAlign, width, precision,
      directive.conversion⟩, ⟨hformed, hdollar, hwidthRun, hprecisionRun, ?_⟩, ?_, ?_⟩
    · intro hnone
      have hhead := hzero (congrArg Placeholder.paddingText hnone)
      cases width <;> exact hhead
    · exact directive_eq_ok_iff.2 ⟨hdenotes, hwidthCount, hprecisionCount, rfl, rfl, rfl, rfl⟩
    · cases width <;> cases precision <;>
        simp [Placeholder.text, Placeholder.precisionText]
  · rintro ⟨placeholder, hformed, hdenotes, rfl⟩
    obtain ⟨hreference, hwidth, hprecision, hsign, hpadding, halign, hconversion⟩ :=
      directive_eq_ok_iff.1 hdenotes
    have hwidthSpelling : CountSpelling [] directive.width (placeholder.width.getD []) :=
      countSpelling_iff.2 ⟨_, hformed.width, hwidth, by cases placeholder.width <;> rfl⟩
    have hprecisionSpelling : CountSpelling ['.'] directive.precision
        (Placeholder.precisionText placeholder.precision) :=
      countSpelling_iff.2 ⟨_, hformed.precision, hprecision, by cases placeholder.precision <;> rfl⟩
    have hspelling : directive.Spelling _ :=
      .intro _ (Placeholder.flagText '+' placeholder.forceSign)
        (Placeholder.paddingText placeholder.padding)
        (Placeholder.flagText '-' placeholder.leftAlign) _ _
        (Reference.spelling_iff.2 ⟨_, hformed.reference, hreference, rfl⟩)
        (flagSpelling_iff.2 (by rw [hsign]))
        (paddingSpelling_iff.2 ⟨by rw [← hpadding]; exact hformed.padding, by rw [hpadding]⟩)
        (flagSpelling_iff.2 (by rw [halign])) hwidthSpelling hprecisionSpelling ?_
    · simpa [Placeholder.text, hconversion] using hspelling
    · -- Only an absent pad is written by no character.
      intro hempty
      refine hformed.zero ?_
      revert hempty
      rcases placeholder.padding with _ | _ | _ <;> simp [Placeholder.paddingText, Padding.text]

end Directive

end Numbering
