import Numbering.Template.Basic
import Numbering.Text.Utf8

/-!
# Reading templates

A template is read from left to right: a run of text without percent signs, a doubled percent
sign, or a placeholder. `Placeholder.scan?` takes the longest placeholder after a percent sign and
keeps its parts as written; `Placeholder.directive` gives them their meaning, which fails for a
malformed key path and for a number above `2 ^ 64 - 1`. Main fact: a scanned placeholder leaves
less text than it was given (`Placeholder.length_of_scan?`).
-/

namespace Numbering

/-- The reference of a placeholder as written. -/
inductive WrittenReference where
  | absent
  | position (digits : List Char)
  | field (text : List Char)
deriving DecidableEq

/-- The parts of a placeholder as written. -/
structure Placeholder where
  reference : WrittenReference
  forceSign : Bool
  padding : Option Padding
  leftAlign : Bool
  width : Option (List Char)
  precision : Option (List Char)
  conversion : Conversion

/-- Why a placeholder of the right shape is refused. -/
inductive PlaceholderFault where
  | malformedKey (key : String)
  | numberTooGreat

namespace PlaceholderFault

/-- The error that a fault is at a byte offset of the template. -/
def locate (offset : Nat) : PlaceholderFault → TemplateError
  | .malformedKey key => .malformedKey key
  | .numberTooGreat => .unexpectedPlaceholder offset

end PlaceholderFault

namespace Placeholder

/-- Take a run of digits, if there is one. -/
def scanDigits (chars : List Char) : Option (List Char) × List Char :=
  let digits := chars.takeWhile Digits.isDecimal
  (if digits.isEmpty then none else some digits, chars.dropWhile Digits.isDecimal)

/-- Take a nonempty text in parentheses, given what follows the opening one. -/
def scanField? (chars : List Char) : Option (List Char × List Char) :=
  let field := chars.takeWhile (· ≠ ')')
  match chars.dropWhile (· ≠ ')') with
  | _ :: rest => if field.isEmpty then none else some (field, rest)
  | [] => none

/-- Take a number without a leading zero that is followed by a dollar sign. -/
def scanPosition? (chars : List Char) : Option (List Char × List Char) :=
  let digits := chars.takeWhile Digits.isDecimal
  match digits, chars.dropWhile Digits.isDecimal with
  | first :: _, '$' :: rest => if first = '0' then none else some (digits, rest)
  | _, _ => none

/-- Take a reference; without one nothing is taken. -/
def scanReference (chars : List Char) : WrittenReference × List Char :=
  match chars with
  | '(' :: inner =>
      match scanField? inner with
      | some (field, rest) => (.field field, rest)
      | none => (.absent, chars)
  | _ =>
      match scanPosition? chars with
      | some (digits, rest) => (.position digits, rest)
      | none => (.absent, chars)

/-- Take a flag, if it is there. -/
def scanFlag (flag : Char) : List Char → Bool × List Char
  | [] => (false, [])
  | char :: rest => if char = flag then (true, rest) else (false, char :: rest)

/-- Take a pad, which is a zero or a quote followed by any character but a dollar sign. -/
def scanPadding : List Char → Option Padding × List Char
  | '0' :: rest => (some .zero, rest)
  | '\'' :: char :: rest =>
      if char = '$' then (none, '\'' :: char :: rest) else (some (.custom char), rest)
  | chars => (none, chars)

/-- Take a point followed by digits, if it is there. -/
def scanPrecision (chars : List Char) : Option (List Char) × List Char :=
  match chars with
  | '.' :: afterPoint =>
      match scanDigits afterPoint with
      | (some digits, rest) => (some digits, rest)
      | (none, _) => (none, chars)
  | _ => (none, chars)

/-- Take a conversion letter. -/
def scanConversion? : List Char → Option (Conversion × List Char)
  | [] => none
  | char :: rest => (Conversion.ofLetter? char).map (·, rest)

/-- Take a placeholder, given what follows its percent sign. -/
def scan? (chars : List Char) : Option (Placeholder × List Char) :=
  let reference := scanReference chars
  let forceSign := scanFlag '+' reference.2
  let padding := scanPadding forceSign.2
  let leftAlign := scanFlag '-' padding.2
  let width := scanDigits leftAlign.2
  let precision := scanPrecision width.2
  (scanConversion? precision.2).map fun conversion ↦
    (⟨reference.1, forceSign.1, padding.1, leftAlign.1, width.1, precision.1, conversion.1⟩,
      conversion.2)

/-- The meaning of a reference. -/
def referenceOf : WrittenReference → Except PlaceholderFault Reference
  | .absent => .ok .next
  | .position digits =>
      match Digits.count? digits with
      | some number => .ok (.position number)
      | none => .error .numberTooGreat
  | .field text =>
      let field := String.ofList text
      match KeyPath.parse? field with
      | some path => .ok (.path path)
      | none => .error (.malformedKey field)

/-- The meaning of a number that may be absent. -/
def countOf : Option (List Char) → Except PlaceholderFault (Option Nat)
  | none => .ok none
  | some digits =>
      match Digits.count? digits with
      | some number => .ok (some number)
      | none => .error .numberTooGreat

/-- The directive that a placeholder denotes. Of several faults, that of the reference counts. -/
def directive (placeholder : Placeholder) : Except PlaceholderFault Directive :=
  match referenceOf placeholder.reference with
  | .error fault => .error fault
  | .ok reference =>
      match countOf placeholder.width, countOf placeholder.precision with
      | .error fault, _ => .error fault
      | .ok _, .error fault => .error fault
      | .ok width, .ok precision =>
          .ok
            { reference, forceSign := placeholder.forceSign, padding := placeholder.padding,
              leftAlign := placeholder.leftAlign, width, precision,
              conversion := placeholder.conversion }

/-- A run of digits leaves no more than there was. -/
theorem length_scanDigits (chars : List Char) : (scanDigits chars).2.length ≤ chars.length :=
  (List.dropWhile_sublist Digits.isDecimal).length_le

/-- A reference leaves no more than there was. -/
theorem length_scanReference (chars : List Char) :
    (scanReference chars).2.length ≤ chars.length := by
  unfold scanReference
  split
  · rename_i inner
    have hle := (List.dropWhile_sublist (l := inner) (· ≠ ')')).length_le
    unfold scanField?
    split
    · rename_i field rest hfield
      simp only at hfield
      split at hfield
      · rename_i closing after hdrop
        split at hfield
        · cases hfield
        · cases hfield
          rw [hdrop] at hle
          simp only [List.length_cons] at hle ⊢
          omega
      · cases hfield
    · exact Nat.le_refl _
  · have hle := (List.dropWhile_sublist (l := chars) Digits.isDecimal).length_le
    unfold scanPosition?
    split
    · rename_i digits rest hposition
      simp only at hposition
      split at hposition
      · rename_i first others after htake hdrop
        split at hposition
        · cases hposition
        · cases hposition
          rw [hdrop] at hle
          simp only [List.length_cons] at hle ⊢
          omega
      · cases hposition
    · exact Nat.le_refl _

/-- A flag leaves no more than there was. -/
theorem length_scanFlag (flag : Char) (chars : List Char) :
    (scanFlag flag chars).2.length ≤ chars.length := by
  cases chars with
  | nil => simp [scanFlag]
  | cons char rest =>
      by_cases hflag : char = flag <;> simp [scanFlag, hflag]

/-- A pad leaves no more than there was. -/
theorem length_scanPadding (chars : List Char) : (scanPadding chars).2.length ≤ chars.length := by
  unfold scanPadding
  split
  · simp
  · split
    · simp
    · simp only [List.length_cons]
      omega
  · exact Nat.le_refl _

/-- A precision leaves no more than there was. -/
theorem length_scanPrecision (chars : List Char) :
    (scanPrecision chars).2.length ≤ chars.length := by
  unfold scanPrecision
  split
  · rename_i afterPoint
    have hle := length_scanDigits afterPoint
    split
    · rename_i digits rest hdigits
      rw [hdigits] at hle
      exact Nat.le_succ_of_le hle
    · exact Nat.le_refl _
  · exact Nat.le_refl _

/-- A conversion takes one character. -/
theorem length_of_scanConversion? {chars : List Char} {conversion : Conversion × List Char}
    (hscan : scanConversion? chars = some conversion) :
    conversion.2.length < chars.length := by
  cases chars with
  | nil => simp [scanConversion?] at hscan
  | cons char rest =>
      obtain ⟨found, _, heq⟩ := Option.map_eq_some_iff.1 hscan
      rw [← heq]
      exact Nat.lt_succ_self rest.length

/-- A placeholder takes at least one character. -/
theorem length_of_scan? {chars rest : List Char} {placeholder : Placeholder}
    (hscan : scan? chars = some (placeholder, rest)) : rest.length < chars.length := by
  unfold scan? at hscan
  obtain ⟨conversion, hconversion, heq⟩ := Option.map_eq_some_iff.1 hscan
  have hrest : conversion.2 = rest := congrArg Prod.snd heq
  rw [← hrest]
  calc conversion.2.length
      < _ := length_of_scanConversion? hconversion
    _ ≤ _ := length_scanPrecision _
    _ ≤ _ := length_scanDigits _
    _ ≤ _ := length_scanFlag '-' _
    _ ≤ _ := length_scanPadding _
    _ ≤ _ := length_scanFlag '+' _
    _ ≤ chars.length := length_scanReference chars

end Placeholder

/-- How the directives of a template refer to arguments: all by path, or none. -/
inductive ReferenceStyle where
  | named
  | positional
deriving DecidableEq

namespace Reference

/-- The style that a reference belongs to. -/
def style : Reference → ReferenceStyle
  | .path _ => .named
  | .next | .position _ => .positional

end Reference

namespace Template

/-- Read the segments of the rest of a template. The first argument is the length of the whole
template in bytes, the second the style of the directives before. -/
def parseSegments (size : Nat) (style : Option ReferenceStyle) (chars : List Char) :
    Except TemplateError (List Segment) :=
  match chars with
  | [] => .ok []
  | '%' :: '%' :: rest => (parseSegments size style rest).map (.literal "%" :: ·)
  | '%' :: rest =>
      let offset := size - Text.byteLength chars
      match _ : Placeholder.scan? rest with
      | none => .error (.unexpectedPlaceholder offset)
      | some (placeholder, after) =>
          match placeholder.directive with
          | .error fault => .error (fault.locate offset)
          | .ok directive =>
              if style.any (· ≠ directive.reference.style) then .error .mixedReference
              else
                (parseSegments size (some directive.reference.style) after).map
                  (.directive directive :: ·)
  | char :: rest =>
      let run := char :: rest.takeWhile (· ≠ '%')
      (parseSegments size style (rest.dropWhile (· ≠ '%'))).map
        (.literal (String.ofList run) :: ·)
termination_by chars.length
decreasing_by
  · simp only [List.length_cons]
    omega
  · exact Nat.lt_succ_of_lt (Placeholder.length_of_scan? (by assumption))
  · exact Nat.lt_succ_of_le (List.dropWhile_sublist _).length_le

/-- Read a template. -/
def parse (source : String) : Except TemplateError Template :=
  (parseSegments (Text.byteLength source.toList) none source.toList).map (⟨source, ·⟩)

end Template

end Numbering
