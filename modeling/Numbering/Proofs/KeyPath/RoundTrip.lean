import Mathlib.Data.List.Infix
import Numbering.Proofs.KeyPath.Grammar
import Numbering.Proofs.Text.Digits
import Numbering.Template.Parsing

/-!
# Writing key paths back

A path that was read from a text is read from the text that it writes as well, and the two texts
differ in the superfluous zeros of indices only (`KeyPath.parse?_text_round_trip`). A numeral is the
one that is written when no zero stands in front of another digit (`IsCount.numeral_eq_iff`), and an
opening bracket stands in front of an index and nowhere else.
-/

namespace Numbering

namespace Digits

/-- A digit is the character of its value. -/
theorem character_decimalValue {char : Char} (hdigit : IsDigit char) :
    character (decimalValue char) = char := by
  obtain ⟨hlow, hhigh⟩ := isDigit_iff_toNat.1 hdigit
  have hcode : 48 + (char.toNat - 48) = char.toNat := by omega
  rw [character, decimalValue, if_pos (by omega), hcode, Char.ofNat_toNat]

/-- Digits are the characters of their values. -/
theorem chars_map_decimalValue {digits : List Char} (hdigits : ∀ char ∈ digits, IsDigit char) :
    chars (digits.map decimalValue) = digits := by
  rw [chars, List.map_map]
  exact (List.map_congr_left fun char hchar ↦
    character_decimalValue (hdigits char hchar)).trans (List.map_id digits)

/-- The numeral of a number is written as it was read, unless a zero stands in front of another
digit. -/
theorem IsCount.numeral_eq_iff {number : Nat} {digits : List Char}
    (hcount : IsCount number digits) :
    numeral number = digits ↔ ∀ digit others, digits ≠ '0' :: digit :: others := by
  constructor
  · rintro heq digit others rfl
    rcases Nat.eq_zero_or_pos number with rfl | hpos
    · rw [numeral_eq_toDigits] at heq
      cases heq
    · exact head?_numeral hpos (congrArg List.head? heq)
  · intro hzero
    have hlow : ∀ digit ∈ digits.map decimalValue, digit < 10 := by
      refine List.forall_mem_map.2 fun char hchar ↦ ?_
      have hcode := isDigit_iff_toNat.1 (hcount.isDigit char hchar)
      unfold decimalValue
      omega
    have hfirst : (digits.map decimalValue).length = 1 ∨
        digits.map decimalValue ≠ [] ∧ (digits.map decimalValue).head? ≠ some 0 := by
      obtain ⟨first, others, rfl⟩ := List.exists_cons_of_ne_nil hcount.ne_nil
      cases others with
      | nil => exact .inl rfl
      | cons digit others =>
          refine .inr ⟨by simp, fun hhead ↦ hzero digit others ?_⟩
          have hvalue : decimalValue first = 0 := by simpa using hhead
          rw [← character_decimalValue (hcount.isDigit first (by simp)), hvalue]
          rfl
    rw [numeral, ← hcount.value, decimalNat, ofNat_toNat (by decide) hlow hfirst,
      chars_map_decimalValue hcount.isDigit]

end Digits

namespace KeyPath

open Digits Text

/-! ## Superfluous zeros -/

/-- Some index in the text starts with a zero that another digit follows. -/
def HasSuperfluousZero (chars : List Char) : Prop :=
  ∃ digit, IsDigit digit ∧ ['[', '0', digit] <:+: chars

/-- A text without brackets has no index. -/
theorem hasSuperfluousZero_append {front : List Char} (hfront : '[' ∉ front) (back : List Char) :
    HasSuperfluousZero (front ++ back) ↔ HasSuperfluousZero back := by
  induction front with
  | nil => rfl
  | cons char front ih =>
      have hne : char ≠ '[' := fun heq ↦ hfront (by simp [heq])
      rw [← ih fun hmem ↦ hfront (List.mem_cons_of_mem _ hmem)]
      unfold HasSuperfluousZero
      simp [List.infix_cons_iff, List.cons_prefix_cons, hne.symm]

/-- A key holds no bracket. -/
theorem bracket_notMem_key {key : List Char} (hkey : IsKey key) : '[' ∉ key := by
  obtain ⟨first, others, hfirst, hothers⟩ := hkey
  intro hmem
  rcases List.mem_cons.1 hmem with rfl | hmem
  · exact absurd (isKeyStart_iff.2 hfirst) (by decide)
  · exact absurd (isKeyPart_iff.2 (hothers _ hmem)) (by decide)

/-- Behind an opening bracket the digits of an index decide. -/
theorem hasSuperfluousZero_index {digits : List Char} (hdigits : ∀ char ∈ digits, IsDigit char)
    (rest : List Char) : HasSuperfluousZero ('[' :: digits ++ ']' :: rest) ↔
      (∃ digit others, digits = '0' :: digit :: others) ∨ HasSuperfluousZero rest := by
  have hclosed : '[' ∉ digits ++ [']'] := by
    intro hmem
    rcases List.mem_append.1 hmem with hmem | hmem
    · exact absurd (hdigits _ hmem) (by decide)
    · exact absurd hmem (by decide)
  have hrest := hasSuperfluousZero_append hclosed rest
  rw [List.append_assoc, List.singleton_append] at hrest
  have hfront : (∃ digit, IsDigit digit ∧ ['0', digit] <+: digits ++ ']' :: rest) ↔
      ∃ digit others, digits = '0' :: digit :: others := by
    constructor
    · rintro ⟨digit, hdigit, hprefix⟩
      match digits, hprefix with
      | [], hprefix => exact absurd (List.cons_prefix_cons.1 hprefix).1 (by decide)
      | [first], hprefix =>
          have hclosing := (List.cons_prefix_cons.1 (List.cons_prefix_cons.1 hprefix).2).1
          rw [hclosing] at hdigit
          exact absurd hdigit (by decide)
      | first :: second :: others, hprefix =>
          obtain ⟨rfl, -⟩ := List.cons_prefix_cons.1 hprefix
          exact ⟨second, others, rfl⟩
    · rintro ⟨digit, others, rfl⟩
      exact ⟨digit, hdigits digit (by simp), List.prefix_append ['0', digit] _⟩
  rw [← hrest, ← hfront]
  unfold HasSuperfluousZero
  rw [← exists_or]
  refine exists_congr fun digit ↦ ?_
  rw [List.cons_append, List.infix_cons_iff, List.cons_prefix_cons, and_or_left, eq_self_iff_true,
    true_and]

/-! ## Steps -/

/-- What a step writes spells the step. -/
theorem spelling_text {accessor : Accessor} {chars : List Char}
    (hspelling : accessor.Spelling chars) : accessor.Spelling accessor.text.toList := by
  cases hspelling with
  | key name hkey =>
      have htext : (Accessor.key name).text.toList = '.' :: name.toList := String.toList_append
      rw [htext]
      exact .key name hkey
  | index position digits hcount =>
      have htext : (Accessor.index position).text.toList = '[' :: numeral position ++ [']'] := by
        simp [Accessor.text, Digits.text]
      rw [htext]
      exact .index position _ ⟨isRun_numeral position, decimalNat_numeral position, hcount.bounded⟩

/-- What steps write spells the steps. -/
theorem steps_restText {accessors : List Accessor} {chars : List Char}
    (hsteps : Steps accessors chars) : Steps accessors (restText accessors).toList := by
  induction hsteps with
  | nil => exact .nil
  | cons accessor accessors chars others hspelling hsteps ih =>
      rw [restText, String.toList_append]
      exact .cons _ _ _ _ (spelling_text hspelling) ih

/-- Steps are written as they were read, unless an index has a superfluous zero. -/
theorem restText_eq_iff {accessors : List Accessor} {chars : List Char}
    (hsteps : Steps accessors chars) :
    (restText accessors).toList = chars ↔ ¬HasSuperfluousZero chars := by
  induction hsteps with
  | nil =>
      refine iff_of_true rfl ?_
      rintro ⟨digit, -, hinfix⟩
      cases List.infix_nil.1 hinfix
  | cons accessor accessors chars others hspelling hsteps ih =>
      rw [restText, String.toList_append]
      cases hspelling with
      | key name hkey =>
          have htext : (Accessor.key name).text.toList = '.' :: name.toList := String.toList_append
          have hnone : '[' ∉ '.' :: name.toList := by
            simpa using bracket_notMem_key hkey
          rw [htext, List.append_cancel_left_eq, ih, hasSuperfluousZero_append hnone]
      | index position digits hcount =>
          have htext : (Accessor.index position).text.toList ++ (restText accessors).toList =
              '[' :: (numeral position ++ ']' :: (restText accessors).toList) := by
            simp [Accessor.text, Digits.text]
          have hindex := hasSuperfluousZero_index hcount.isDigit others
          have hchars : '[' :: digits ++ [']'] ++ others = '[' :: digits ++ ']' :: others := by simp
          -- The two texts go on alike behind the closing brackets, where their digits end.
          have hstop : ∀ rest, StopsRun isDecimal (']' :: rest) := fun _ ↦ stopsRun_cons.2 rfl
          have hsplit : numeral position ++ ']' :: (restText accessors).toList =
              digits ++ ']' :: others ↔
                numeral position = digits ∧ (restText accessors).toList = others := by
            constructor
            · intro hsame
              obtain ⟨hdigits, hrest⟩ := run_append_inj (isRun_numeral position).isDecimal
                hcount.isDecimal (hstop _) (hstop _) hsame
              exact ⟨hdigits, (List.cons.inj hrest).2⟩
            · rintro ⟨hdigits, hrest⟩
              rw [hdigits, hrest]
          rw [htext, hchars, hindex, List.cons_append, List.cons.injEq, eq_self_iff_true, true_and,
            hsplit, ih, hcount.numeral_eq_iff, not_or]
          simp

/-! ## Paths -/

/-- A text is read as a path precisely when it spells the path, and otherwise the text itself is
reported as the malformed key. What a path writes that was read from a text is read as the same
path, and it is the text unless an index there has a superfluous zero. -/
theorem parse?_text_round_trip (field : String) :
    (∀ path, parse? field = some path ↔ path.Spelling field.toList) ∧
      ((∀ path : KeyPath, ¬path.Spelling field.toList) ↔
        Placeholder.referenceOf (.field field.toList) = .error (.malformedKey field)) ∧
      ∀ path, parse? field = some path →
        parse? path.text = some path ∧
          (path.text = field ↔ ¬HasSuperfluousZero field.toList) := by
  refine ⟨fun path ↦ parse?_eq_some_iff, ?_, fun path hparse ↦ ?_⟩
  · simp only [← parse?_eq_some_iff, Placeholder.referenceOf, String.ofList_toList]
    cases parse? field with
    | none => simp
    | some path => simp
  · obtain ⟨hkey, others, hsteps, hfield⟩ := parse?_eq_some_iff.1 hparse
    have htext : path.text.toList = path.first.toList ++ (restText path.rest).toList :=
      String.toList_append
    constructor
    · exact parse?_eq_some_iff.2 ⟨hkey, _, steps_restText hsteps, htext⟩
    · rw [← String.toList_inj, htext, hfield, List.append_cancel_left_eq, restText_eq_iff hsteps,
        hasSuperfluousZero_append (bracket_notMem_key hkey)]

/-- An index with superfluous zeros is written without them, one that is zero is kept, and one that
is too great is no path. -/
theorem parse?_text_round_trip_zeros :
    parse? "a[007].b[0]" = some ⟨"a", [.index 7, .key "b", .index 0]⟩ ∧
      parse? "a[7].b[0]" = some ⟨"a", [.index 7, .key "b", .index 0]⟩ ∧
      ¬(∃ path : KeyPath, path.Spelling "a[18446744073709551616]".toList) := by
  have hparse : parse? "a[007].b[0]" = some ⟨"a", [.index 7, .key "b", .index 0]⟩ := by
    decide +kernel
  have htext : KeyPath.text ⟨"a", [.index 7, .key "b", .index 0]⟩ = "a[7].b[0]" := by
    decide +kernel
  have hnone : parse? "a[18446744073709551616]" = none := by decide +kernel
  obtain ⟨-, -, hround⟩ := parse?_text_round_trip "a[007].b[0]"
  obtain ⟨hread, -, -⟩ := parse?_text_round_trip "a[18446744073709551616]"
  refine ⟨hparse, htext ▸ (hround _ hparse).1, ?_⟩
  rintro ⟨path, hspelling⟩
  have hsome := (hread path).2 hspelling
  rw [hnone] at hsome
  cases hsome

end KeyPath

end Numbering
