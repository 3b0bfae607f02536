import Mathlib.Control.Monad.Basic
import Numbering.Json.Writing
import Numbering.Proofs.NumberSequence.Elements
import Numbering.Proofs.Numeral.Integers
import Numbering.Proofs.Template.Padding
import Numbering.Proofs.Template.Rendering
import Numbering.Template.Parsing

/-!
# Integer sequences

As long as the numbers of a sequence are integers up to `2 ^ 53`, neither the product nor the sum
that an element is computed by is rounded (`hasValue_valueAt`). The template `%d` writes the sign of
an integer apart from its digits, and both together are its numeral (`render_integer`).
-/

namespace Numbering

/-- The directive `%d` takes the next argument and fills up with nothing. -/
def Directive.integer : Directive := ⟨.next, false, none, false, none, none, .decimal⟩

/-- The template `%d`. -/
def Template.integer : Template := ⟨"%d", [.directive .integer]⟩

/-- The template `%d` is read. -/
theorem Template.parse_integer : Template.parse "%d" = .ok .integer := by decide +kernel

section Rendering

variable {number : Binary64} {value : Int}

/-- The sign of an integer is taken off its numeral and written apart. -/
theorem Directive.signed_integer (hnumber : number.HasValue value) :
    Directive.integer.signed (.number number) (toString value).toList =
      (if value < 0 then ['-'] else [], Digits.numeral value.natAbs) := by
  have hpositive : (Value.number number).toNumber.isAtLeastZero = decide (0 ≤ value) :=
    hnumber.isAtLeastZero
  unfold signed
  rw [hpositive, Digits.toList_toString]
  by_cases hbelow : value < 0
  · rw [if_pos hbelow, decide_eq_false (by omega)]
    rfl
  · rw [if_neg hbelow, decide_eq_true (by omega)]
    rfl

/-- The template `%d` writes an integer up to `2 ^ 53` as its numeral. -/
theorem Template.render_integer [Json.Writer] (hnumber : number.HasValue value)
    (hvalue : value.natAbs ≤ 2 ^ 53) :
    Template.integer.render [.number number] = .ok (toString value) := by
  have htext : Directive.integer.conversion.textOf Directive.integer.precision (.number number) =
      .ok (toString value) := by
    show Except.ok
      (String.ofList (Numeral.plain (if number.isFinite then number.truncate else .nan))) = _
    rw [if_pos hnumber.isFinite, hnumber.truncate, Numeral.plain_of_hasValue hnumber hvalue,
      String.ofList_toList]
  refine render_of_format rfl rfl rfl ?_
  rw [Directive.format_number_of_textOf (by decide) htext, Directive.signed_integer hnumber]
  dsimp only
  rw [Directive.padded_of_width_none rfl, ← Digits.toList_toString, String.ofList_toList]

end Rendering

namespace NumberSequence

variable {sequence : NumberSequence} {first distance : Int} {index : Nat}

/-- An element is exact as long as no number on the way leaves the integers up to `2 ^ 53`. An index
is below `2 ^ 64`; that matters only for a step of zero. -/
theorem hasValue_valueAt (hstart : sequence.start.HasValue first)
    (hstep : sequence.step.HasValue distance) (hindex : index < 2 ^ 64)
    (hbound : first.natAbs + index * distance.natAbs ≤ 2 ^ 53) :
    (sequence.valueAt index).HasValue (first + index * distance) := by
  have hsize : ((index : Int) * distance).natAbs = index * distance.natAbs := by
    rw [Int.natAbs_mul, Int.natAbs_natCast]
  have hproduct : ((Binary64.ofNat index).mul sequence.step).HasValue (index * distance) := by
    by_cases hzero : distance = 0
    · rw [hzero, Int.mul_zero]
      rw [hzero] at hstep
      exact .mul_zero (Binary64.isFinite_ofNat (by decide) hindex) hstep
    · have hsmall : index ≤ 2 ^ 53 := by
        have hone : 1 ≤ distance.natAbs := Int.natAbs_pos.2 hzero
        have := Nat.le_mul_of_pos_right index hone
        omega
      exact (Binary64.hasValue_ofNat hsmall).mul hstep (by omega)
  exact hstart.add hproduct (by omega)

/-- Integer sequences are exact. The start and the step are integers, and so is every number on the
way to the element, up to `2 ^ 53`: then the element under the template `%d` is the decimal numeral
of the integer `start + index * step`, whatever the number of elements. A cursor gives it when it is
asked again and again. -/
theorem integers_exact [Json.Writer] {start step : Binary64} {count : Nat}
    (hstart : start.HasValue first)
    (hstep : step.HasValue distance) (hcount : count < 2 ^ 64) (hindex : index < count)
    (hbound : first.natAbs + index * distance.natAbs ≤ 2 ^ 53) :
    ∃ template, Template.parse "%d" = .ok template ∧
      (SequenceCursor.start ⟨template, start, step⟩ count).drain[index]? =
        some (.ok (toString (first + index * distance))) := by
  refine ⟨.integer, Template.parse_integer, ?_⟩
  have hvalue : (first + index * distance).natAbs ≤ 2 ^ 53 := by
    have hsize : ((index : Int) * distance).natAbs = index * distance.natAbs := by
      rw [Int.natAbs_mul, Int.natAbs_natCast]
    omega
  let sequence : NumberSequence := ⟨.integer, start, step⟩
  have helement : sequence.renderAt index = .ok (toString (first + index * distance)) :=
    Template.render_integer
      (hasValue_valueAt hstart hstep (hindex.trans hcount) hbound) hvalue
  rw [drain_eq_rest]
  show (sequence.renderFrom 0 count)[index]? = _
  rw [renderFrom_eq_map, List.getElem?_map, List.getElem?_range' hindex, Nat.zero_add,
    Nat.one_mul, Option.map_some, helement]

/-- A sequence that starts at the far end of the exact integers. -/
theorem integers_exact_far :
    letI := Json.Writer.shortest
    ∃ template, Template.parse "%d" = .ok template ∧
      (SequenceCursor.start ⟨template, (Binary64.ofNat 9007199254740990).neg, .ofNat 2⟩
        3).drain[1]? = some (.ok "-9007199254740988") := by
  let := Json.Writer.shortest
  have hstart : (Binary64.ofNat 9007199254740990).neg.HasValue (-9007199254740990) :=
    ⟨by decide +kernel, by decide +kernel⟩
  have hstep : (Binary64.ofNat 2).HasValue 2 := ⟨by decide +kernel, by decide +kernel⟩
  have hbound : (-9007199254740990 : Int).natAbs + 1 * (2 : Int).natAbs ≤ 2 ^ 53 := by decide
  obtain ⟨template, hparse, helement⟩ :=
    integers_exact hstart hstep (by decide : 3 < 2 ^ 64) (by decide : 1 < 3) hbound
  exact ⟨template, hparse, helement⟩

end NumberSequence

end Numbering
