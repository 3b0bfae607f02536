import Numbering.Settings
import Numbering.Template.Parsing
import Numbering.Template.Rendering

/-!
# Number sequences

A number sequence renders one template against `start`, `start + step`, `start + 2 * step`, … Each
number is computed from its index, so that rounding errors do not add up. A cursor runs through
the first elements of a sequence; an element that cannot be rendered does not stop it.
-/

namespace Numbering

/-- A template together with the start and the step of its numbers. -/
structure NumberSequence where
  template : Template
  start : Binary64
  step : Binary64
deriving DecidableEq

variable [Json.Writer]

namespace NumberSequence

/-- The number with a given index. -/
def valueAt (sequence : NumberSequence) (index : Nat) : Binary64 :=
  sequence.start.add ((Binary64.ofNat index).mul sequence.step)

/-- The rendering of the number with a given index. -/
def renderAt (sequence : NumberSequence) (index : Nat) : Except RenderError String :=
  sequence.template.render [.number (sequence.valueAt index)]

/-- The renderings of a number of elements, from a given index on. -/
def renderFrom (sequence : NumberSequence) (index : Nat) :
    Nat → List (Except RenderError String)
  | 0 => []
  | count + 1 => sequence.renderAt index :: sequence.renderFrom (index + 1) count

/-- The texts of a list of renderings, or the first error among them. -/
def collect : List (Except RenderError String) → Except RenderError (List String)
  | [] => .ok []
  | .ok text :: rest => (collect rest).map (text :: ·)
  | .error error :: _ => .error error

/-- The renderings of the first elements, or the first error among them. -/
def renderAll (sequence : NumberSequence) (count : Nat) : Except RenderError (List String) :=
  collect (sequence.renderFrom 0 count)

end NumberSequence

/-- A place in the first `count` elements of a sequence. -/
structure SequenceCursor where
  sequence : NumberSequence
  count : Nat
  position : Nat
  position_le : position ≤ count

namespace SequenceCursor

/-- The cursor in front of the first elements of a sequence. -/
def start (sequence : NumberSequence) (count : Nat) : SequenceCursor :=
  ⟨sequence, count, 0, Nat.zero_le count⟩

/-- The number of elements that are left. -/
def remaining (cursor : SequenceCursor) : Nat := cursor.count - cursor.position

/-- The next element and the cursor behind it; nothing at the end. -/
def next? (cursor : SequenceCursor) : Option (Except RenderError String × SequenceCursor) :=
  if inside : cursor.position < cursor.count then
    some (cursor.sequence.renderAt cursor.position,
      { cursor with position := cursor.position + 1, position_le := inside })
  else none

/-- All elements that are left. -/
def rest (cursor : SequenceCursor) : List (Except RenderError String) :=
  cursor.sequence.renderFrom cursor.position cursor.remaining

/-- Each step takes one element away. -/
theorem remaining_of_next? {cursor after : SequenceCursor} {item : Except RenderError String}
    (hnext : cursor.next? = some (item, after)) : cursor.remaining = after.remaining + 1 := by
  unfold next? at hnext
  split at hnext
  · cases hnext
    simp only [remaining]
    omega
  · cases hnext

end SequenceCursor

end Numbering
