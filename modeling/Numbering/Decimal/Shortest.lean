import Numbering.Binary64.Rounding
import Numbering.Decimal.Expansion

/-!
# The shortest decimal that reads back

Among the decimals that round to a given magnitude, the shortest expansion has the fewest digits,
and among those of that length it is the nearest. It is found on the decimal grids with one, two,
… seventeen digits: on each only the two neighbours of the magnitude need to be tried, and on the
last one a neighbour always reads back. What happens when both neighbours are equally near is a
decision of the format that is being written.
-/

namespace Numbering

/-- What to do with a number halfway between two decimals that both read back. -/
inductive HalfwayRule where
  | up
  | even
deriving DecidableEq

namespace Decimal

/-- A multiple of a decimal unit reads back as the magnitude. -/
def readsBack (magnitude : Magnitude) (unit : Rat) (multiple : Nat) : Bool :=
  Binary64.roundMagnitude? ((multiple : Rat) * unit) = some magnitude

/-- The multiple of a decimal unit that reads back as the magnitude and is nearest to it. -/
def nearestOnGrid? (halfway : HalfwayRule) (magnitude : Magnitude) (unit : Rat) : Option Nat :=
  let scaled := magnitude.toRat / unit
  let below := scaled.floor.toNat
  match readsBack magnitude unit below, readsBack magnitude unit (below + 1) with
  | false, false => none
  | true, false => some below
  | false, true => some (below + 1)
  | true, true =>
      let excess := 2 * (scaled - (below : Rat))
      if excess < 1 then some below
      else if 1 < excess then some (below + 1)
      else
        match halfway with
        | .up => some (below + 1)
        | .even => if below % 2 = 0 then some below else some (below + 1)

/-- The shortest expansion of a nonzero magnitude. -/
def shortest (halfway : HalfwayRule) (magnitude : Magnitude) : Decimal :=
  let exact := ofMagnitude magnitude
  let onGrid? (count : Nat) : Option Decimal :=
    let exponent := exact.point - (count + 1 : Nat)
    (nearestOnGrid? halfway magnitude (powerOfTen exponent)).map fun multiple ↦
      let decimal := ofScaled multiple exponent
      ⟨dropTrailingZeros decimal.digits, decimal.point⟩
  ((List.range 17).findSome? onGrid?).getD exact

end Decimal

end Numbering
