import Numbering.Numeral.Notation
import Numbering.Value.Json

/-!
# Writing JSON numbers

The library of JSON numbers that the program is built with: it writes the shortest digits, with a
point or an exponent, and refuses no number.
-/

namespace Numbering.Json

/-- Numbers are written with their shortest digits. -/
@[reducible]
def Writer.shortest : Writer where
  float number := .ok (Numeral.floating number)

/-- The shortest digits of a number can always be written. -/
theorem Writer.writesFinite_shortest :
    letI := Writer.shortest
    Writer.WritesFinite :=
  fun number _ _ ↦ ⟨Numeral.floating number, rfl⟩

end Numbering.Json
