import Numbering.Binary64.Arithmetic

/-!
# Settings of a numbering

The template of the numbers, the first number, and the distance from one number to the next.
-/

namespace Numbering

/-- The template, start and step of a numbering. -/
structure Settings where
  format : String
  start : Binary64
  step : Binary64
deriving DecidableEq

/-- Counting from zero in steps of one. -/
def Settings.standard : Settings := ⟨"%d", .zero, .one⟩

/-- Settings of which any part may be left open. -/
structure PartialSettings where
  format : Option String
  start : Option Binary64
  step : Option Binary64
deriving DecidableEq

namespace PartialSettings

/-- Settings that leave everything open. -/
def unset : PartialSettings := ⟨none, none, none⟩

/-- Fill the open parts from other settings. Whatever is given stays as it is, a zero and an empty
template included. -/
def orElse (settings : PartialSettings) (defaults : Settings) : Settings :=
  ⟨settings.format.getD defaults.format, settings.start.getD defaults.start,
    settings.step.getD defaults.step⟩

/-- Fill the open parts with the standard settings. -/
def toSettings (settings : PartialSettings) : Settings := settings.orElse .standard

end PartialSettings

end Numbering
