import Numbering.Binary64.Rounding
import Numbering.Settings
import Numbering.Toml.Basic

/-!
# Settings files

A settings file is a TOML document with a section for the settings of a numbering. The section is a
table with the keys `formatstr`, `start` and `step`, or an array of their values in this order;
each of them may be missing. A date or time of day is a section too, one without any of the keys.
Other keys are ignored, but the document has to be well formed as a whole, no integer in it may
exceed 128 bits, and no float may be outsized. Further items of a section that is an array are not
looked at.
-/

namespace Numbering

/-- A library that reads TOML documents. It gives the entries of a document, or the message of an
error; and it has a message for each way in which a document is not the one that is wanted. -/
class Toml.Reader where
  readDocument : String → Except String Toml.Entries
  message : Toml.ReadError → String

namespace SettingsFile

/-- The integer fits into 128 bits, with or without a sign. -/
def isStorable (number : Int) : Bool :=
  -170141183460469231731687303715884105728 ≤ number &&
    number ≤ 340282366920938463463374607431768211455

mutual

/-- A value that is ignored still has to be storable. -/
def isIgnorable : Toml.Value → Bool
  | .integer number => isStorable number
  | .outsized => false
  | .array _ items => areIgnorable items
  | .table _ entries => haveIgnorable entries
  | _ => true

/-- All items of an array are storable. -/
def areIgnorable : List Toml.Value → Bool
  | [] => true
  | item :: items => isIgnorable item && areIgnorable items

/-- All values of a table are storable. -/
def haveIgnorable : List (String × Toml.Value) → Bool
  | [] => true
  | (_, value) :: entries => isIgnorable value && haveIgnorable entries

end

/-- The text of a setting. -/
def readText (key : String) : Toml.Value → Except Toml.ReadError String
  | .string text => .ok text
  | _ => .error (.wrongType key)

/-- The number of a setting: a float, or an integer of at most 64 bits. -/
def readNumber (key : String) : Toml.Value → Except Toml.ReadError Binary64
  | .float number => .ok number
  | .integer number =>
      if -9223372036854775808 ≤ number ∧ number ≤ 18446744073709551615 then
        .ok (.ofInt number)
      else .error (.wrongType key)
  | _ => .error (.wrongType key)

/-- A setting that may be missing. -/
def readOptional (read : Toml.Value → Except Toml.ReadError α) :
    Option Toml.Value → Except Toml.ReadError (Option α)
  | none => .ok none
  | some value => (read value).map some

/-- The settings given by three values that may be missing. -/
def readSettings (format start step : Option Toml.Value) :
    Except Toml.ReadError PartialSettings := do
  let format ← readOptional (readText "formatstr") format
  let start ← readOptional (readNumber "start") start
  let step ← readOptional (readNumber "step") step
  .ok ⟨format, start, step⟩

/-- The name of the section. -/
def sectionName : String := "insertnum"

/-- The settings of a section. -/
def readSection : Toml.Value → Except Toml.ReadError PartialSettings
  | .table _ entries => do
      let entries : Toml.Entries := entries
      let settings ← readSettings (entries.lookup? "formatstr") (entries.lookup? "start")
        (entries.lookup? "step")
      let others := entries.filter fun (key, _) ↦
        key ≠ "formatstr" && key ≠ "start" && key ≠ "step"
      if haveIgnorable others then .ok settings else .error .malformed
  | .array _ items => readSettings items[0]? items[1]? items[2]?
  | .dateTime => .ok .unset
  | _ => .error (.wrongType sectionName)

/-- The settings of a document. Without a section everything is left open. -/
def settingsOf (entries : Toml.Entries) : Except Toml.ReadError PartialSettings :=
  let others := entries.filter fun (key, _) ↦ key ≠ sectionName
  if haveIgnorable others then
    match entries.lookup? sectionName with
    | none => .ok .unset
    | some value => readSection value
  else .error .malformed

/-- Read a settings file. -/
def read [Toml.Reader] (source : String) : Except String PartialSettings :=
  match Toml.Reader.readDocument source with
  | .error message => .error message
  | .ok entries => (settingsOf entries).mapError Toml.Reader.message

end SettingsFile

end Numbering
