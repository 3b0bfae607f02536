import Numbering.Numeral.Reading
import Numbering.Settings
import Numbering.Text.Quoted

/-!
# One-line overrides

A user may replace the settings of a numbering by one line `format` or `format:start:step`. The
line has to contain a percent sign; numbers are read leniently, and what follows a third colon is
ignored.
-/

namespace Numbering

/-- Why a line is no override. -/
inductive OverrideError where
  | noPercentSign (input : String)
deriving DecidableEq

/-- The message of an error. -/
def OverrideError.message : OverrideError → String
  | .noPercentSign input =>
      "wrong format string " ++ Text.quoted input ++
        ": expected `format` or `format:start:step` with a % directive"

namespace Override

/-- The fields of a text between colons. -/
def fields : List Char → List (List Char)
  | [] => [[]]
  | char :: chars =>
      if char = ':' then [] :: fields chars
      else
        match fields chars with
        | [] => [[char]]
        | first :: rest => (char :: first) :: rest

/-- The number of a field: a decimal when the field contains a point, and an integer otherwise. -/
def readField (field : List Char) : Binary64 :=
  if field.contains '.' then Numeral.readDecimal field else Numeral.readIntegerOrHex field

/-- The settings that the fields of a line stand for. -/
def settingsOf (fields : List (List Char)) : Settings :=
  { format := String.ofList (fields.headD [])
    start := (fields[1]?.map readField).getD Settings.standard.start
    step := (fields[2]?.map readField).getD Settings.standard.step }

/-- Read a line. An empty one stands for no override at all. -/
def parse (input : String) : Except OverrideError (Option Settings) :=
  if input.isEmpty then .ok none
  else if input.toList.contains '%' then .ok (some (settingsOf (fields input.toList)))
  else .error (.noPercentSign input)

end Override

end Numbering
