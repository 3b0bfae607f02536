import Numbering.CommandLine.Libraries
import Numbering.Json.Reading
import Numbering.Json.Writing
import Numbering.Pattern.Parsing
import Numbering.Proofs.Pattern.Matches
import Numbering.Toml.Document

/-!
# Standard libraries

The libraries that the program is built with.
-/

namespace Numbering

/-- The finder that a pattern is. -/
def Pattern.finder (pattern : Pattern) : Finder where
  find chars := pattern.findAll chars.toArray
  inOrder chars := pattern.inOrder_findAll chars.toArray

/-- A filter is a severity, and the records that matter at least as much are shown. -/
def Severity.isShown (filter : String) : Severity → Bool
  | .warn => filter ∈ ["warn", "info", "debug", "trace"]
  | .info => filter ∈ ["info", "debug", "trace"]
  | .debug => filter ∈ ["debug", "trace"]

/-- The line of a log record. -/
def LogRecord.line (record : LogRecord) : String :=
  "[" ++ record.severity.name ++ "] " ++ record.message ++ "\n"

/-- The libraries that the program is built with. -/
@[reducible]
def Libraries.standard : Libraries where
  toWriter := .shortest
  read source := (Json.read source).mapError Json.ReadError.message
  readDocument source := (Toml.readDocument source).mapError Toml.ReadError.message
  message := Toml.ReadError.message
  compile source :=
    match Pattern.parse source with
    | .ok pattern => .ok pattern.finder
    | .error error => .error error.message
  shown filter record := if record.severity.isShown filter then record.line else ""

end Numbering
