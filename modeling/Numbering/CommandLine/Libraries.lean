import Numbering.Finder
import Numbering.Log
import Numbering.SettingsFile
import Numbering.Value.Json

/-!
# Libraries

The libraries that the commands are built on. What a command does with their answers is fixed here,
and what the answers are is not: a run is a run with any libraries.
-/

namespace Numbering

/-- A library that reads a JSON document as a value, or gives the message of an error. -/
class Json.Parser where
  read : String → Except String Value

/-- The libraries of a command: for the numbers of JSON documents, JSON documents, settings files,
patterns and log records. -/
class Libraries extends Json.Writer, Json.Parser, Toml.Reader, Finder.Compiler, Logger

end Numbering
