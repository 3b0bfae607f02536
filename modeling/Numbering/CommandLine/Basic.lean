import Numbering.CommandLine.Replacement
import Numbering.Log

/-!
# Runs of a command

What a command is given besides its arguments, and what a run of it leaves behind.
-/

namespace Numbering

/-- What the environment of a run sets: the path of a settings file, and a filter for the log. -/
structure Environment where
  configPath : Option String
  logFilter : Option String

/-- Nothing is set. -/
def Environment.unset : Environment := ⟨none, none⟩

/-- What is shown of some log records. -/
def Environment.shown [Logger] (environment : Environment) (records : List LogRecord) : String :=
  Logger.shownAll (environment.logFilter.getD Logger.standardFilter) records

/-- The surroundings of a run: its environment, files that can be read, and the bytes of the
standard input. -/
structure Surroundings extends Environment where
  read : String → Except FileError ByteArray
  input : ByteArray

/-- A file tree around a run, of which the operating system may refuse to read some files. -/
def Surroundings.among (faults : FileFaults) (tree : FileTree) (input : ByteArray)
    (environment : Environment) : Surroundings :=
  { environment with read := tree.readUnder faults, input }

/-- The end of a run: the exit code, what was printed on both channels, and the path and the new
text of the one file that was replaced. -/
structure RunOutcome where
  code : Nat
  output : String
  errors : String
  replaced : Option (String × String)
deriving DecidableEq

namespace RunOutcome

/-- A run that replaces no file. -/
def plain (code : Nat) (output errors : String) : RunOutcome := ⟨code, output, errors, none⟩

/-- A run that ends with an error message. -/
def failed (code : Nat) (message : String) : RunOutcome :=
  plain code "" ("error: " ++ message ++ "\n")

/-- The same run with a text printed in front of the errors. -/
def afterErrors (shown : String) (outcome : RunOutcome) : RunOutcome :=
  { outcome with errors := shown ++ outcome.errors }

end RunOutcome

end Numbering
