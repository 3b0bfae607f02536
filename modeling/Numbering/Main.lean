import Numbering.CommandLine.FormatLine
import Numbering.CommandLine.NumberFile
import Numbering.CommandLine.StandardLibraries

/-!
# The program

The outer layer of both commands. The first argument names the command, `insertnum` or `sprintf`;
the layer reads the files and the input that the command asks for, and prints and writes what its
run leaves behind. It is here that the libraries are chosen.
-/

namespace Numbering.Main

/-- The reason why a file operation failed. -/
def fileErrorOf : IO.Error → FileError
  | .noFileOrDirectory .. => .notFound
  | .inappropriateType .. => .isDirectory
  | .illegalOperation .. => .isDirectory
  | .alreadyExists .. => .alreadyExists
  | error => .refused (toString error)

/-- The answer of a file operation, or the reason why it failed. -/
def attempt (operation : IO α) : IO (Except FileError α) := do
  try
    let answer ← operation
    return .ok answer
  catch error => return .error (fileErrorOf error)

/-- The operations on the files of the operating system. -/
def operations : FileOperations IO IO.FS.Handle where
  create path := attempt (IO.FS.Handle.mk path .writeNew)
  fill handle content := attempt do
    handle.write content
    handle.flush
  rename source target := attempt (IO.FS.rename source target)
  remove path := attempt (IO.FS.removeFile path)

/-- Everything that is left on the standard input, in front of which some bytes were read. -/
partial def readAll (stream : IO.FS.Stream) (before : ByteArray) : IO ByteArray := do
  let bytes ← stream.read 4096
  if bytes.isEmpty then return before else readAll stream (before ++ bytes)

/-- Print what a run leaves behind, after replacing its file. A random number stands for that of the
process. -/
def conclude (outcome : RunOutcome) : IO UInt32 := do
  let process ← IO.rand 10000 99999
  let outcome ← NumberFile.carryOut operations process outcome
  IO.print outcome.output
  IO.eprint outcome.errors
  return outcome.code.toUInt32

/-- The environment of a run. -/
def environment : IO Environment := do
  return ⟨← IO.getEnv "INSERTNUM_CONFIG", ← IO.getEnv "RUST_LOG"⟩

/-- The surroundings of a run with the given options. -/
def surroundingsOf (options : Options) : IO Surroundings := do
  let environment ← environment
  let input ← if options.textFromInput then readAll (← IO.getStdin) .empty else pure .empty
  let config? := options.config.orElse fun _ ↦ environment.configPath
  let config ← match config? with
    | some path => attempt (IO.FS.readBinFile path)
    | none => pure (.error .notFound)
  let file ←
    if options.textFromInput then pure (.error .notFound)
    else attempt (IO.FS.readBinFile options.file)
  let read (path : String) : Except FileError ByteArray :=
    if config? = some path then config else file
  return { environment with read, input }

/-- Run the numbering command. The user is asked for an override after the first pass only, and
after what is logged of it. -/
def numberFile [Libraries] (arguments : List String) : IO UInt32 := do
  match Options.parse arguments with
  | .error outcome => conclude outcome
  | .ok options =>
      let surroundings ← surroundingsOf options
      match NumberFile.firstPass options surroundings with
      | .error outcome => conclude outcome
      | .ok first =>
          IO.eprint (surroundings.shown first.log)
          if options.prompt then
            IO.eprint NumberFile.promptText
            let line ← (← IO.getStdin).getLine
            conclude
              (NumberFile.secondPass options surroundings (NumberFile.lineOf line.toUTF8) first)
          else conclude (NumberFile.secondPass options surroundings options.override first)

/-- Run the formatting command. -/
def formatLine [Libraries] (arguments : List String) : IO UInt32 := do
  conclude (FormatLine.run arguments (← environment))

/-- Run the command that the first argument names. -/
def run [Libraries] (arguments : List String) : IO UInt32 := do
  match arguments with
  | "insertnum" :: rest => numberFile rest
  | "sprintf" :: rest => formatLine rest
  | _ =>
      IO.eprint (Options.usage ++ FormatLine.usage)
      return 2

end Numbering.Main

/-- The program, with the standard libraries. -/
def main (arguments : List String) : IO UInt32 :=
  letI := Numbering.Libraries.standard
  Numbering.Main.run arguments
