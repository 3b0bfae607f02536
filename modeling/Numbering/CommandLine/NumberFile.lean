import Numbering.CommandLine.Libraries
import Numbering.CommandLine.Options
import Numbering.NumberingPass

/-!
# The numbering command

The command numbers the insertion points of a text: that of a file, which is replaced, or that of
the standard input, which is printed. A run has two halves. The first one reads everything and
makes the pass by the settings; the second one makes the pass by the override, which may be a line
that the user is asked for in between, and writes the result. What is logged on the way is printed
with the errors as it comes.
-/

namespace Numbering.NumberFile

variable [Libraries]

/-- The settings of a settings file. -/
def loadSettings (surroundings : Surroundings) (path : String) :
    Except RunOutcome PartialSettings :=
  let refused (error : FileError) : Except RunOutcome PartialSettings :=
    .error (.failed 2 ("failed to read " ++ path ++ ": " ++ error.message))
  match surroundings.read path with
  | .error error => refused error
  | .ok bytes =>
      match String.fromUTF8? bytes with
      | none => refused .invalidUtf8
      | some source =>
          match SettingsFile.read source with
          | .ok settings => .ok settings
          | .error message => .error (.failed 2 ("invalid config: " ++ message))

/-- The settings in effect: what the options say, then what the settings file says, and the
standard settings for the rest. -/
def settingsOf (options : Options) (surroundings : Surroundings) : Except RunOutcome Settings :=
  let loaded : Except RunOutcome PartialSettings :=
    match options.config.orElse fun _ ↦ surroundings.configPath with
    | some path => loadSettings surroundings path
    | none => .ok .unset
  loaded.map fun settings ↦ options.settings.orElse settings.toSettings

/-- The finder of the insertion points. -/
def finderOf (options : Options) : Except RunOutcome Finder :=
  match Finder.Compiler.compile (options.pattern.getD Options.standardPattern) with
  | .ok finder => .ok finder
  | .error message => .error (.failed 2 ("invalid pattern: " ++ message))

/-- The text of a file. Files with a zero byte are taken for binary ones. -/
def readFile (surroundings : Surroundings) (path : String) : Except RunOutcome String :=
  match surroundings.read path with
  | .error error => .error (.failed 1 ("failed to read " ++ path ++ ": " ++ error.message))
  | .ok bytes =>
      if bytes.data.contains 0 then .error (.failed 1 "binary file rejected (NUL byte found)")
      else
        match String.fromUTF8? bytes with
        | some text => .ok text
        | none => .error (.failed 1 "non-UTF8 file rejected")

/-- The text to number. -/
def textOf (options : Options) (surroundings : Surroundings) : Except RunOutcome String :=
  if options.textFromInput then
    match String.fromUTF8? surroundings.input with
    | some text => .ok text
    | none => .error (.failed 1 ("failed to read stdin: " ++ FileError.invalidUtf8.message))
  else readFile surroundings options.file

/-- The first half of a run: the outcome of the pass by the settings. -/
def firstPass (options : Options) (surroundings : Surroundings) :
    Except RunOutcome (PassOutcome Unit) := do
  let settings ← settingsOf options surroundings
  let finder ← finderOf options
  let text ← textOf options surroundings
  let pass := settings.insert .empty (MarkedText.ofMatches text finder)
  match pass.result with
  | .ok () => .ok pass
  | .error error =>
      .error ((RunOutcome.failed 2 error.message).afterErrors (surroundings.shown pass.log))

/-- The run that cannot replace its file. -/
def writeFailure (path : String) (error : FileError) : RunOutcome :=
  .failed 1 ("failed to write " ++ path ++ ": " ++ error.message)

/-- Write the result: print it, or leave it to replace the file and print what was inserted. -/
def finish (options : Options) (text : MarkedText) : RunOutcome :=
  if options.textFromInput ∨ options.dryRun then .plain 0 text.text ""
  else
    { code := 0, output := String.join (text.marks.map (· ++ "\n")), errors := "",
      replaced := some (options.file, text.text) }

/-- The second half of a run: the pass by the override, if there is one, and the result. A refused
override leaves the first pass as it is. -/
def secondPass (options : Options) (surroundings : Surroundings) (override : Option String)
    (first : PassOutcome Unit) : RunOutcome :=
  let pass := Override.insert override first.cache first.text
  let outcome : RunOutcome :=
    match pass.result with
    | .ok _ => finish options pass.text
    | .error (.override error) =>
        (finish options pass.text).afterErrors
          ("warning: " ++ error.message ++ "; keeping the default sequence\n")
    | .error error => .failed 2 error.message
  outcome.afterErrors (surroundings.shown pass.log)

/-- What the user is asked. -/
def promptText : String := "Input format or format:start:step (default: %d:0:1): "

/-- The first line of an input, without its line break; nothing when there is no line, or when it
is not text. -/
def lineOf (input : ByteArray) : Option String :=
  let bytes := input.data.toList
  if bytes.isEmpty then none
  else
    let line := bytes.takeWhile (· ≠ 10)
    let isComplete := decide (line.length < bytes.length)
    (String.fromUTF8? ⟨line.toArray⟩).map fun text ↦
      let chars := text.toList
      if isComplete && chars.getLast? = some '\r' then String.ofList chars.dropLast else text

/-- A run of the command, up to the replacing of its file. -/
def run (arguments : List String) (surroundings : Surroundings) : RunOutcome :=
  match Options.parse arguments with
  | .error outcome => outcome
  | .ok options =>
      match firstPass options surroundings with
      | .error outcome => outcome
      | .ok first =>
          let outcome : RunOutcome :=
            if options.prompt then
              (secondPass options surroundings (lineOf surroundings.input) first).afterErrors
                promptText
            else secondPass options surroundings options.override first
          outcome.afterErrors (surroundings.shown first.log)

/-- Carry out what a run leaves to do: replace its file. A run whose file cannot be replaced ends
with the reason. -/
def carryOut {m : Type → Type} [Monad m] {Handle : Type} (operations : FileOperations m Handle)
    (process : Nat) (outcome : RunOutcome) : m RunOutcome :=
  match outcome.replaced with
  | none => pure outcome
  | some (path, content) => do
      match ← operations.replace process path content.toUTF8 with
      | .ok () => pure outcome
      | .error error => pure ((writeFailure path error).afterErrors outcome.errors)

/-- A run of the command among the files of a tree, and the tree afterwards. -/
def runAmong (faults : FileFaults) (process : Nat) (arguments : List String) (tree : FileTree)
    (input : ByteArray) (environment : Environment) : RunOutcome × FileTree :=
  let outcome := run arguments (.among faults tree input environment)
  (carryOut (FileTree.operations faults) process outcome).run tree

end Numbering.NumberFile
