import Numbering.CommandLine.Basic
import Numbering.Decimal.Literal
import Numbering.Settings
import Numbering.Text.Quoted

/-!
# Options of the numbering command

The command line consists of options, some with a value, and one file at the end. An option that
is given twice counts as given last, and a value is taken as it stands, even when it looks like an
option.
-/

namespace Numbering

/-- The options of a command line, and its file. -/
structure Options where
  dryRun : Bool
  textFromInput : Bool
  prompt : Bool
  settings : PartialSettings
  pattern : Option String
  config : Option String
  override : Option String
  file : String

namespace Options

/-- The insertion points when no pattern is given: the start of every line. -/
def standardPattern : String := "(?m)^"

/-- The explanation of the command line. -/
def usage : String :=
  "Usage: insertnum [options] <file|->\n\n" ++
  "Replaces every match of a pattern with the next value of a number sequence.\n" ++
  "By default a number is inserted at the start of each line.\n\n" ++
  "Options:\n" ++
  "  --format <fmt>      printf-style template (default %d)\n" ++
  "  --start <n>         first value (default 0)\n" ++
  "  --step <n>          increment (default 1)\n" ++
  "  --pattern <regex>   insertion points (default " ++ standardPattern ++ ")\n" ++
  "  --config <path>     TOML settings file (or $INSERTNUM_CONFIG)\n" ++
  "  --override <text>   second pass with `format` or `format:start:step`\n" ++
  "  --prompt            read the override from one line of stdin\n" ++
  "  --dry-run           print the result instead of writing <file>\n" ++
  "  --stdin             read text from stdin (<file> must be '-') and print the result\n\n"

/-- No option is given. -/
def unset : Options := ⟨false, false, false, .unset, none, none, none, ""⟩

/-- The run for an option without its value. -/
def missingValue (flag : String) : RunOutcome :=
  (RunOutcome.failed 2 (flag ++ " requires a value")).afterErrors usage

/-- Take the value of an option as a number. -/
def numberOf (flag value : String) : Except RunOutcome Binary64 :=
  match Literal.readOption? value.toList with
  | some number => .ok number
  | none => .error (.failed 2 (flag ++ " must be a number (got " ++ Text.quoted value ++ ")"))

/-- The argument looks like an option: it starts with a hyphen and goes on after it. -/
def isFlag (argument : String) : Bool :=
  match argument.toList with
  | '-' :: _ :: _ => true
  | _ => false

/-- The options after one more flag without a value. -/
def setFlag? (options : Options) : String → Option Options
  | "--dry-run" => some { options with dryRun := true }
  | "--stdin" => some { options with textFromInput := true }
  | "--prompt" => some { options with prompt := true }
  | _ => none

/-- The options that take a value. -/
def takesValue (flag : String) : Bool :=
  flag = "--format" || flag = "--start" || flag = "--step" || flag = "--pattern" ||
    flag = "--config" || flag = "--override"

/-- The options after one more flag with its value. -/
def setValue (options : Options) (flag value : String) : Except RunOutcome Options :=
  let settings := options.settings
  match flag with
  | "--format" => .ok { options with settings := { settings with format := some value } }
  | "--start" =>
      (numberOf flag value).map fun number ↦
        { options with settings := { settings with start := some number } }
  | "--step" =>
      (numberOf flag value).map fun number ↦
        { options with settings := { settings with step := some number } }
  | "--pattern" => .ok { options with pattern := some value }
  | "--config" => .ok { options with config := some value }
  | _ => .ok { options with override := some value }

/-- Read the rest of a command line, given the options so far. -/
def parseFrom (options : Options) : List String → Except RunOutcome Options
  | [] => .error (.plain 2 "" usage)
  | argument :: rest =>
      match options.setFlag? argument with
      | some options => parseFrom options rest
      | none =>
          if takesValue argument then
            match rest with
            | [] => .error (missingValue argument)
            | value :: rest =>
                match options.setValue argument value with
                | .ok options => parseFrom options rest
                | .error outcome => .error outcome
          else if argument = "--help" ∨ argument = "-h" then .error (.plain 0 "" usage)
          else if isFlag argument then
            .error (.plain 2 "" ("error: unknown flag " ++ argument ++ "\n" ++ usage))
          else if rest.isEmpty then .ok { options with file := argument }
          else .error (.plain 2 "" usage)

/-- Options that exclude each other. -/
def conflict? (options : Options) : Option String :=
  if options.textFromInput ∧ options.file ≠ "-" then
    some ("with --stdin, file must be '-' (got '" ++ options.file ++ "')")
  else if options.textFromInput ∧ options.prompt then
    some "--prompt cannot be combined with --stdin (stdin carries the text)"
  else if options.prompt ∧ options.override.isSome then
    some "--prompt and --override are mutually exclusive"
  else none

/-- Read a command line. The error is the run that a faulty command line makes. -/
def parse (arguments : List String) : Except RunOutcome Options :=
  match parseFrom unset arguments with
  | .error outcome => .error outcome
  | .ok options =>
      match options.conflict? with
      | some message => .error (.failed 2 message)
      | none => .ok options

end Options

end Numbering
