import Numbering.CommandLine.Basic
import Numbering.CommandLine.Libraries
import Numbering.Template.Cache

/-!
# The formatting command

The command renders a template against its other arguments and prints the result on a line. The
arguments are strings, or JSON documents when an option says so.
-/

namespace Numbering.FormatLine

/-- The explanation of the command line. -/
def usage : String :=
  "Usage: sprintf [--json] <format> [args...]\n\n" ++
  "Renders <format> against the arguments and prints the result.\n" ++
  "Arguments are strings; with --json each argument is parsed as a JSON value\n" ++
  "(so '%(user.name)s' can reach into '\x7b\"user\":\x7b\"name\":\"ada\"\x7d\x7d').\n"

/-- A command line: whether arguments are JSON documents, the template, and the arguments. -/
structure Request where
  json : Bool
  format : String
  arguments : List String

/-- Read a command line. Options end at the first argument that is none, or after `--`. -/
def parse (json : Bool) : List String → Except RunOutcome Request
  | [] => .error (.plain 2 "" usage)
  | argument :: rest =>
      if argument = "--json" then parse true rest
      else if argument = "--help" ∨ argument = "-h" then .error (.plain 0 "" usage)
      else if argument = "--" then
        match rest with
        | [] => .error (.plain 2 "" usage)
        | format :: arguments => .ok ⟨json, format, arguments⟩
      else .ok ⟨json, argument, rest⟩

variable [Libraries]

/-- The value of an argument. -/
def valueOf (json : Bool) (argument : String) : Except RunOutcome Value :=
  if json then
    match Json.Parser.read argument with
    | .ok value => .ok value
    | .error message =>
        .error (.failed 2 ("argument " ++ Text.quoted argument ++ " is not valid JSON: " ++
          message))
  else .ok (.string argument)

/-- The values of some arguments, or what the first faulty one leads to. -/
def valuesOf (json : Bool) : List String → Except RunOutcome (List Value)
  | [] => .ok []
  | argument :: rest =>
      match valueOf json argument with
      | .error outcome => .error outcome
      | .ok value => (valuesOf json rest).map (value :: ·)

/-- A run of the command. -/
def run (arguments : List String) (environment : Environment) : RunOutcome :=
  match parse false arguments with
  | .error outcome => outcome
  | .ok request =>
      match valuesOf request.json request.arguments with
      | .error outcome => outcome
      | .ok values =>
          let step := TemplateCache.empty.format request.format values
          let outcome : RunOutcome :=
            match step.result with
            | .ok text => .plain 0 (text ++ "\n") ""
            | .error error => .failed 2 error.message
          outcome.afterErrors (environment.shown step.log)

end Numbering.FormatLine
