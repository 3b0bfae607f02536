/-!
# Log records

What an operation reports about its course: a severity and a message. Which records are shown, and
how, is up to the library that prints them.
-/

namespace Numbering

/-- How much a log record matters. -/
inductive Severity where
  | debug
  | info
  | warn
deriving DecidableEq

/-- The name of a severity. -/
def Severity.name : Severity → String
  | .debug => "DEBUG"
  | .info => "INFO"
  | .warn => "WARN"

/-- A message with its severity. -/
structure LogRecord where
  severity : Severity
  message : String
deriving DecidableEq

/-- A library that prints log records: what it shows of a record under a filter, which may be
nothing. -/
class Logger where
  shown (filter : String) : LogRecord → String

namespace Logger

/-- The filter that applies when the environment sets none. -/
def standardFilter : String := "warn"

/-- What is shown of some records, one after the other. -/
def shownAll [Logger] (filter : String) (records : List LogRecord) : String :=
  String.join (records.map (shown filter))

end Logger

end Numbering
