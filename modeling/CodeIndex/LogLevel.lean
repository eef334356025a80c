import CodeIndex.Failure
import CodeIndex.Text.LetterCase
import CodeIndex.Text.Trim

namespace CodeIndex

/-- How serious a log line has to be to be shown. -/
inductive LogLevel where
  | debug
  | info
  | warning
  | error
  | critical
  deriving DecidableEq, Repr

namespace LogLevel

/-- The name of a level in capitals. -/
def name : LogLevel → String
  | .debug => "DEBUG"
  | .info => "INFO"
  | .warning => "WARNING"
  | .error => "ERROR"
  | .critical => "CRITICAL"

/-- The number of a level. -/
def number : LogLevel → Nat
  | .debug => 10
  | .info => 20
  | .warning => 30
  | .error => 40
  | .critical => 50

/-- All levels in ascending order. -/
def all : List LogLevel := [.debug, .info, .warning, .error, .critical]

/-- Reads the name of a level. Letter case and blanks around the name do not count. -/
def ofText (text : String) : Except Failure LogLevel :=
  let wanted := upperText (String.ofList (trimBlanks text.toList))
  match all.find? fun level => level.name = wanted with
  | some level => .ok level
  | none => .error (.unknownLevel text)

/-- The logger that all others are below. -/
def rootLogger : String := "symscope"

/-- The full name of a logger. Names that do not start at the root logger are put below it. -/
def loggerName (names : List String) : String :=
  let name := ".".intercalate names
  if name = rootLogger || (rootLogger ++ ".").toList.isPrefixOf name.toList then name
  else rootLogger ++ "." ++ name

end LogLevel

end CodeIndex
