import StorageLayout.Config.Display
import StorageLayout.Failure
import StorageLayout.Log.Context

namespace StorageLayout

/-- Levels of log records; any integer is one. -/
abbrev Level := Int

namespace Level

def debug : Level := 10

def info : Level := 20

def warning : Level := 30

def error : Level := 40

def critical : Level := 50

/-- The name of a level; one without a name of its own is shown by its number. -/
def name (level : Level) : String :=
  if level = debug then "DEBUG"
  else if level = info then "INFO"
  else if level = warning then "WARNING"
  else if level = error then "ERROR"
  else if level = critical then "CRITICAL"
  else if level = 0 then "NOTSET"
  else "Level " ++ toString (level : Int)

end Level

def rootLogger : String := "root"

/-- The name of the logger that a text names; the logger without a name is the root. -/
def namedLogger (text : String) : String := if text = "" then rootLogger else text

/-- The name of a logger with a side in front of it, if there is one. A name has to be a text,
unless a side makes it part of one. -/
def loggerName (name side : Value) : Except Failure String :=
  if side.truthy then .ok (side.plain ++ "." ++ name.plain)
  else if !name.truthy then .ok rootLogger
  else
    match name with
    | .text text => .ok text
    | _ => .error .loggerNotText

/-- A log record: what was logged, by whom, and in which context. A summary reports how many records
were suppressed and is never suppressed itself. -/
structure LogRecord where
  level : Level
  logger : String
  message : String
  context : LogContext
  failure : Option Failure := none
  withStack : Bool := false
  isSummary : Bool := false

end StorageLayout
