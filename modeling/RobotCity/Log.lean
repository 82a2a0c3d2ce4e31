/-!
# Logs

A log is a list of records.  Each record has a level, and a log that is written at a level leaves
out the records below it.
-/

namespace RobotCity

/-- How much a record matters. -/
inductive LogLevel where
  | debug
  | info
  | warning
  | error
  deriving DecidableEq, Repr

namespace LogLevel

/-- The levels by their names. -/
def names : List (String × LogLevel) :=
  [("DEBUG", .debug), ("INFO", .info), ("WARNING", .warning), ("ERROR", .error)]

/-- The name of a level. -/
def name : LogLevel → String
  | .debug => "DEBUG"
  | .info => "INFO"
  | .warning => "WARNING"
  | .error => "ERROR"

/-- The place of a level among all levels. -/
def rank : LogLevel → Nat
  | .debug => 0
  | .info => 1
  | .warning => 2
  | .error => 3

end LogLevel

/-- Who writes a record. -/
inductive LogSource where
  | loader
  | validator
  deriving DecidableEq, Repr

/-- The name of a source in the log. -/
def LogSource.name : LogSource → String
  | .loader => "robotscript.loader"
  | .validator => "robotscript.validator"

/-- A record of a log. -/
structure LogRecord where
  /-- How much it matters. -/
  level : LogLevel
  /-- Who writes it. -/
  source : LogSource
  message : String
  deriving DecidableEq, Repr

/-- A record as it is written. -/
def LogRecord.line (record : LogRecord) : String :=
  s!"{record.level.name} [{record.source.name}] {record.message}"

end RobotCity
