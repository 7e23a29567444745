/-
MachineSpec.Log — records of what happened.

A record has a level, a source and a text. A log keeps the records whose level
is at least its threshold, in the order in which they were made.
-/

namespace MachineSpec

/-- How urgent a record is. -/
inductive LogLevel where
  | debug
  | info
  | warning
  | error
deriving DecidableEq, Repr

/-- The place of a level among the levels, the least urgent first. -/
def LogLevel.rank : LogLevel → Nat
  | .debug => 0
  | .info => 1
  | .warning => 2
  | .error => 3

/-- A level as records show it. -/
def LogLevel.text : LogLevel → String
  | .debug => "DEBUG"
  | .info => "INFO"
  | .warning => "WARNING"
  | .error => "ERROR"

/-- The part of the library that makes a record. -/
inductive LogSource where
  /-- The check of declarations. -/
  | check
  /-- The generation of dispatch tables. -/
  | generation
  /-- The compiler of machine classes. -/
  | compiler
  /-- The trace of running machines. -/
  | trace
deriving DecidableEq, Repr

/-- A source as records show it. -/
def LogSource.text : LogSource → String
  | .check => "fsmc.core.validation"
  | .generation => "fsmc.core.generator"
  | .compiler => "fsmc.compiler"
  | .trace => "fsmc.core.trace"

/-- A record. -/
structure LogRecord where
  level : LogLevel
  source : LogSource
  message : String
deriving DecidableEq, Repr

/-- A record on one line. -/
def LogRecord.line (entry : LogRecord) : String :=
  entry.level.text ++ " " ++ entry.source.text ++ ": " ++ entry.message

/-- The records kept so far, and the lowest level that is kept. -/
structure Log where
  threshold : LogLevel
  records : List LogRecord
deriving DecidableEq, Repr

namespace Log

/-- The log that has kept nothing yet and keeps warnings and errors. -/
def quiet : Log := ⟨.warning, []⟩

/-- Whether records of this level are kept. -/
def keeps (log : Log) (level : LogLevel) : Bool := log.threshold.rank ≤ level.rank

/-- The log after one more record. -/
def add (log : Log) (entry : LogRecord) : Log :=
  if log.keeps entry.level then { log with records := log.records ++ [entry] } else log

/-- The log after several more records. -/
def addAll (log : Log) (entries : List LogRecord) : Log := entries.foldl add log

/-- The lines of the records kept. -/
def lines (log : Log) : List String := log.records.map LogRecord.line

end Log

/-- The warning that goes with a remark on a declaration. -/
def LogRecord.warning (remark : String) : LogRecord := ⟨.warning, .check, remark⟩

end MachineSpec
