/-! # Log records

A record has a level, the name of the logger that wrote it, and a message; it is shown on one
line. -/

namespace LookupEnums

inductive LogLevel
  | debug
  | info
  | warning
  | error
  deriving DecidableEq, Repr

namespace LogLevel

def text : LogLevel → String
  | debug => "DEBUG"
  | info => "INFO"
  | warning => "WARNING"
  | error => "ERROR"

def rank : LogLevel → Nat
  | debug => 0
  | info => 1
  | warning => 2
  | error => 3

def all : List LogLevel := [debug, info, warning, error]

def ofText? (s : String) : Option LogLevel :=
  all.find? (·.text = s)

end LogLevel

structure LogRecord where
  level : LogLevel
  logger : String
  message : String
  deriving DecidableEq, Repr

namespace LogRecord

def line (r : LogRecord) : String :=
  s!"{r.level.text} {r.logger}: {r.message}"

def isShownAt (threshold : LogLevel) (r : LogRecord) : Bool :=
  threshold.rank ≤ r.level.rank

end LogRecord

end LookupEnums
