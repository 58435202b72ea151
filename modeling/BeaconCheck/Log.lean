import BeaconCheck.Text.Basic

/-!
# The log

Records with a level, in the order in which they were made.
-/

namespace BeaconCheck

/-- How much a record matters. -/
inductive LogLevel where
  | debug
  | info
  | warning
  | error
deriving DecidableEq, Repr, Inhabited

namespace LogLevel

def name : LogLevel → String
  | .debug => "DEBUG"
  | .info => "INFO"
  | .warning => "WARNING"
  | .error => "ERROR"

/-- The place of a level in their order. -/
def rank : LogLevel → Nat
  | .debug => 0
  | .info => 1
  | .warning => 2
  | .error => 3

/-- The level with a name. -/
def ofName? (name : String) : Option LogLevel :=
  [debug, info, warning, error].find? fun level => level.name == name

end LogLevel

/-- A record of the log. -/
structure LogRecord where
  level : LogLevel
  message : Text
deriving DecidableEq, Repr, Inhabited

/-- The records at a level and above. -/
def LogRecord.atLeast (level : LogLevel) (records : List LogRecord) : List LogRecord :=
  records.filter fun r => level.rank ≤ r.level.rank

end BeaconCheck
