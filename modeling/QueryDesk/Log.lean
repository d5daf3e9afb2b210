/-!
# Log records

A record of something that happened, for the log. The cause that the world
outside gave for it, if any, is kept apart from the text.
-/

namespace QueryDesk.Log

/-- How grave a record is. -/
inductive Level where
  | debug
  | info
  | warning
  | error
  | critical
  deriving DecidableEq, Repr

namespace Level

/-- The name of a level in a record. -/
def name : Level → String
  | debug => "DEBUG"
  | info => "INFO"
  | warning => "WARNING"
  | error => "ERROR"
  | critical => "CRITICAL"

/-- The rank of a level; a graver one is higher. -/
def rank : Level → Nat
  | debug => 10
  | info => 20
  | warning => 30
  | error => 40
  | critical => 50

end Level

/-- The names that a threshold can be set by. The last one sets none. -/
def thresholds : List (String × Option Level) := [
  ("CRITICAL", some .critical), ("FATAL", some .critical), ("ERROR", some .error),
  ("WARN", some .warning), ("WARNING", some .warning), ("INFO", some .info),
  ("DEBUG", some .debug), ("NOTSET", none)]

/-- Whether a level passes a threshold. Where none is set, warnings pass. -/
def passes (threshold : Option Level) (l : Level) : Bool :=
  decide ((threshold.getD .warning).rank ≤ l.rank)

/-- A record. -/
structure Record where
  level : Level
  /-- The part of the program that reports. -/
  source : String
  text : String
  /-- The text of an error of the world outside, which ends the message. -/
  cause : Option String := none
  deriving DecidableEq, Repr

/-- The whole message of a record. -/
def Record.message (r : Record) : String := r.text ++ r.cause.getD ""

/-- The line that a record makes in a log, at a time. -/
def Record.line (time : String) (r : Record) : String :=
  time ++ " " ++ r.level.name ++ " " ++ r.source ++ ": " ++ r.message ++ "\n"

end QueryDesk.Log
