import FormIntake.Log.Record
import FormIntake.Text.Case
import FormIntake.Text.Split

/-! # Thresholds

Each level has a weight, and a record is written when its weight reaches the threshold of its logger.
Loggers have dotted names; the loggers of the database and of the settings reader, with all below
them, never go under the weight of a warning.
-/

namespace FormIntake.Log

open Installation Text

/-- How much a level weighs. -/
def weight : LogLevel → Nat
  | .debug => 10
  | .info => 20
  | .warning => 30
  | .error => 40
  | .critical => 50

/-- The weights that have names. -/
def namedWeights : List (String × Nat) :=
  [("NOTSET", 0), ("DEBUG", 10), ("INFO", 20), ("WARN", 30), ("WARNING", 30), ("ERROR", 40),
    ("CRITICAL", 50), ("FATAL", 50)]

/-- The weight of a name in any case. -/
def weight? (name : String) : Option Nat :=
  namedWeights.lookup (String.ofList (upper name.toList))

/-- The loggers that are kept quiet. -/
def noisyLoggers : List String := ["sqlalchemy", "sqlalchemy.engine", "sqlalchemy.pool", "dynaconf"]

/-- Whether a logger is another one or below it. -/
def isWithin (ancestor logger : String) : Bool :=
  (splitOn '.' ancestor.toList).isPrefixOf (splitOn '.' logger.toList)

def isNoisy (logger : String) : Bool := noisyLoggers.any fun name => isWithin name logger

/-- The threshold of a logger, for a threshold of all others. -/
def thresholdFor (threshold : Nat) (logger : String) : Nat :=
  if isNoisy logger then max threshold (weight .warning) else threshold

/-- Whether a logger writes records of a level. -/
def admits (threshold : Nat) (logger : String) (level : LogLevel) : Bool :=
  thresholdFor threshold logger ≤ weight level

end FormIntake.Log
