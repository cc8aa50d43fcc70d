import Passpoint.Text.Upper

/-!
Lines of a log.
-/

namespace Passpoint.Log

inductive Level where
  | debug
  | warning
  | error
  deriving DecidableEq, Repr

def Level.name : Level → String
  | .debug => "DEBUG"
  | .warning => "WARNING"
  | .error => "ERROR"

structure Line where
  level : Level
  message : String
  deriving DecidableEq, Repr

def Line.shown (l : Line) : String := s!"{l.level.name}: {l.message}"

/-- The weights that a log can be cut off at. -/
def thresholds : List (String × Nat) :=
  [("CRITICAL", 50), ("FATAL", 50), ("ERROR", 40), ("WARNING", 30), ("WARN", 30), ("INFO", 20),
   ("DEBUG", 10), ("NOTSET", 0)]

/-- A name in capital letters. -/
def upperName (name : String) : String := String.ofList (Text.upper name.toList)

/-- The threshold with a name in any case. -/
def threshold? (name : String) : Option Nat := thresholds.lookup (upperName name)

end Passpoint.Log
