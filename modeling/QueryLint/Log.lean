import QueryLint.Fault
import QueryLint.Text.Case

/-! Log entries, and the set-up of the log. -/
namespace QueryLint

inductive LogLevel where
  | debug
  | info
  | warning
  | error
  | critical
deriving DecidableEq, Repr

namespace LogLevel

def number : LogLevel → Nat
  | debug => 10
  | info => 20
  | warning => 30
  | error => 40
  | critical => 50

def name : LogLevel → String
  | debug => "DEBUG"
  | info => "INFO"
  | warning => "WARNING"
  | error => "ERROR"
  | critical => "CRITICAL"

end LogLevel

inductive LogSource where
  | annotations
  | statements
  | injection
  | engine
deriving DecidableEq, Repr

structure LogEntry where
  level : LogLevel
  source : LogSource
  message : String
deriving DecidableEq, Repr

structure LogSetup where
  level : Nat := 0
  outputs : Nat := 0
deriving DecidableEq, Repr

namespace LogSetup

def levels : List (String × Nat) :=
  [("CRITICAL", 50), ("FATAL", 50), ("ERROR", 40), ("WARNING", 30), ("WARN", 30), ("INFO", 20),
    ("DEBUG", 10), ("NOTSET", 0)]

/-- Sets the level by name, in any case, and adds an output if there is none. An unknown name
changes nothing. -/
def configure (setup : LogSetup) (level : Value) : Except Fault LogSetup :=
  match level with
  | .text name =>
    match levels.lookup (Text.upper name) with
    | some number => .ok ⟨number, max setup.outputs 1⟩
    | none => .error (.unknownLogLevel (Text.upper name))
  | value => .error (.missingMember value "upper")

end LogSetup

end QueryLint
