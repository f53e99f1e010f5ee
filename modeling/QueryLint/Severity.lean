import QueryLint.Limits

/-! How bad and how certain a finding is, and of what category. -/
namespace QueryLint

inductive Severity where
  | info
  | low
  | medium
  | high
  | critical
deriving DecidableEq, Repr

namespace Severity

def rank : Severity → Nat
  | info => 0
  | low => 1
  | medium => 2
  | high => 3
  | critical => 4

instance : LE Severity := ⟨fun a b => a.rank ≤ b.rank⟩
instance : LT Severity := ⟨fun a b => a.rank < b.rank⟩
instance (a b : Severity) : Decidable (a ≤ b) := inferInstanceAs (Decidable (a.rank ≤ b.rank))
instance (a b : Severity) : Decidable (a < b) := inferInstanceAs (Decidable (a.rank < b.rank))

def name : Severity → String
  | info => "info"
  | low => "low"
  | medium => "medium"
  | high => "high"
  | critical => "critical"

def all : List Severity := [info, low, medium, high, critical]

def table : List (String × Severity) := all.map fun severity => (severity.name, severity)

def ofName (name : String) : Except Fault Severity := Choice.severity.named table name

def ofValue [Nesting] (value : Value) : Except Fault Severity := Choice.severity.pick table value

def ascending (values : List Severity) : List Severity := values.mergeSort fun a b => a ≤ b

def maximum? (values : List Severity) : Option Severity := (ascending values).getLast?

def minimum? (values : List Severity) : Option Severity := (ascending values).head?

end Severity

inductive Confidence where
  | high
  | medium
  | low
deriving DecidableEq, Repr

namespace Confidence

def name : Confidence → String
  | high => "high"
  | medium => "medium"
  | low => "low"

def ofValue [Nesting] (value : Value) : Except Fault Confidence :=
  Choice.confidence.pick ([high, medium, low].map fun c => (c.name, c)) value

end Confidence

inductive Category where
  | injection
deriving DecidableEq, Repr

namespace Category

def name : Category → String
  | injection => "injection"

def ofValue [Nesting] (value : Value) : Except Fault Category :=
  Choice.category.pick [(injection.name, injection)] value

end Category

end QueryLint
