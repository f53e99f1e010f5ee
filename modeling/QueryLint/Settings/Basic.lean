import QueryLint.Engine.Selection
import QueryLint.Limits

/-! Settings of a scan, as they are read from a settings file. -/
namespace QueryLint

structure RuleSettings where
  enabled : Value := .list []
  disabled : Value := .list []
  severityOverrides : Value := .object []

/-- The rules section; one that is no object is kept as it is. -/
inductive RuleSection where
  | rules (settings : RuleSettings)
  | raw (value : Value)

structure Settings where
  maxWorkers : Value := .int 4
  severityThreshold : Value := .text "info"
  rules : RuleSection := .rules {}
  logLevel : Value := .text "WARNING"

namespace RuleSettings

def ofFields (fields : Fields) : RuleSettings where
  enabled := (fields.get? "enabled").getD (.list [])
  disabled := (fields.get? "disabled").getD (.list [])
  severityOverrides := (fields.get? "severity_overrides").getD (.object [])

def toValue (settings : RuleSettings) : Value := .object [
  ("enabled", settings.enabled),
  ("disabled", settings.disabled),
  ("severity_overrides", settings.severityOverrides)]

end RuleSettings

namespace RuleSection

def ofValue? : Option Value → RuleSection
  | none => rules {}
  | some (.object fields) => rules (.ofFields fields)
  | some value => raw value

def toValue : RuleSection → Value
  | rules settings => settings.toValue
  | raw value => value

end RuleSection

def addItem (fields : Fields) (index : Nat) (item : Value) : Except Fault Fields :=
  match item.parts? with
  | none => .error .unsuitableValue
  | some [key, value] =>
    match key.key? with
    | none => .error .unsuitableValue
    | some key => .ok (fields.set key value)
  | some parts => .error (.notAPair index parts.length)

def addItems (fields : Fields) (index : Nat) : List Value → Except Fault Fields
  | [] => .ok fields
  | item :: items => do addItems (← addItem fields index item) (index + 1) items

/-- The fields of an object, or of a list of pairs, of which later ones win. -/
def Value.toFields (value : Value) : Except Fault Fields :=
  match value with
  | .object fields => .ok fields
  | _ =>
    match value.parts? with
    | some items => addItems [] 0 items
    | none => .error .unsuitableValue

namespace Settings

/-- Moves the fields of the scan section up, where they win. -/
def flatten (fields : Fields) : Fields :=
  match fields.get? "scan" with
  | some (.object inner) => (fields.erase "scan").setAll inner
  | _ => fields

def ofFields (fields : Fields) : Settings where
  maxWorkers := (fields.get? "max_workers").getD (.int 4)
  severityThreshold := (fields.get? "severity_threshold").getD (.text "info")
  rules := .ofValue? (fields.get? "rules")
  logLevel := (fields.get? "log_level").getD (.text "WARNING")

/-- The settings in a value; unknown fields do not matter. -/
def ofValue (value : Value) : Except Fault Settings :=
  value.toFields.map fun fields => ofFields (flatten fields)

def toValue (settings : Settings) : Value := .object [
  ("max_workers", settings.maxWorkers),
  ("severity_threshold", settings.severityThreshold),
  ("rules", settings.rules.toValue),
  ("log_level", settings.logLevel)]

def write [Nesting] (settings : Settings) : Except Fault Value :=
  if settings.toValue.levels ≤ Nesting.half then .ok settings.toValue
  else .error (.tooDeep .copying)

/-- The fields from which an engine is made; they need a rules section that is an object. -/
def engineFields (settings : Settings) : Except Fault Fields :=
  match settings.rules with
  | .rules rules => .ok [
      ("max_workers", settings.maxWorkers),
      ("severity_threshold", settings.severityThreshold),
      ("rules", rules.toValue)]
  | .raw value => .error (.missingMember value "enabled")

end Settings

end QueryLint
