import QueryLint.Engine.Selection
import QueryLint.Registry
import QueryLint.Severity

/-! Engines: the settings under which rules run, and the errors met so far. -/
namespace QueryLint

structure Engine where
  maxWorkers : Value := .int 4
  threshold : Severity := .info
  ruleConfig : Value := .object []
  enabled : Selection := {}
  disabled : Selection := {}
  errors : List String := []

namespace Engine

/-- The engine of some settings. What counts as absent stands for no settings. -/
def ofConfig [Nesting] (config : Value) : Except Fault Engine := do
  let settings := config.orEmpty
  let maxWorkers ← settings.field "max_workers" (.int 4)
  let threshold ← Severity.ofValue (← settings.field "severity_threshold" (.text "info"))
  let ruleConfig ← settings.field "rules" (.object [])
  let enabled ← Selection.ofValue (← ruleConfig.field "enabled" (.list []))
  let disabled ← Selection.ofValue (← ruleConfig.field "disabled" (.list []))
  return { maxWorkers, threshold, ruleConfig, enabled, disabled }

/-- A rule runs unless it is disabled, if it is enabled here or on by default. -/
def runs (engine : Engine) (registry : Registry) (id : String) : Bool :=
  !engine.disabled.contains id && (engine.enabled.contains id || registry.isEnabled id)

theorem runs_congr {engine : Engine} {registry later : Registry}
    (rules : later.rules = registry.rules) (off : later.off = registry.off) :
    engine.runs later = engine.runs registry := by
  have ids : later.ids = registry.ids := by rw [Registry.ids, rules, Registry.ids]
  funext id
  simp only [runs, Registry.isEnabled, ids, off]

def rules [Nesting] (engine : Engine) (registry : Registry) :
    Except Fault (List RuleInstance × Registry) := do
  let (instances, registry) ← registry.getAll engine.ruleConfig
  return (instances.filter fun self => engine.runs registry self.id, registry)

end Engine

end QueryLint
