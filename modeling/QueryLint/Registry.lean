import QueryLint.Rule.Injection

/-! The rules that engines choose from. Rules are known by id; instances are made on demand
and kept for the same id and settings. -/
namespace QueryLint

/-- Rules in the order in which their ids were first registered, the ids that were ever
registered as off by default, and the instances made so far. -/
structure Registry where
  rules : List Rule := []
  off : List String := []
  instances : List RuleInstance := []

namespace Registry

/-- Puts a rule in the place of the one with its id, or at the end. -/
def place (rule : Rule) : List Rule → List Rule
  | [] => [rule]
  | head :: tail =>
    if head.metadata.id = rule.metadata.id then rule :: tail else head :: place rule tail

def register (registry : Registry) (rule : Rule) : Registry :=
  { registry with
    rules := place rule registry.rules
    off :=
      if rule.metadata.enabledByDefault then registry.off else rule.metadata.id :: registry.off }

def ids (registry : Registry) : List String := registry.rules.map (·.metadata.id)

def rule? (registry : Registry) (id : String) : Option Rule :=
  registry.rules.find? (·.metadata.id = id)

/-- Settings count as the same when they are written the same. -/
def instance? (registry : Registry) (id : String) (config : Value) : Option RuleInstance :=
  registry.instances.find? fun self => self.id = id && self.config.plain = config.plain

def provide (registry : Registry) (rule : Rule) (config : Value) : RuleInstance × Registry :=
  match registry.instance? rule.metadata.id config with
  | some self => (self, registry)
  | none =>
    let self : RuleInstance := ⟨registry.instances.length, rule, config⟩
    (self, { registry with instances := registry.instances ++ [self] })

/-- The instance for an id and settings. Settings that cannot be written are refused. -/
def get [Nesting] (registry : Registry) (id : String) (config : Value) :
    Except Fault (Option RuleInstance × Registry) :=
  match registry.rule? id with
  | none => .ok (none, registry)
  | some rule =>
    match config.hindrance? .showing with
    | some fault => .error fault
    | none =>
      let (self, registry) := registry.provide rule config
      .ok (some self, registry)

def getEach [Nesting] (registry : Registry) (config : Value) :
    List String → Except Fault (List RuleInstance × Registry)
  | [] => .ok ([], registry)
  | id :: ids => do
    let (found, registry) ← registry.get id config
    let (others, registry) ← registry.getEach config ids
    return (found.toList ++ others, registry)

def getAll [Nesting] (registry : Registry) (config : Value) :
    Except Fault (List RuleInstance × Registry) :=
  registry.getEach config registry.ids

def isEnabled (registry : Registry) (id : String) : Bool :=
  id ∈ registry.ids && id ∉ registry.off

def standard : Registry := ({} : Registry).register .injection

end Registry

end QueryLint
