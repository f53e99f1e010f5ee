import QueryLint.Rule.Basic

/-! Rules that give every token the same answer, for trying out an engine. -/
namespace QueryLint.Rule

def quiet (metadata : RuleMetadata) : Rule where
  metadata
  applies := metadata.admits
  judge _ _ _ := { violation := .ok none }

def failing (metadata : RuleMetadata) (message : String) : Rule :=
  { quiet metadata with judge := fun _ _ _ => { violation := .error (.ruleFailed message) } }

/-- Fails already when asked whether it applies. -/
def undecided (metadata : RuleMetadata) (message : String) : Rule :=
  { quiet metadata with applies := fun _ => .error (.ruleFailed message) }

end QueryLint.Rule
