import QueryLint.Proofs.Engine.Choice
import QueryLint.Session

/-! What scans leave alone. They make instances, read annotations and add errors; the rules that
are registered and the settings of the engine stay as they are. -/
namespace QueryLint

/-- The engine without the errors it has met. -/
def Engine.settings (engine : Engine) : Engine := { engine with errors := [] }

namespace Session

/-- What the work of an engine leaves alone: the rules, those that are off by default, and its
settings. -/
structure Frames (session later : Session) : Prop where
  rules : later.registry.rules = session.registry.rules
  off : later.registry.off = session.registry.off
  engine : later.engine.settings = session.engine.settings

variable {session middle later : Session}

theorem Frames.refl (session : Session) : session.Frames session := ⟨rfl, rfl, rfl⟩

theorem Frames.trans (first : session.Frames middle) (second : middle.Frames later) :
    session.Frames later where
  rules := second.rules.trans first.rules
  off := second.off.trans first.off
  engine := second.engine.trans first.engine

theorem frames_addErrors (session : Session) (errors : List String) :
    session.Frames (session.addErrors errors) :=
  ⟨rfl, rfl, rfl⟩

theorem frames_rules [Nesting] {found : List RuleInstance}
    (got : session.rules = .ok (found, later)) :
    session.Frames later := by
  obtain ⟨⟨instances, registry⟩, chosen, same⟩ := exists_of_bind_ok got
  obtain ⟨⟨all, registry'⟩, listed, same'⟩ := exists_of_bind_ok chosen
  obtain ⟨rfl, rfl⟩ := Prod.mk.inj (Except.ok.inj same)
  obtain ⟨rfl, rfl⟩ := Prod.mk.inj (Except.ok.inj same')
  have supplied := (Registry.supplies_getEach listed).extends
  exact ⟨supplied.rules, supplied.off, rfl⟩

theorem frames_scan [Nesting] (session : Session) (index : Nat) :
    session.Frames (session.scan index).2.2 := by
  rw [scan]
  split
  · exact .refl session
  · split
    · exact .refl session
    · rename_i got
      exact (frames_rules got).trans ⟨rfl, rfl, rfl⟩

theorem frames_scanEach [Nesting] (indexes : List Nat) (session : Session) (batch : Batch) :
    session.Frames (session.scanEach batch indexes).2.2 := by
  induction indexes generalizing session batch with
  | nil => exact .refl session
  | cons index rest ih =>
    have here := session.frames_scan index
    exact here.trans ((frames_addErrors _ _).trans (ih _ _))

theorem frames_scanAll [Nesting] (session : Session) (indexes : List Nat) :
    session.Frames (session.scanAll indexes).2.2 := by
  rw [scanAll]
  split
  · exact .refl session
  · exact session.frames_scanEach indexes {}

end Session

end QueryLint
