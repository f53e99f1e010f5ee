import QueryLint.Proofs.Engine.Choice
import QueryLint.Proofs.Parallel.Machine
import QueryLint.Proofs.Registry.Caching
import QueryLint.Proofs.Session.Frame

/-! Engines that share a registry. Each makes instances there and reads annotations of documents
that the others read too, and adds errors to its own. Nothing of this changes which rules are
registered, which of them are on, or the settings of any engine. So the rules of an engine follow
from the registrations and its own settings, whatever the others do. -/
namespace QueryLint

namespace Parallel

theorem frames_work [Nesting] (session : Session) (index : Nat) (progress : Progress) :
    session.Frames (work session index progress).2 := by
  fun_cases work session index progress <;> exact ⟨rfl, rfl, rfl⟩

theorem frames_advance [Nesting] (state : State) (turn : Turn) :
    state.session.Frames (advance state turn).session := by
  cases turn with
  | work place =>
    simp only [advance]
    split
    · exact .refl _
    · exact frames_work ..
  | collect place =>
    simp only [advance]
    split
    · exact Session.frames_addErrors ..
    · exact .refl _

/-- Scans side by side leave alone what one turn leaves alone. -/
theorem frames_execute [Nesting] (turns : List Turn) (state : State) :
    state.session.Frames (execute turns state).session := by
  induction turns generalizing state with
  | nil => exact .refl _
  | cons turn turns ih => exact (frames_advance state turn).trans (ih _)

end Parallel

/-- What an engine is asked to do. Scans of a batch that run side by side take their turns in any
order. -/
inductive Call where
  | rules
  | scan (index : Nat)
  | scanAll (indexes : List Nat) (turns : List Parallel.Turn)

/-- The session after a call. -/
def Session.answer [Nesting] (session : Session) : Call → Session
  | .rules =>
    match session.rules with
    | .ok (_, later) => later
    | .error _ => session
  | .scan index => (session.scan index).2.2
  | .scanAll indexes turns =>
    if 1 < indexes.length ∧ session.engine.maxWorkers.exceedsOne? = some true then
      (Parallel.execute turns (Parallel.initial session indexes)).session
    else (session.scanAll indexes).2.2

theorem Session.frames_answer [Nesting] (session : Session) (call : Call) :
    session.Frames (session.answer call) := by
  cases call with
  | rules =>
    rw [answer]
    split
    · rename_i got
      exact frames_rules got
    · exact .refl session
  | scan index => exact session.frames_scan index
  | scanAll indexes turns =>
    rw [answer]
    split
    · exact Parallel.frames_execute turns (Parallel.initial session indexes)
    · exact session.frames_scanAll indexes

/-- Engines that share a registry and a set of documents. -/
structure Workshop where
  registry : Registry := {}
  documents : Array Document := #[]
  engines : List Engine := []

/-- The registry is asked by anyone; an engine is made, or is asked for what it does. There is as
much room for going through settings as there is at the time. -/
inductive Action where
  | ask (request : Registry.Request)
  | construct [Nesting] (config : Value)
  | call [Nesting] (place : Nat) (call : Call)

namespace Action

def registrations : Action → List Rule
  | ask request => Registry.registered [request]
  | @construct _ _ => []
  | @call _ _ _ => []

/-- The settings of a new engine, and the engine. Settings that are refused make none. -/
def constructed : Action → List (Value × Engine)
  | ask _ => []
  | @construct _ config => ((Engine.ofConfig config).toOption.map (config, ·)).toList
  | @call _ _ _ => []

end Action

namespace Workshop

def session (workshop : Workshop) (engine : Engine) : Session :=
  ⟨engine, workshop.registry, workshop.documents⟩

def act (workshop : Workshop) : Action → Workshop
  | .ask request => { workshop with registry := (workshop.registry.perform request).2 }
  | @Action.construct _ config =>
    match Engine.ofConfig config with
    | .ok engine => { workshop with engines := workshop.engines ++ [engine] }
    | .error _ => workshop
  | @Action.call _ place call =>
    match workshop.engines[place]? with
    | none => workshop
    | some engine =>
      let later := (workshop.session engine).answer call
      ⟨later.registry, later.documents, workshop.engines.set place later.engine⟩

def run (workshop : Workshop) (actions : List Action) : Workshop := actions.foldl act workshop

/-- The registry goes by the registrations, and each engine has the settings it was made with. -/
structure Mirrors (workshop : Workshop) (rules : List Rule) (made : List (Value × Engine)) :
    Prop where
  registry : workshop.registry.Enrols rules
  engines : workshop.engines.map Engine.settings = made.map fun pair => pair.2.settings

variable {workshop : Workshop} {rules : List Rule} {made : List (Value × Engine)}

theorem Mirrors.call [Nesting] (mirrors : workshop.Mirrors rules made) (place : Nat) (call : Call) :
    (workshop.act (.call place call)).Mirrors rules made := by
  rw [act]
  split
  · exact mirrors
  · rename_i engine here
    have frames := (workshop.session engine).frames_answer call
    refine ⟨⟨frames.rules.trans mirrors.registry.rules, frames.off.trans mirrors.registry.off⟩, ?_⟩
    rw [← mirrors.engines, List.map_set, frames.engine]
    refine List.ext_getElem? fun i => ?_
    rw [List.getElem?_set]
    split
    · rename_i same
      subst same
      obtain ⟨bound, _⟩ := List.getElem?_eq_some_iff.mp here
      rw [if_pos (by simpa using bound), List.getElem?_map, here]
      rfl
    · rfl

theorem Mirrors.act (mirrors : workshop.Mirrors rules made) (action : Action) :
    (workshop.act action).Mirrors (rules ++ action.registrations) (made ++ action.constructed) := by
  cases action with
  | ask request =>
    refine ⟨mirrors.registry.perform request, ?_⟩
    rw [Action.constructed, List.append_nil]
    exact mirrors.engines
  | construct config =>
    rw [Action.registrations, List.append_nil, Action.constructed, Workshop.act]
    split
    · rename_i engine accepted
      refine ⟨mirrors.registry, ?_⟩
      rw [accepted, List.map_append, List.map_append, mirrors.engines]
      rfl
    · rename_i fault refused
      rw [refused]
      exact ⟨mirrors.registry, mirrors.engines.trans (by simp [Except.toOption])⟩
  | call place call =>
    rw [Action.registrations, Action.constructed, List.append_nil, List.append_nil]
    exact mirrors.call place call

theorem mirrors_run (documents : Array Document) (actions : List Action) :
    (run { documents } actions).Mirrors (actions.flatMap Action.registrations)
      (actions.flatMap Action.constructed) := by
  induction actions using List.reverseRecOn with
  | nil => exact ⟨⟨rfl, rfl⟩, rfl⟩
  | append_singleton actions action ih =>
    rw [run, List.foldl_concat, List.flatMap_append, List.flatMap_append, List.flatMap_singleton,
      List.flatMap_singleton]
    exact ih.act action

theorem accepted_of_constructed {actions : List Action} {config : Value} {engine : Engine}
    (made : (config, engine) ∈ actions.flatMap Action.constructed) :
    ∃ _ : Nesting, Engine.ofConfig config = .ok engine := by
  obtain ⟨action, _, inside⟩ := List.mem_flatMap.mp made
  cases action with
  | @construct room given =>
    refine ⟨room, ?_⟩
    simp only [Action.constructed, Option.mem_toList, Option.map_eq_some_iff] at inside
    obtain ⟨fresh, accepted, same⟩ := inside
    obtain ⟨rfl, rfl⟩ := Prod.mk.inj same
    cases result : Engine.ofConfig given with
    | error fault => simp [result, Except.toOption] at accepted
    | ok engine => rw [result] at accepted; rw [Option.some.inj accepted]
  | ask _ => contradiction
  | call _ _ => contradiction

/-- An engine that was made is there, with its settings. -/
theorem Mirrors.exists_engine (mirrors : workshop.Mirrors rules made) {place : Nat} {config : Value}
    {fresh : Engine} (here : made[place]? = some (config, fresh)) :
    ∃ engine, workshop.engines[place]? = some engine ∧ engine.settings = fresh.settings := by
  have same := congrArg (·[place]?) mirrors.engines
  simp only [List.getElem?_map, here, Option.map_some] at same
  obtain ⟨engine, stored, settings⟩ := Option.map_eq_some_iff.mp same
  exact ⟨engine, stored, settings⟩

/-- The ids that an engine runs by its own settings. -/
def chosenIds (rules : List Rule) (config : Value) : List String :=
  (rules.map (·.metadata.id)).eraseDups.filter fun id =>
    id ∉ config.ruleIds "disabled" &&
      (id ∈ config.ruleIds "enabled" || Registry.onByDefault rules id)

theorem runs_of_settings [Nesting] {registry : Registry} {config : Value} {engine fresh : Engine}
    (enrols : registry.Enrols rules) (accepted : Engine.ofConfig config = .ok fresh)
    (same : engine.settings = fresh.settings) (id : String) :
    engine.runs registry id = (id ∉ config.ruleIds "disabled" &&
      (id ∈ config.ruleIds "enabled" || Registry.onByDefault rules id)) := by
  obtain ⟨_, enabled, disabled⟩ := Engine.ofConfig_settings accepted
  have on : engine.settings.enabled = fresh.settings.enabled := by rw [same]
  have off : engine.settings.disabled = fresh.settings.disabled := by rw [same]
  simp only [Engine.settings] at on off
  rw [Engine.runs, on, off, enrols.isEnabled, Bool.eq_iff_iff]
  simp [← enabled, ← disabled]

/-- Engines that share a registry do not influence each other. At any time the ids are those that
were registered, in the order of their first registration, and on by default as registered; no
call changes this. An engine gives the rules that its own settings choose of them, each once, and
fails only if its settings for rules cannot be written: there is an integer too long for it, or
they are nested too deep. -/
theorem rules_of_run [Nesting] (documents : Array Document) (actions : List Action) :
    let workshop := run { documents } actions
    let rules := actions.flatMap Action.registrations
    workshop.registry.ids = (rules.map (·.metadata.id)).eraseDups ∧
    workshop.registry.isEnabled = Registry.onByDefault rules ∧
    (∀ action, action.registrations = [] →
      (workshop.act action).registry.ids = workshop.registry.ids ∧
      (workshop.act action).registry.isEnabled = workshop.registry.isEnabled) ∧
    ∀ (place : Nat) (config : Value) (fresh : Engine),
      (actions.flatMap Action.constructed)[place]? = some (config, fresh) →
      ∃ engine, workshop.engines[place]? = some engine ∧
        (¬ config.ruleSettings.Fits → rules ≠ [] →
          ∃ fault, config.ruleSettings.Hinders .showing fault ∧
            engine.rules workshop.registry = .error fault) ∧
        (config.ruleSettings.Fits ∨ rules = [] → ∃ found later,
          engine.rules workshop.registry = .ok (found, later) ∧
          found.map RuleInstance.id = chosenIds rules config ∧
          (found.map RuleInstance.id).Nodup) := by
  intro workshop rules
  have mirrors : workshop.Mirrors rules _ := mirrors_run documents actions
  have ids := mirrors.registry.ids
  refine ⟨ids, mirrors.registry.isEnabled, fun action idle => ?_, ?_⟩
  · have later := mirrors.act action
    rw [idle, List.append_nil] at later
    exact ⟨later.registry.ids.trans ids.symm,
      later.registry.isEnabled.trans mirrors.registry.isEnabled.symm⟩
  · intro place config fresh here
    obtain ⟨engine, stored, settings⟩ := mirrors.exists_engine here
    obtain ⟨refused, listed⟩ := engine.rules_ids workshop.registry
    -- The engine may have been made with another room than its rules are asked for with.
    obtain ⟨_, accepted⟩ := accepted_of_constructed (List.mem_of_getElem? here)
    have known : engine.ruleConfig = config.ruleSettings := by
      rw [← (Engine.ofConfig_settings accepted).1]
      show engine.settings.ruleConfig = fresh.settings.ruleConfig
      rw [settings]
    have empty : workshop.registry.ids = [] ↔ rules = [] := by
      rw [ids]
      cases rules <;> simp [List.eraseDups_cons]
    rw [known, ne_eq, empty] at refused
    rw [known, empty] at listed
    refine ⟨engine, stored, refused, fun possible => ?_⟩
    obtain ⟨found, later, got, chosen⟩ := listed possible
    have distinct : (found.map RuleInstance.id).Nodup := by
      rw [chosen]
      exact mirrors.registry.nodup.filter _
    refine ⟨found, later, got, ?_, distinct⟩
    rw [chosen, ids, chosenIds]
    exact List.filter_congr fun id _ => runs_of_settings mirrors.registry accepted settings id

/-- Settings of an engine that say this about rules. -/
def settingRules (rules : Value) : Value := .object [(.text "rules", rules)]

def interpolating : Document where
  pool := #[{ token := { kind := .literalDouble, content := "SELECT $a", line := 1 } }]
  members := [0]

/-- Two engines, of which the first disables the only rule. Both have been at work. -/
def neighbours : List Action :=
  [.ask (.register .injection),
    .construct (settingRules (.object [(.text "disabled", .texts ["PreventSQLInjection"])])),
    .construct .null, .call 0 .rules, .call 1 (.scan 0)]

theorem neighbours_rules :
    let workshop := run { documents := #[interpolating] } neighbours
    ∃ muted ordinary : Engine, workshop.engines[0]? = some muted ∧
      workshop.engines[1]? = some ordinary ∧
      (∃ later, muted.rules workshop.registry = .ok ([], later)) ∧
      ∃ found later, ordinary.rules workshop.registry = .ok (found, later) ∧
        found.map RuleInstance.id = ["PreventSQLInjection"] := by
  obtain ⟨_, _, _, chosen⟩ := rules_of_run #[interpolating] neighbours
  obtain ⟨muted, first, _, rules⟩ := chosen 0 _ _ rfl
  obtain ⟨ordinary, second, _, rules'⟩ := chosen 1 _ _ rfl
  obtain ⟨found, later, got, ids, _⟩ := rules (.inl (Value.fits_of_free rfl))
  obtain ⟨found', later', got', ids', _⟩ := rules' (.inl (Value.fits_of_free rfl))
  refine ⟨muted, ordinary, first, second, ⟨later, ?_⟩, found', later', got', ids'.trans (by decide)⟩
  have none : found.map RuleInstance.id = [] := ids.trans (by decide)
  rw [got, List.map_eq_nil_iff.mp none]

/-- Settings with a value that is of no use to the only rule. -/
def burdened (value : Value) : List Action :=
  [.ask (.register .injection), .construct (settingRules (Registry.overriding "Other" value))]

theorem burdened_made (value : Value) :
    (burdened value).flatMap Action.constructed =
      [(settingRules (Registry.overriding "Other" value),
        { ruleConfig := Registry.overriding "Other" value })] :=
  rfl

theorem burdened_refused [Nesting] {value : Value}
    (unfit : ¬ (Registry.overriding "Other" value).Fits) :
    ∃ engine fault, (run {} (burdened value)).engines = [engine] ∧
      engine.rules (run {} (burdened value)).registry = .error fault := by
  have known : (run {} (burdened value)).registry.ids = ["PreventSQLInjection"] := rfl
  let engine : Engine := { ruleConfig := Registry.overriding "Other" value }
  obtain ⟨fault, _, refused⟩ :=
    (engine.rules_ids (run {} (burdened value)).registry).1 unfit (by simp [known])
  exact ⟨engine, fault, rfl, refused⟩

/-- An engine that is made does not always give its rules, however much room there is. -/
theorem overlong_rules_refused :
    ¬ ∃ _ : Nesting, ∀ (documents : Array Document) (actions : List Action) (place : Nat)
        (config : Value) (fresh : Engine), (actions.flatMap Action.constructed)[place]? = some (config, fresh) →
      ∃ engine found later, (run { documents } actions).engines[place]? = some engine ∧
        engine.rules (run { documents } actions).registry = .ok (found, later) ∧
        found.map RuleInstance.id = chosenIds (actions.flatMap Action.registrations) config := by
  rintro ⟨room, gives⟩
  have made := burdened_made (.int (Nat.pow 10 digitLimit))
  obtain ⟨only, fault, engines, refused⟩ :=
    burdened_refused (Registry.not_fits_long (Nat.le_refl (Nat.pow 10 digitLimit)))
  obtain ⟨engine, found, later, here, got, _⟩ := gives #[] _ 0 _ _ (congrArg (·[0]?) made)
  rw [engines] at here
  obtain rfl := Option.some.inj here
  rw [refused] at got
  contradiction

end Workshop

end QueryLint
