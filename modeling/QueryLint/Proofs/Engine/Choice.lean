import QueryLint.Engine.Basic
import QueryLint.Proofs.Registry.Renewal
import Mathlib.Data.List.Induction
import Mathlib.Data.List.Nodup

/-! Which rules an engine runs. The ids of a registry stand in the order of their first
registration, each once. An engine leaves out those that its settings disable, and takes of the
others those that its settings enable or that are on by default. -/
namespace QueryLint

namespace Value

def text? : Value → Option String
  | text s => some s
  | _ => none

/-- What settings say about rules. -/
def ruleSettings (config : Value) : Value :=
  (config.orEmpty.field "rules" (.object [])).toOption.getD .null

/-- The ids that settings list under a key of what they say about rules. -/
def ruleIds (config : Value) (key : String) : List String :=
  match config.ruleSettings.field key (.list []) with
  | .ok value => (value.parts?.getD []).filterMap text?
  | .error _ => []

theorem text?_eq_some {value : Value} {s : String} : value.text? = some s ↔ value = .text s := by
  cases value <;> simp [text?]

theorem key?_eq_text {value : Value} {s : String} :
    value.key? = some (.text s) ↔ value = .text s := by
  cases value <;> simp [key?]

end Value

namespace Selection

variable {selection later : Selection} {id : String}

theorem contains_iff : selection.contains id ↔ Key.text id ∈ selection.items := by
  simp [contains]

theorem contains_insert {item : Value} (inserted : selection.insert item = .ok later) :
    later.contains id ↔ selection.contains id ∨ item = .text id := by
  rw [insert] at inserted
  rw [contains_iff, contains_iff, ← Value.key?_eq_text]
  cases known : item.key? with
  | none => simp [known] at inserted
  | some key =>
    simp only [known] at inserted
    split at inserted
    · rename_i present
      obtain rfl := Except.ok.inj inserted
      refine ⟨.inl, ?_⟩
      rintro (inside | same)
      · exact inside
      · obtain rfl := Option.some.inj same
        obtain ⟨other, inside, same⟩ := List.any_eq_true.mp present
        exact Key.text_same_iff.mp same ▸ inside
    · obtain rfl := Except.ok.inj inserted
      simp [eq_comm]

theorem contains_foldlM {parts : List Value} (chosen : parts.foldlM insert selection = .ok later) :
    later.contains id ↔ selection.contains id ∨ .text id ∈ parts := by
  induction parts generalizing selection with
  | nil =>
    obtain rfl := Except.ok.inj chosen
    simp
  | cons item parts ih =>
    simp only [List.foldlM_cons, bind, Except.bind] at chosen
    split at chosen
    · contradiction
    · rename_i middle inserted
      rw [ih chosen, contains_insert inserted, or_assoc, List.mem_cons]
      simp only [eq_comm]

/-- A selection holds the texts among its items. -/
theorem contains_ofValue {value : Value} (chosen : ofValue value = .ok selection) :
    selection.contains id ↔ id ∈ (value.parts?.getD []).filterMap Value.text? := by
  rw [ofValue] at chosen
  split at chosen
  · rename_i parts shape
    rw [contains_foldlM chosen, contains_iff]
    simp [shape, Value.text?_eq_some]
  · contradiction

end Selection

namespace Registry

variable {rule : Rule} {rules : List Rule} {id : String}

/-- The registry after some registrations. -/
def enrolled (rules : List Rule) : Registry := rules.foldl register {}

/-- Registered at least once, and always as on by default. -/
def onByDefault (rules : List Rule) (id : String) : Bool :=
  rules.any (·.metadata.id = id) &&
    rules.all fun rule => rule.metadata.id ≠ id || rule.metadata.enabledByDefault

theorem enrolled_concat (rules : List Rule) (rule : Rule) :
    enrolled (rules ++ [rule]) = (enrolled rules).register rule :=
  List.foldl_concat ..

theorem ids_place (rule : Rule) (rules : List Rule) :
    (place rule rules).map (·.metadata.id) =
      if rule.metadata.id ∈ rules.map (·.metadata.id) then rules.map (·.metadata.id)
      else rules.map (·.metadata.id) ++ [rule.metadata.id] := by
  induction rules with
  | nil => rfl
  | cons head tail ih =>
    rw [place]
    by_cases replaced : head.metadata.id = rule.metadata.id
    · simp [replaced]
    · rw [if_neg replaced, List.map_cons, ih]
      by_cases later : rule.metadata.id ∈ tail.map (·.metadata.id)
      · simp [later]
      · simp [later, Ne.symm replaced]

/-- An id keeps the place of its first registration. -/
theorem ids_register (registry : Registry) (rule : Rule) :
    (registry.register rule).ids =
      if rule.metadata.id ∈ registry.ids then registry.ids
      else registry.ids ++ [rule.metadata.id] :=
  ids_place rule registry.rules

theorem ids_enrolled (rules : List Rule) :
    (enrolled rules).ids = (rules.map (·.metadata.id)).eraseDups := by
  induction rules using List.reverseRecOn with
  | nil => rfl
  | append_singleton rules rule ih =>
    rw [enrolled_concat, ids_register, ih, List.map_append, List.eraseDups_append]
    by_cases known : rule.metadata.id ∈ rules.map (·.metadata.id)
    · simp [List.mem_eraseDups, known, List.cons_removeAll]
    · simp [List.mem_eraseDups, known, List.cons_removeAll, List.eraseDups_cons]

theorem nodup_enrolled (rules : List Rule) : (enrolled rules).ids.Nodup := by
  induction rules using List.reverseRecOn with
  | nil => exact List.nodup_nil
  | append_singleton rules rule ih =>
    rw [enrolled_concat, ids_register]
    split
    · exact ih
    · rename_i new
      refine List.nodup_append.mpr ⟨ih, List.nodup_singleton _, fun id inside other here same => ?_⟩
      exact new (by rwa [← List.mem_singleton.mp here, ← same])

theorem after_register (rules : List Rule) (registry : Registry) :
    after (rules.map .register) registry = rules.foldl register registry := by
  induction rules generalizing registry with
  | nil => rfl
  | cons rule rules ih => exact ih (registry.register rule)

theorem registered_register (rules : List Rule) : registered (rules.map .register) = rules := by
  induction rules with
  | nil => rfl
  | cons rule rules ih => exact congrArg (rule :: ·) ih

theorem onByDefault_iff : onByDefault rules id ↔ (∃ rule ∈ rules, rule.metadata.id = id) ∧
    ∀ rule ∈ rules, rule.metadata.id = id → rule.metadata.enabledByDefault := by
  simp [onByDefault, Decidable.imp_iff_not_or]

theorem isEnabled_enrolled (rules : List Rule) (id : String) :
    (enrolled rules).isEnabled id = onByDefault rules id := by
  have off := mem_off_after (rules.map .register) {} id
  rw [after_register, registered_register] at off
  have known : id ∈ (enrolled rules).ids ↔ ∃ rule ∈ rules, rule.metadata.id = id := by
    rw [ids_enrolled, List.mem_eraseDups, List.mem_map]
  have always : id ∉ (enrolled rules).off ↔
      ∀ rule ∈ rules, rule.metadata.id = id → rule.metadata.enabledByDefault := by
    rw [enrolled, off]
    simp
  rw [Bool.eq_iff_iff, onByDefault_iff, ← known, ← always]
  simp [isEnabled]

/-- The rules and what is on by default go by the registrations alone. -/
structure Enrols (registry : Registry) (registrations : List Rule) : Prop where
  rules : registry.rules = (enrolled registrations).rules
  off : registry.off = (enrolled registrations).off

section Enrols

variable {registry later : Registry}

theorem Enrols.ids (enrols : registry.Enrols rules) :
    registry.ids = (rules.map (·.metadata.id)).eraseDups := by
  rw [← ids_enrolled, Registry.ids, enrols.rules, Registry.ids]

theorem Enrols.isEnabled (enrols : registry.Enrols rules) :
    registry.isEnabled = onByDefault rules := by
  funext id
  rw [← isEnabled_enrolled, Registry.isEnabled, Registry.isEnabled, enrols.ids, enrols.off, ids_enrolled]

theorem Enrols.nodup (enrols : registry.Enrols rules) : registry.ids.Nodup := by
  rw [enrols.ids, ← ids_enrolled]
  exact nodup_enrolled rules

theorem Enrols.register (enrols : registry.Enrols rules) :
    (registry.register rule).Enrols (rules ++ [rule]) := by
  constructor
  · rw [enrolled_concat, Registry.register, Registry.register, enrols.rules]
  · rw [enrolled_concat, Registry.register, Registry.register, enrols.off]

theorem Enrols.perform (enrols : registry.Enrols rules) (request : Request) :
    (registry.perform request).2.Enrols (rules ++ registered [request]) := by
  rcases perform_cases registry request with
    ⟨rule, rfl, done⟩ | ⟨idle, fault, failed⟩ | ⟨idle, config, found, later, _, supplies, done⟩
  · rw [done]
    exact enrols.register
  · rw [failed, idle, List.append_nil]
    exact enrols
  · rw [done, idle, List.append_nil]
    exact ⟨supplies.extends.rules.trans enrols.rules, supplies.extends.off.trans enrols.off⟩

end Enrols

section Enlist

variable {standing : String → Option RuleInstance} {ids : List String}

theorem enlist_free (standing : String → Option RuleInstance) (ids : List String) :
    enlist standing none ids = .ok (ids.filterMap standing) := by
  induction ids with
  | nil => rfl
  | cons id ids ih =>
    cases stands : standing id with
    | none => simp [enlist, stands, ih]
    | some self => simp [enlist, stands, ih, Except.map]

theorem enlist_hindered (known : ∃ id ∈ ids, (standing id).isSome) (fault : Fault) :
    enlist standing (some fault) ids = .error fault := by
  induction ids with
  | nil => simp at known
  | cons id ids ih =>
    cases stands : standing id with
    | none =>
      simp only [enlist, stands]
      exact ih (by simpa [stands] using known)
    | some self => simp [enlist, stands]

theorem standing_id {registry : Registry} {config : Value} {self : RuleInstance}
    (stands : registry.standing config id = some self) : self.id = id := by
  obtain ⟨rule, known, rfl⟩ := Option.map_eq_some_iff.mp stands
  rw [RuleInstance.unnumbered_id]
  cases kept : registry.instance? id config with
  | none => exact rule?_id known
  | some self => exact (instance?_some kept).1

theorem standing_isSome {registry : Registry} (config : Value) (known : id ∈ registry.ids) :
    (registry.standing config id).isSome := by
  rw [standing, Option.isSome_map]
  exact mem_ids.mp known

/-- All ids of a registry stand for instances that go by them. -/
theorem ids_standing (registry : Registry) (config : Value) :
    (registry.ids.filterMap (registry.standing config)).map RuleInstance.id = registry.ids := by
  rw [List.map_filterMap]
  refine (List.filterMap_congr fun id known => ?_).trans List.filterMap_some
  obtain ⟨self, stands⟩ := Option.isSome_iff_exists.mp (standing_isSome config known)
  rw [stands, Option.map_some, standing_id stands]

end Enlist

section All

variable [Nesting] {registry : Registry} {config : Value}

theorem getAll_hindered {fault : Fault} (hindered : config.hindrance? .showing = some fault)
    (some : registry.ids ≠ []) : registry.getAll config = .error fault := by
  obtain ⟨id, others, shape⟩ := List.exists_cons_of_ne_nil some
  have known : ∃ id ∈ registry.ids, (registry.standing config id).isSome :=
    ⟨id, by simp [shape], standing_isSome config (by simp [shape])⟩
  have each := getEach_enlist config registry.ids registry
  rw [hindered, enlist_hindered known] at each
  rw [getAll]
  cases got : registry.getEach config registry.ids with
  | error fault =>
    rw [got] at each
    rw [Except.error.inj each]
  | ok found =>
    rw [got] at each
    exact absurd each.1 (by simp)

/-- The instances of all rules go by all ids. -/
theorem getAll_ids (possible : config.hindrance? .showing = none ∨ registry.ids = []) :
    ∃ found later, registry.getAll config = .ok (found, later) ∧
      found.map RuleInstance.id = registry.ids ∧
      later.rules = registry.rules ∧ later.off = registry.off := by
  have listed : enlist (registry.standing config) (config.hindrance? .showing) registry.ids =
      .ok (registry.ids.filterMap (registry.standing config)) := by
    rcases possible with free | empty
    · rw [free, enlist_free]
    · rw [empty]
      rfl
  have each := getEach_enlist config registry.ids registry
  rw [listed] at each
  rw [getAll]
  cases got : registry.getEach config registry.ids with
  | error fault =>
    rw [got] at each
    contradiction
  | ok result =>
    obtain ⟨found, later⟩ := result
    rw [got] at each
    obtain ⟨same, _, rules, off⟩ := each
    refine ⟨found, later, rfl, ?_, rules, off⟩
    rw [← registry.ids_standing config, Except.ok.inj same, List.map_map]
    rfl

end All

end Registry

theorem exists_of_bind_ok {α β : Type} {read : Except Fault α} {next : α → Except Fault β}
    {result : β} (finished : (read >>= next) = .ok result) :
    ∃ value, read = .ok value ∧ next value = .ok result := by
  cases read with
  | error fault => contradiction
  | ok value => exact ⟨value, rfl, finished⟩

namespace Engine

variable {config : Value} {engine : Engine} {registry : Registry}

/-- An engine has the settings that it is given. -/
theorem ofConfig_settings [Nesting] (accepted : ofConfig config = .ok engine) :
    engine.ruleConfig = config.ruleSettings ∧
    (∀ id, engine.enabled.contains id ↔ id ∈ config.ruleIds "enabled") ∧
    (∀ id, engine.disabled.contains id ↔ id ∈ config.ruleIds "disabled") := by
  obtain ⟨workers, _, accepted⟩ := exists_of_bind_ok accepted
  obtain ⟨name, _, accepted⟩ := exists_of_bind_ok accepted
  obtain ⟨threshold, _, accepted⟩ := exists_of_bind_ok accepted
  obtain ⟨rules, given, accepted⟩ := exists_of_bind_ok accepted
  obtain ⟨enabled, enables, accepted⟩ := exists_of_bind_ok accepted
  obtain ⟨on, chosen, accepted⟩ := exists_of_bind_ok accepted
  obtain ⟨disabled, disables, accepted⟩ := exists_of_bind_ok accepted
  obtain ⟨off, chosen', accepted⟩ := exists_of_bind_ok accepted
  obtain rfl := Except.ok.inj accepted
  have settings : config.ruleSettings = rules := by
    rw [Value.ruleSettings, given]
    rfl
  refine ⟨settings.symm, fun id => ?_, fun id => ?_⟩
  · rw [Selection.contains_ofValue chosen, Value.ruleIds, settings, enables]
  · rw [Selection.contains_ofValue chosen', Value.ruleIds, settings, disables]

/-- The rules of an engine are those that it runs, in the order of the registry. -/
theorem rules_ids [Nesting] (engine : Engine) (registry : Registry) :
    (¬ engine.ruleConfig.Fits → registry.ids ≠ [] →
      ∃ fault, engine.ruleConfig.Hinders .showing fault ∧
        engine.rules registry = .error fault) ∧
    (engine.ruleConfig.Fits ∨ registry.ids = [] → ∃ found later,
      engine.rules registry = .ok (found, later) ∧
      found.map RuleInstance.id = registry.ids.filter (engine.runs registry)) := by
  refine ⟨fun unfit some => ?_, fun possible => ?_⟩
  · obtain ⟨fault, hinders, hindered⟩ := Value.exists_hindrance? unfit .showing
    have refused := Registry.getAll_hindered hindered some
    exact ⟨fault, hinders, by simp [rules, refused, bind, Except.bind]⟩
  · rw [← @Value.hindrance?_eq_none_iff .showing] at possible
    obtain ⟨found, later, got, ids, same, off⟩ := Registry.getAll_ids possible
    refine ⟨_, later, by simp only [rules, got, bind, Except.bind]; rfl, ?_⟩
    rw [← ids, List.filter_map, runs_congr same off]
    rfl

end Engine

end QueryLint
