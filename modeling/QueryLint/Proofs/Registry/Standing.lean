import QueryLint.Registry

/-! What an id stands for: the instance that a registry keeps for it, or a new one. Getting and
keeping instances changes which of them are kept, but not what any id stands for. -/
namespace QueryLint

namespace RuleInstance

/-- The instance without the number that tells it from others alike. -/
def unnumbered (self : RuleInstance) : RuleInstance := { self with serial := 0 }

@[simp] theorem unnumbered_id (self : RuleInstance) : self.unnumbered.id = self.id := rfl

end RuleInstance

namespace Registry

variable {registry : Registry} {config : Value} {id : String}

/-- The instance that an id stands for: the one that is kept, or a new one. -/
def standing (registry : Registry) (config : Value) (id : String) : Option RuleInstance :=
  (registry.rule? id).map fun rule =>
    ((registry.instance? id config).getD ⟨0, rule, config⟩).unnumbered

/-- Keeps an instance, in the place of one for the same id and settings. -/
def keep (registry : Registry) (made : RuleInstance) : Registry :=
  { registry with instances := made :: registry.instances }

theorem rule?_id {rule : Rule} (known : registry.rule? id = some rule) : rule.metadata.id = id := by
  simpa using List.find?_some known

theorem standing_of_kept {rule : Rule} {self : RuleInstance}
    (known : registry.rule? id = some rule) (kept : registry.instance? id config = some self) :
    registry.standing config id = some self.unnumbered := by
  simp [standing, known, kept]

theorem standing_of_new {rule : Rule} (known : registry.rule? id = some rule)
    (absent : registry.instance? id config = none) :
    registry.standing config id = some ⟨0, rule, config⟩ := by
  simp [standing, known, absent, RuleInstance.unnumbered]

/-- Instances may come and go as long as each id stands for what it did. -/
theorem standing_instances {instances : List RuleInstance}
    (same : ∀ id, registry.instance? id config ≠
        { registry with instances }.instance? id config →
      ∃ self, { registry with instances }.instance? id config = some self ∧
        registry.standing config id = some self.unnumbered) :
    { registry with instances }.standing config = registry.standing config := by
  funext id
  by_cases unchanged : registry.instance? id config =
      { registry with instances }.instance? id config
  · rw [standing, ← unchanged]
    rfl
  · obtain ⟨self, kept, stands⟩ := same id unchanged
    cases known : registry.rule? id with
    | none => simp [standing, known] at stands
    | some rule =>
      rw [stands]
      exact standing_of_kept known kept

/-- A new instance, with the next number. -/
def fresh (registry : Registry) (rule : Rule) (config : Value) : RuleInstance :=
  ⟨registry.instances.length, rule, config⟩

def add (registry : Registry) (made : RuleInstance) : Registry :=
  { registry with instances := registry.instances ++ [made] }

theorem instance?_add (registry : Registry) (made : RuleInstance) (id : String) (config : Value) :
    (registry.add made).instance? id config = (registry.instance? id config).or
      (if made.id = id ∧ made.config.plain = config.plain then some made else none) := by
  simp [instance?, add, List.find?_append, List.find?_singleton]

/-- An instance is found, or it is made and found from then on. -/
theorem provide_cases (registry : Registry) (rule : Rule) (config : Value) :
    (∃ self, registry.instance? rule.metadata.id config = some self ∧
      registry.provide rule config = (self, registry)) ∨
    (registry.instance? rule.metadata.id config = none ∧
      registry.provide rule config =
        (registry.fresh rule config, registry.add (registry.fresh rule config))) := by
  cases kept : registry.instance? rule.metadata.id config with
  | some self => exact .inl ⟨self, rfl, by simp only [provide, kept]⟩
  | none => exact .inr ⟨rfl, by simp only [provide, kept, fresh, add]⟩

theorem provide_spec {rule : Rule} (known : registry.rule? id = some rule) :
    registry.standing config id = some (registry.provide rule config).1.unnumbered ∧
    (registry.provide rule config).2.standing config = registry.standing config ∧
    (registry.provide rule config).2.rules = registry.rules ∧
    (registry.provide rule config).2.off = registry.off := by
  have same := rule?_id known
  rcases provide_cases registry rule config with ⟨self, kept, provided⟩ | ⟨absent, provided⟩
  · rw [same] at kept
    rw [provided]
    exact ⟨standing_of_kept known kept, rfl, rfl, rfl⟩
  · rw [same] at absent
    have stands := standing_of_new known absent
    have named : (registry.fresh rule config).id = id := same
    rw [provided]
    -- The new instance comes last, so a lookup that succeeded before still gives what it gave.
    refine ⟨stands, standing_instances fun other changed => ?_, rfl, rfl⟩
    have added := registry.instance?_add (registry.fresh rule config) other config
    by_cases here : other = id
    · subst here
      refine ⟨registry.fresh rule config, ?_, stands⟩
      rw [absent, Option.none_or, if_pos ⟨named, rfl⟩] at added
      exact added
    · refine absurd ?_ changed
      rw [if_neg fun key => here (key.1.symm.trans named), Option.or_none] at added
      exact added.symm

/-- The instances that some ids stand for, unless something stands in the way of the first. -/
def enlist (standing : String → Option RuleInstance) (hindrance : Option Fault) :
    List String → Except Fault (List RuleInstance)
  | [] => .ok []
  | id :: ids =>
    match standing id with
    | none => enlist standing hindrance ids
    | some self => hindrance.elim ((enlist standing hindrance ids).map (self :: ·)) .error

variable [Nesting]

theorem get_known {rule : Rule} (known : registry.rule? id = some rule)
    (free : config.hindrance? .showing = none) :
    registry.get id config =
      .ok (some (registry.provide rule config).1, (registry.provide rule config).2) := by
  simp [get, known, free]

theorem get_hindered {rule : Rule} {fault : Fault} (known : registry.rule? id = some rule)
    (hindered : config.hindrance? .showing = some fault) :
    registry.get id config = .error fault := by
  simp [get, known, hindered]

theorem getEach_cons (ids : List String) :
    registry.getEach config (id :: ids) =
      match registry.get id config with
      | .error fault => .error fault
      | .ok (found, later) =>
        (later.getEach config ids).map fun (others, last) => (found.toList ++ others, last) := by
  simp only [getEach, bind, Except.bind]
  cases registry.get id config with
  | error fault => rfl
  | ok got =>
    cases got.2.getEach config ids with
    | error fault => rfl
    | ok rest => rfl

/-- Getting instances one after another gives what the ids stood for at first. -/
theorem getEach_enlist (config : Value) (ids : List String) (registry : Registry) :
    match registry.getEach config ids with
    | .error fault =>
      enlist (registry.standing config) (config.hindrance? .showing) ids = .error fault
    | .ok (found, last) =>
      enlist (registry.standing config) (config.hindrance? .showing) ids =
        .ok (found.map RuleInstance.unnumbered) ∧
      last.standing config = registry.standing config ∧
      last.rules = registry.rules ∧ last.off = registry.off := by
  induction ids generalizing registry with
  | nil => exact ⟨rfl, rfl, rfl, rfl⟩
  | cons id ids ih =>
    rw [getEach_cons]
    cases known : registry.rule? id with
    | none =>
      have unknown : registry.standing config id = none := by simp [standing, known]
      have got : registry.get id config = .ok (none, registry) := by simp [get, known]
      have rest := ih registry
      simp only [got, enlist, unknown]
      cases later : registry.getEach config ids with
      | error fault =>
        rw [later] at rest
        exact rest
      | ok found =>
        rw [later] at rest
        exact rest
    | some rule =>
      obtain ⟨stands, same, rules, off⟩ := @provide_spec registry config id rule known
      cases hindered : config.hindrance? .showing with
      | some fault => simp [get_hindered known hindered, enlist, stands]
      | none =>
        have rest := ih (registry.provide rule config).2
        -- The remaining ids are read off a changed registry, in which they stand for the same.
        rw [same, hindered] at rest
        simp only [get_known known hindered, enlist, stands, Option.elim_none]
        cases later : (registry.provide rule config).2.getEach config ids with
        | error fault =>
          rw [later] at rest
          simp only [Except.map, rest]
        | ok found =>
          rw [later] at rest
          obtain ⟨listed, standing, kept, switched⟩ := rest
          simp only [Except.map, listed]
          exact ⟨rfl, standing, kept.trans rules, switched.trans off⟩

end Registry

end QueryLint
