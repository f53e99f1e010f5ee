import QueryLint.Proofs.Registry.Standing

/-! Runs of a registry: rules are registered, by new ids or by old ones, and instances are asked
for in between. The rules go by the last registration of an id. The instances go by the first
request for an id and settings, and are handed out again at each later one. -/
namespace QueryLint.Registry

/-- What a registry is asked for, with as much room for going through settings as there is at the
time. -/
inductive Request where
  | register (rule : Rule)
  | get [Nesting] (id : String) (config : Value)
  | getAll [Nesting] (config : Value)

/-- An instance that is handed out, with the id and the settings it was asked for by. -/
structure Grant where
  id : String
  config : Value
  made : RuleInstance

/-- What a request hands out, and the registry after it. One that fails changes nothing. -/
def perform (registry : Registry) : Request → Except Fault (List Grant) × Registry
  | .register rule => (.ok [], registry.register rule)
  | @Request.get _ id config =>
    match registry.get id config with
    | .ok (found, later) => (.ok (found.toList.map fun made => ⟨id, config, made⟩), later)
    | .error fault => (.error fault, registry)
  | @Request.getAll _ config =>
    match registry.getAll config with
    | .ok (found, later) => (.ok (found.map fun made => ⟨made.id, config, made⟩), later)
    | .error fault => (.error fault, registry)

def after : List Request → Registry → Registry
  | [], registry => registry
  | request :: requests, registry => after requests (registry.perform request).2

def grants : List Request → Registry → List Grant
  | [], _ => []
  | request :: requests, registry =>
    (registry.perform request).1.toOption.getD [] ++ grants requests (registry.perform request).2

def registered (requests : List Request) : List Rule :=
  requests.filterMap fun
    | .register rule => some rule
    | _ => none

def latest (requests : List Request) (id : String) : Option Rule :=
  (registered requests).reverse.find? (·.metadata.id = id)

variable {registry later : Registry} {rule : Rule} {id : String} {config : Value}
  {request : Request} {requests : List Request}

section Rules

theorem rule?_place (rules : List Rule) :
    (place rule rules).find? (·.metadata.id = id) =
      if rule.metadata.id = id then some rule else rules.find? (·.metadata.id = id) := by
  induction rules with
  | nil =>
    by_cases here : rule.metadata.id = id <;> simp [place, here]
  | cons head tail ih =>
    rw [place]
    by_cases replaced : head.metadata.id = rule.metadata.id
    · rw [if_pos replaced]
      by_cases here : rule.metadata.id = id
      · simp [here]
      · simp [here, replaced]
    · rw [if_neg replaced]
      by_cases first : head.metadata.id = id
      · have other : rule.metadata.id ≠ id := fun here => replaced (first.trans here.symm)
        simp [first, other]
      · simp [first, ih]

theorem rule?_register :
    (registry.register rule).rule? id =
      if rule.metadata.id = id then some rule else registry.rule? id :=
  rule?_place registry.rules

theorem mem_ids : id ∈ registry.ids ↔ (registry.rule? id).isSome := by
  rw [ids, rule?, List.find?_isSome, List.mem_map]
  simp

end Rules

section Instances

/-- The instance is kept in the place of others for its id and settings. -/
def Keeps (registry : Registry) (config : Value) (self : RuleInstance) : Prop :=
  registry.instance? self.id config = some self

theorem instance?_some {self : RuleInstance} (kept : registry.instance? id config = some self) :
    self.id = id ∧ self.config.plain = config.plain := by
  simpa using List.find?_some kept

theorem provide_id : (registry.provide rule config).1.id = rule.metadata.id := by
  rcases provide_cases registry rule config with ⟨self, kept, provided⟩ | ⟨_, provided⟩
  · rw [provided, (instance?_some kept).1]
  · rw [provided]
    rfl

/-- Instances for some settings are asked for one after another. -/
inductive Supplies (config : Value) : Registry → List RuleInstance → Registry → Prop where
  | done {registry : Registry} : Supplies config registry [] registry
  | next {registry later : Registry} {id : String} {rule : Rule} {others : List RuleInstance} :
      registry.rule? id = some rule → Supplies config (registry.provide rule config).2 others later →
      Supplies config registry ((registry.provide rule config).1 :: others) later

/-- What such a row of requests changes: instances come to be kept, and only those that are
handed out. -/
structure Extends (config : Value) (registry : Registry) (found : List RuleInstance)
    (later : Registry) : Prop where
  rules : later.rules = registry.rules
  off : later.off = registry.off
  kept : ∀ {id other self}, registry.instance? id other = some self →
    later.instance? id other = some self
  keeps : ∀ self ∈ found, later.Keeps config self
  made : ∀ self ∈ later.instances, self ∈ registry.instances ∨ self ∈ found

theorem extends_provide :
    Extends config registry [(registry.provide rule config).1] (registry.provide rule config).2 := by
  rcases provide_cases registry rule config with ⟨self, kept, provided⟩ | ⟨absent, provided⟩
  · rw [provided]
    refine ⟨rfl, rfl, fun found => found, ?_, fun other inside => .inl inside⟩
    intro other inside
    rw [List.mem_singleton.mp inside, Keeps, (instance?_some kept).1]
    exact kept
  · rw [provided]
    refine ⟨rfl, rfl, ?_, ?_, ?_⟩
    · intro id other self found
      rw [instance?_add, found, Option.some_or]
    · intro self inside
      rw [List.mem_singleton.mp inside, Keeps, instance?_add, if_pos ⟨rfl, rfl⟩]
      have missing : registry.instance? (registry.fresh rule config).id config = none := absent
      rw [missing, Option.none_or]
    · intro self inside
      exact List.mem_append.mp inside

theorem Supplies.extends {found : List RuleInstance} (supplies : Supplies config registry found later) :
    Extends config registry found later := by
  induction supplies with
  | done => exact ⟨rfl, rfl, fun found => found, by simp, fun self inside => .inl inside⟩
  | next _ _ ih =>
    have first := @extends_provide
    refine ⟨ih.rules.trans first.rules, ih.off.trans first.off, fun found => ih.kept (first.kept found),
      ?_, ?_⟩
    · intro self inside
      rcases List.mem_cons.mp inside with rfl | behind
      · exact ih.kept (first.keeps _ List.mem_cons_self)
      · exact ih.keeps self behind
    · intro self inside
      rcases ih.made self inside with early | late
      · rcases first.made self early with old | new
        · exact .inl old
        · exact .inr (List.mem_cons.mpr (.inl (List.mem_singleton.mp new)))
      · exact .inr (List.mem_cons_of_mem _ late)

theorem supplies_get [Nesting] {found : Option RuleInstance}
    (got : registry.get id config = .ok (found, later)) :
    Supplies config registry found.toList later ∧ ∀ self ∈ found, self.id = id := by
  rw [get] at got
  cases known : registry.rule? id with
  | none =>
    simp only [known, Except.ok.injEq, Prod.mk.injEq] at got
    obtain ⟨rfl, rfl⟩ := got
    exact ⟨.done, by simp⟩
  | some rule =>
    simp only [known] at got
    split at got
    · contradiction
    · simp only [Except.ok.injEq, Prod.mk.injEq] at got
      obtain ⟨rfl, rfl⟩ := got
      refine ⟨.next known .done, fun self inside => ?_⟩
      obtain rfl := Option.some.inj (Option.mem_def.mp inside)
      exact provide_id.trans (rule?_id known)

theorem Supplies.append {found others : List RuleInstance} {middle : Registry}
    (first : Supplies config registry found middle) (second : Supplies config middle others later) :
    Supplies config registry (found ++ others) later := by
  induction first with
  | done => exact second
  | next known _ ih => exact .next known (ih second)

theorem supplies_getEach [Nesting] {ids : List String} {found : List RuleInstance}
    (got : registry.getEach config ids = .ok (found, later)) :
    Supplies config registry found later := by
  induction ids generalizing registry found with
  | nil =>
    simp only [getEach, Except.ok.injEq, Prod.mk.injEq] at got
    obtain ⟨rfl, rfl⟩ := got
    exact .done
  | cons id ids ih =>
    rw [getEach_cons] at got
    split at got
    · contradiction
    · rename_i first middle here
      cases behind : middle.getEach config ids with
      | error fault => simp [behind, Except.map] at got
      | ok rest =>
        simp only [behind, Except.map, Except.ok.injEq, Prod.mk.injEq] at got
        obtain ⟨rfl, rfl⟩ := got
        exact (supplies_get here).1.append (ih behind)

end Instances

section Run

def Request.config? : Request → Option Value
  | register _ => none
  | @get _ _ config => some config
  | @getAll _ config => some config

/-- All that a request can do. -/
theorem perform_cases (registry : Registry) (request : Request) :
    (∃ rule, request = .register rule ∧
      registry.perform request = (.ok [], registry.register rule)) ∨
    (registered [request] = [] ∧ ∃ fault, registry.perform request = (.error fault, registry)) ∨
    (registered [request] = [] ∧ ∃ config found later, request.config? = some config ∧
      Supplies config registry found later ∧
      registry.perform request = (.ok (found.map fun made => ⟨made.id, config, made⟩), later)) := by
  cases request with
  | register rule => exact .inl ⟨rule, rfl, rfl⟩
  | get id config =>
    refine .inr ?_
    cases got : registry.get id config with
    | error fault => exact .inl ⟨rfl, fault, by simp only [perform, got]⟩
    | ok result =>
      obtain ⟨found, later⟩ := result
      obtain ⟨supplies, named⟩ := supplies_get got
      refine .inr ⟨rfl, config, found.toList, later, rfl, supplies, ?_⟩
      simp only [perform, got]
      cases found with
      | none => rfl
      | some made => rw [← named made rfl]; rfl
  | getAll config =>
    refine .inr ?_
    cases got : registry.getAll config with
    | error fault => exact .inl ⟨rfl, fault, by simp only [perform, got]⟩
    | ok result =>
      obtain ⟨found, later⟩ := result
      exact .inr ⟨rfl, config, found, later, rfl, supplies_getEach got, by simp only [perform, got]⟩

theorem registered_cons (request : Request) (requests : List Request) :
    registered (request :: requests) = registered [request] ++ registered requests := by
  cases request <;> rfl

theorem latest_cons (request : Request) (requests : List Request) (id : String) :
    latest (request :: requests) id = (latest requests id).or (latest [request] id) := by
  rw [latest, registered_cons, List.reverse_append, List.find?_append]
  rfl

theorem rule?_perform :
    (registry.perform request).2.rule? id = (latest [request] id).or (registry.rule? id) := by
  rcases perform_cases registry request with
    ⟨rule, rfl, done⟩ | ⟨idle, fault, failed⟩ | ⟨idle, config, found, later, _, supplies, done⟩
  · rw [done, rule?_register]
    by_cases here : rule.metadata.id = id <;> simp [latest, registered, here]
  · rw [failed, latest, idle]
    rfl
  · rw [done, latest, idle]
    simp only [rule?, supplies.extends.rules]
    rfl

/-- The rule of an id is the one that was registered last. -/
theorem rule?_after (requests : List Request) (registry : Registry) (id : String) :
    (after requests registry).rule? id = (latest requests id).or (registry.rule? id) := by
  induction requests generalizing registry with
  | nil => rfl
  | cons request requests ih =>
    rw [after, ih, rule?_perform, latest_cons request requests, Option.or_assoc]

theorem mem_off_perform :
    id ∈ (registry.perform request).2.off ↔ id ∈ registry.off ∨
      ∃ rule ∈ registered [request], rule.metadata.id = id ∧
        rule.metadata.enabledByDefault = false := by
  rcases perform_cases registry request with
    ⟨rule, rfl, done⟩ | ⟨idle, fault, failed⟩ | ⟨idle, config, found, later, _, supplies, done⟩
  · have single : registered [.register rule] = [rule] := rfl
    rw [done, register, single]
    cases switched : rule.metadata.enabledByDefault with
    | true => simp [switched]
    | false =>
      simp only [Bool.false_eq_true, if_false, List.mem_cons, List.not_mem_nil, or_false,
        exists_eq_left, switched, and_true]
      rw [or_comm, eq_comm]
  · simp [failed, idle]
  · simp [done, idle, supplies.extends.off]

/-- An id that was once registered as off by default stays so. -/
theorem mem_off_after (requests : List Request) (registry : Registry) (id : String) :
    id ∈ (after requests registry).off ↔ id ∈ registry.off ∨
      ∃ rule ∈ registered requests, rule.metadata.id = id ∧
        rule.metadata.enabledByDefault = false := by
  induction requests generalizing registry with
  | nil => simp [after, registered]
  | cons request requests ih =>
    rw [after, ih, mem_off_perform, or_assoc, registered_cons request requests]
    simp only [List.mem_append, or_and_right, exists_or]

theorem latest_eq_none : latest requests id = none ↔
    ∀ rule ∈ registered requests, rule.metadata.id ≠ id := by
  simp [latest]

theorem latest_some (last : latest requests id = some rule) :
    rule ∈ registered requests ∧ rule.metadata.id = id := by
  refine ⟨List.mem_reverse.mp (List.mem_of_find?_eq_some last), ?_⟩
  simpa using List.find?_some last

theorem kept_perform {self : RuleInstance} (kept : registry.instance? id config = some self) :
    (registry.perform request).2.instance? id config = some self := by
  rcases perform_cases registry request with
    ⟨rule, rfl, done⟩ | ⟨_, fault, failed⟩ | ⟨_, other, found, later, _, supplies, done⟩
  · rw [done]
    exact kept
  · rw [failed]
    exact kept
  · rw [done]
    exact supplies.extends.kept kept

theorem kept_after {self : RuleInstance} (requests : List Request)
    (kept : registry.instance? id config = some self) :
    (after requests registry).instance? id config = some self := by
  induction requests generalizing registry with
  | nil => exact kept
  | cons request requests ih => exact ih (kept_perform kept)

/-- What a request hands out is for its settings, and is kept from then on. -/
theorem grant_of_perform {grant : Grant}
    (granted : grant ∈ (registry.perform request).1.toOption.getD []) :
    request.config? = some grant.config ∧
      (registry.perform request).2.instance? grant.id grant.config = some grant.made := by
  rcases perform_cases registry request with
    ⟨rule, rfl, done⟩ | ⟨_, fault, failed⟩ | ⟨_, config, found, later, given, supplies, done⟩
  · simp [done, Except.toOption] at granted
  · simp [failed, Except.toOption] at granted
  · simp only [done, Except.toOption, Option.getD_some, List.mem_map] at granted
    obtain ⟨made, inside, rfl⟩ := granted
    rw [done]
    exact ⟨given, supplies.extends.keeps made inside⟩

theorem kept_of_grant {grant : Grant} (requests : List Request) (registry : Registry)
    (granted : grant ∈ grants requests registry) :
    (after requests registry).instance? grant.id grant.config = some grant.made := by
  induction requests generalizing registry with
  | nil => contradiction
  | cons request requests ih =>
    rw [grants, List.mem_append] at granted
    rcases granted with now | later
    · exact kept_after requests (grant_of_perform now).2
    · exact ih _ later

/-- What is kept was there before, or was handed out. -/
theorem mem_instances_after {self : RuleInstance} (requests : List Request) (registry : Registry)
    (kept : self ∈ (after requests registry).instances) :
    self ∈ registry.instances ∨ ∃ grant ∈ grants requests registry, grant.made = self := by
  induction requests generalizing registry with
  | nil => exact .inl kept
  | cons request requests ih =>
    rcases ih _ kept with early | ⟨grant, granted, rfl⟩
    · rcases perform_cases registry request with
        ⟨rule, rfl, done⟩ | ⟨_, fault, failed⟩ | ⟨_, other, found, later, _, supplies, done⟩
      · rw [done] at early
        exact .inl early
      · rw [failed] at early
        exact .inl early
      · rw [done] at early
        rcases supplies.extends.made self early with old | new
        · exact .inl old
        · refine .inr ⟨⟨self.id, other, self⟩, List.mem_append_left _ ?_, rfl⟩
          simpa [done, Except.toOption] using new
    · exact .inr ⟨grant, List.mem_append_right _ granted, rfl⟩

end Run

end QueryLint.Registry
