import QueryLint.Proofs.Registry.Renewal
import QueryLint.Proofs.Value.Display
import Mathlib.Data.List.Nodup

/-! Keeping instances is not seen. Where ids are registered once, an id stands for one rule, and
since settings that are written the same are the same, what is handed out again is what would
have been made anew. Only settings that cannot be written are refused. -/
namespace QueryLint

/-- The severities that settings give to rules, by id. -/
def Value.severityOverrides? : Value → Option Fields
  | null => some []
  | object fields =>
    match Fields.get? fields "severity_overrides" with
    | none => some []
    | some (object overrides) => some overrides
    | some _ => none
  | _ => none

namespace RuleInstance

theorem severity_eq {self : RuleInstance} {overrides : Fields}
    (given : self.config.severityOverrides? = some overrides) :
    self.severity =
      let override := (overrides.get? self.id).getD .null
      if override.isTruthy then
        match override with
        | .text name => Severity.ofName (Text.lower name)
        | value => .error (.missingMember value "lower")
      else .ok self.rule.metadata.severity := by
  have field : self.config.orEmpty.field "severity_overrides" (.object []) =
      .ok (.object overrides) := by
    unfold Value.severityOverrides? at given
    split at given
    · rename_i absent
      rw [absent, ← Option.some.inj given]
      rfl
    · rename_i fields here
      have full : (Value.object fields).orEmpty = .object fields := by
        cases fields <;> rfl
      rw [here, full, Value.field]
      split at given
      · rename_i absent
        rw [absent, ← Option.some.inj given]
        rfl
      · rename_i found
        rw [found, ← Option.some.inj given]
        rfl
      · contradiction
    · contradiction
  rw [severity, field]
  rfl

theorem severity_default {self : RuleInstance} {overrides : Fields}
    (given : self.config.severityOverrides? = some overrides) (silent : overrides.get? self.id = none) :
    self.severity = .ok self.rule.metadata.severity := by
  rw [severity_eq given, silent]
  rfl

theorem severity_override {self : RuleInstance} {overrides : Fields} {name : String}
    (given : self.config.severityOverrides? = some overrides)
    (named : overrides.get? self.id = some (.text name)) (full : name ≠ "") :
    self.severity = Severity.ofName (Text.lower name) := by
  rw [severity_eq given, named]
  simp [Value.isTruthy, full]

end RuleInstance

namespace Registry

variable {known : Rule → Prop} {asked : Value → Prop} {registry later : Registry} {rule other : Rule}
  {id : String} {config : Value} {request : Request} {requests : List Request}

/-- What a registry is made up of. Instances are numbered as they come, and each is of a known
rule and made for settings that were asked for. -/
structure Orderly (known : Rule → Prop) (asked : Value → Prop) (registry : Registry) : Prop where
  rules : ∀ rule ∈ registry.rules, known rule
  numbered : ∀ place (self : RuleInstance), registry.instances[place]? = some self →
    self.serial = place
  made : ∀ self ∈ registry.instances, known self.rule ∧ asked self.config

theorem orderly_empty : Orderly known asked {} := by
  refine ⟨?_, ?_, ?_⟩ <;> simp

theorem mem_place {rules : List Rule} (inside : other ∈ place rule rules) :
    other = rule ∨ other ∈ rules := by
  induction rules with
  | nil => exact .inl (List.mem_singleton.mp inside)
  | cons head tail ih =>
    rw [place] at inside
    split at inside
    · rcases List.mem_cons.mp inside with new | behind
      · exact .inl new
      · exact .inr (List.mem_cons_of_mem _ behind)
    · rcases List.mem_cons.mp inside with rfl | behind
      · exact .inr List.mem_cons_self
      · rcases ih behind with new | old
        · exact .inl new
        · exact .inr (List.mem_cons_of_mem _ old)

theorem Orderly.register (orderly : Orderly known asked registry) (new : known rule) :
    Orderly known asked (registry.register rule) := by
  refine ⟨fun other inside => ?_, orderly.numbered, orderly.made⟩
  rcases mem_place inside with rfl | old
  · exact new
  · exact orderly.rules other old

theorem Orderly.provide (orderly : Orderly known asked registry) (asks : asked config)
    (found : registry.rule? id = some rule) :
    Orderly known asked (registry.provide rule config).2 := by
  rcases provide_cases registry rule config with ⟨self, _, provided⟩ | ⟨_, provided⟩
  · rw [provided]
    exact orderly
  · rw [provided]
    refine ⟨orderly.rules, ?_, ?_⟩
    · intro place self here
      simp only [add, List.getElem?_append, List.getElem?_singleton] at here
      split at here
      · exact orderly.numbered place self here
      · split at here
        · rw [← Option.some.inj here]
          simp only [fresh]
          omega
        · contradiction
    · intro self inside
      rcases List.mem_append.mp inside with old | new
      · exact orderly.made self old
      · rw [List.mem_singleton.mp new]
        exact ⟨orderly.rules rule (List.mem_of_find?_eq_some found), asks⟩

theorem Orderly.supplies {found : List RuleInstance} (orderly : Orderly known asked registry)
    (asks : asked config) (supplies : Supplies config registry found later) :
    Orderly known asked later := by
  induction supplies with
  | done => exact orderly
  | next here _ ih => exact ih (orderly.provide asks here)

theorem Orderly.perform (orderly : Orderly known asked registry)
    (new : ∀ rule ∈ registered [request], known rule)
    (asks : ∀ config ∈ request.config?, asked config) :
    Orderly known asked (registry.perform request).2 := by
  rcases perform_cases registry request with
    ⟨rule, rfl, done⟩ | ⟨_, fault, failed⟩ | ⟨_, config, found, later, given, supplies, done⟩
  · rw [done]
    exact orderly.register (new rule List.mem_cons_self)
  · rw [failed]
    exact orderly
  · rw [done]
    exact orderly.supplies (asks config given) supplies

theorem Orderly.after (orderly : Orderly known asked registry)
    (new : ∀ rule ∈ registered requests, known rule)
    (asks : ∀ request ∈ requests, ∀ config ∈ request.config?, asked config) :
    Orderly known asked (after requests registry) := by
  induction requests generalizing registry with
  | nil => exact orderly
  | cons request requests ih =>
    rw [registered_cons request requests, List.forall_mem_append] at new
    rw [List.forall_mem_cons] at asks
    exact ih (orderly.perform new.1 asks.1) new.2 asks.2

/-- Instances with the same number are one. -/
theorem Orderly.serial_injective {first second : RuleInstance} (orderly : Orderly known asked registry)
    (kept : first ∈ registry.instances) (kept' : second ∈ registry.instances)
    (same : first.serial = second.serial) : first = second := by
  obtain ⟨place, here⟩ := List.mem_iff_getElem?.mp kept
  obtain ⟨place', here'⟩ := List.mem_iff_getElem?.mp kept'
  rw [orderly.numbered place first here, orderly.numbered place' second here'] at same
  rw [same, here'] at here
  exact (Option.some.inj here).symm

/-- The settings of a run are null or objects of values as settings files have them. -/
def Sound (requests : List Request) : Prop :=
  ∀ request ∈ requests, ∀ config ∈ request.config?, config.IsSettings

/-- No two rules of a run go by one id. -/
def Distinct (requests : List Request) : Prop :=
  ((registered requests).map (·.metadata.id)).Nodup

theorem orderly_run (sound : Sound requests) :
    Orderly (· ∈ registered requests) Value.IsSettings (after requests {}) :=
  orderly_empty.after (fun _ inside => inside) sound

theorem Distinct.unique (distinct : Distinct requests) (inside : rule ∈ registered requests)
    (inside' : other ∈ registered requests) (same : rule.metadata.id = other.metadata.id) :
    rule = other :=
  List.inj_on_of_nodup_map distinct inside inside' same

theorem Distinct.latest (distinct : Distinct requests) (inside : rule ∈ registered requests) :
    latest requests rule.metadata.id = some rule := by
  cases last : Registry.latest requests rule.metadata.id with
  | none => exact absurd rfl (latest_eq_none.mp last rule inside)
  | some found =>
    obtain ⟨inside', same⟩ := latest_some last
    rw [distinct.unique inside' inside same]

/-- What is kept for settings was made for them. -/
theorem config_of_kept {self : RuleInstance} (sound : Sound requests) (settings : config.IsSettings)
    (kept : (after requests {}).instance? id config = some self) : self.config = config := by
  have made := (orderly_run sound).made self (List.mem_of_find?_eq_some kept)
  exact Value.plain_injective made.2 settings (instance?_some kept).2

theorem provide_made (distinct : Distinct requests) (sound : Sound requests)
    (inside : rule ∈ registered requests) (settings : config.IsSettings) :
    ((after requests {}).provide rule config).1.rule = rule ∧
      ((after requests {}).provide rule config).1.config = config := by
  rcases provide_cases (after requests {}) rule config with ⟨self, kept, provided⟩ | ⟨_, provided⟩
  · rw [provided]
    have made := (orderly_run sound).made self (List.mem_of_find?_eq_some kept)
    exact ⟨distinct.unique made.1 inside (instance?_some kept).1, config_of_kept sound settings kept⟩
  · rw [provided]
    exact ⟨rfl, rfl⟩

theorem settings_of_grant {grant : Grant} (sound : Sound requests)
    (granted : grant ∈ grants requests registry) : grant.config.IsSettings := by
  induction requests generalizing registry with
  | nil => contradiction
  | cons request requests ih =>
    obtain ⟨first, others⟩ := List.forall_mem_cons.mp sound
    rw [grants, List.mem_append] at granted
    rcases granted with now | later
    · exact first grant.config (grant_of_perform now).1
    · exact ih others later

theorem grant_made {grant : Grant} (sound : Sound requests) (granted : grant ∈ grants requests {}) :
    grant.made.rule ∈ registered requests ∧ grant.made.id = grant.id ∧
      grant.made.config = grant.config := by
  have kept := kept_of_grant requests {} granted
  have made := (orderly_run sound).made grant.made (List.mem_of_find?_eq_some kept)
  exact ⟨made.1, (instance?_some kept).1,
    config_of_kept sound (settings_of_grant sound granted) kept⟩

/-- Instances are the same exactly if the ids and the settings are. -/
theorem serial_eq_iff {first second : Grant} (sound : Sound requests)
    (granted : first ∈ grants requests {}) (granted' : second ∈ grants requests {}) :
    first.made.serial = second.made.serial ↔ first.id = second.id ∧ first.config = second.config := by
  have kept := kept_of_grant requests {} granted
  have kept' := kept_of_grant requests {} granted'
  obtain ⟨_, id, config⟩ := grant_made sound granted
  obtain ⟨_, id', config'⟩ := grant_made sound granted'
  constructor
  · intro same
    have one := (orderly_run sound).serial_injective (List.mem_of_find?_eq_some kept)
      (List.mem_of_find?_eq_some kept') same
    rw [← id, ← config, one]
    exact ⟨id', config'⟩
  · rintro ⟨same, same'⟩
    rw [same, same', kept'] at kept
    rw [Option.some.inj kept]

theorem get_eq_none [Nesting] :
    (∃ later, registry.get id config = .ok (none, later)) ↔ registry.rule? id = none := by
  cases found : registry.rule? id with
  | none => simp [get, found]
  | some rule =>
    simp only [get, found]
    split <;> simp

/-- Instances are handed out as if each were made when it is asked for, and again for the same id
and settings. Only settings that cannot be written stand in the way: there is an integer too long
for it, or they are nested too deep. -/
theorem caching_transparent [Nesting] (distinct : Distinct requests) (sound : Sound requests) :
    (∀ id config, (∃ later, (after requests {}).get id config = .ok (none, later)) ↔
      ∀ rule ∈ registered requests, rule.metadata.id ≠ id) ∧
    (∀ rule ∈ registered requests, ∀ config : Value, config.IsSettings →
      (¬ config.Fits → ∃ fault, config.Hinders .showing fault ∧
        (after requests {}).get rule.metadata.id config = .error fault) ∧
      (config.Fits → ∃ self later,
        (after requests {}).get rule.metadata.id config = .ok (some self, later) ∧
        self.rule = rule ∧ self.config = config ∧
        ∀ overrides, config.severityOverrides? = some overrides →
          (overrides.get? rule.metadata.id = none → self.severity = .ok rule.metadata.severity) ∧
          ∀ name, overrides.get? rule.metadata.id = some (.text name) → name ≠ "" →
            self.severity = Severity.ofName (Text.lower name))) ∧
    (∀ grant ∈ grants requests {}, grant.made.rule ∈ registered requests ∧
      grant.made.id = grant.id ∧ grant.made.config = grant.config) ∧
    ∀ first ∈ grants requests {}, ∀ second ∈ grants requests {},
      (first.made.serial = second.made.serial ↔
        first.id = second.id ∧ first.config = second.config) := by
  refine ⟨fun id config => ?_, fun rule inside config settings => ?_,
    fun grant granted => grant_made sound granted,
    fun first granted second granted' => serial_eq_iff sound granted granted'⟩
  · rw [← latest_eq_none, ← rule?_after_empty]
    exact get_eq_none
  · have last := distinct.latest inside
    refine ⟨fun unfit => get_of_unfit unfit last, fun fits => ⟨_, _, get_of_latest fits last, ?_⟩⟩
    obtain ⟨same, same'⟩ := provide_made distinct sound inside settings
    refine ⟨same, same', fun overrides given => ?_⟩
    have named : ((after requests {}).provide rule config).1.id = rule.metadata.id := provide_id
    rw [← same'] at given
    rw [← named]
    refine ⟨fun silent => ?_, fun name override full => RuleInstance.severity_override given override full⟩
    rw [RuleInstance.severity_default given silent, same]

/-- Settings that say how grave one rule is. -/
def overriding (id : String) (value : Value) : Value :=
  .object [(.text "severity_overrides", .object [(.text id, value)])]

theorem overriding_isSettings {value : Value} (json : value.IsJson) :
    (overriding id value).IsSettings := by
  refine .inr ⟨_, rfl, .object ?_ ?_⟩
  · simp
  · rw [List.forall_mem_singleton]
    refine .object ?_ ?_
    · simp
    · rw [List.forall_mem_singleton]
      exact json

def graver : Value := overriding "Trial" (.text "HIGH")

theorem graver_isSettings : graver.IsSettings := overriding_isSettings (.text "HIGH")

def lookups : List Request :=
  [.register (namesake "first" true), .get "Trial" .null, .register .injection, .getAll graver]

theorem lookups_sound : Sound lookups := by
  have plain : Value.null.IsSettings := .inl rfl
  simp [Sound, lookups, Request.config?, plain, graver_isSettings]

theorem lookups_distinct : Distinct lookups := by
  show ["Trial", "PreventSQLInjection"].Nodup
  decide

/-- The rule is as grave as the settings say, though it was asked for without them before. -/
theorem lookups_get :
    ∃ self later, (after lookups {}).get "Trial" graver = .ok (some self, later) ∧
      self.config = graver ∧ self.severity = .ok .high := by
  obtain ⟨_, made, _, _⟩ := caching_transparent lookups_distinct lookups_sound
  obtain ⟨self, later, got, _, same, severity⟩ :=
    (made (namesake "first" true) List.mem_cons_self graver graver_isSettings).2
      (Value.fits_of_free rfl)
  exact ⟨self, later, got, same, (severity _ rfl).2 "HIGH" rfl (by decide)⟩

theorem integers_overriding (id : String) (value : Value) :
    (overriding id value).integers = value.integers := by
  simp [overriding, Value.integers, Value.fieldsIntegers, Key.integers]

/-- Settings with an integer of one digit too many, for a rule that does not exist. -/
def overlong : Value := overriding "Other" (.int (Nat.pow 10 digitLimit))

theorem not_fits_long [Nesting] {n : Nat} (long : Nat.pow 10 digitLimit ≤ n) :
    ¬ (overriding id (.int n)).Fits := by
  intro fits
  have short := fits.2 n (by simp [integers_overriding, Value.integers])
  rw [Int.natAbs_natCast] at short
  exact Nat.not_le.mpr short long

/-- An instance is not made for all settings, however much room there is. -/
theorem overlong_refused :
    ¬ ∃ _ : Nesting, ∀ requests, Distinct requests → Sound requests → ∀ rule ∈ registered requests,
      ∀ config : Value, config.IsSettings → ∃ self later,
        (after requests {}).get rule.metadata.id config = .ok (some self, later) := by
  rintro ⟨room, makes⟩
  have distinct : Distinct [.register .injection] := List.nodup_singleton _
  have sound : Sound [.register .injection] := by simp [Sound, Request.config?]
  obtain ⟨self, later, got⟩ :=
    makes _ distinct sound .injection List.mem_cons_self overlong (overriding_isSettings (.int _))
  obtain ⟨fault, _, refused⟩ :=
    get_of_unfit (not_fits_long (Nat.le_refl _)) (distinct.latest List.mem_cons_self)
  exact absurd (refused.symm.trans got) (by simp)

end Registry

end QueryLint
