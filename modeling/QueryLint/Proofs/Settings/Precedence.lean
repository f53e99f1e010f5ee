import QueryLint.Settings.Basic

/-! Which values settings take. A name counts in the scan section first, then beside it, and has a
default; names that settings do not know count nowhere. Only a rules section that is no object
keeps an engine from being made. -/
namespace QueryLint

namespace Fields

variable {fields updates : Fields} {names : List String} {name : String}

theorem get?_cons (field : Key × Value) (fields : Fields) (name : String) :
    Fields.get? (field :: fields) name =
      if field.1 = .text name then some field.2 else fields.get? name := by
  obtain ⟨key, value⟩ := field
  simp only [get?, List.lookup_cons]
  by_cases here : key = .text name
  · simp [here]
  · have apart : (Key.text name == key) = false := beq_false_of_ne (Ne.symm here)
    simp [here, apart]

theorem get?_eq_none_of_absent (absent : .text name ∉ fields.map Prod.fst) :
    fields.get? name = none := by
  apply List.lookup_eq_none_iff.mpr
  intro field inside
  apply bne_iff_ne.mpr
  intro same
  exact absent (same ▸ List.mem_map_of_mem inside)

theorem get?_set (fields : Fields) (key : Key) (value : Value) (name : String) :
    (fields.set key value).get? name =
      if key = .text name then some value else fields.get? name := by
  induction fields with
  | nil => exact get?_cons (key, value) [] name
  | cons field fields ih =>
    obtain ⟨known, old⟩ := field
    simp only [set]
    split <;> grind [get?_cons, Key.same_text_iff, Key.text_same_iff]

/-- Where no key is updated twice, an update wins over what was there. -/
theorem get?_setAll (once : (updates.map Prod.fst).Nodup) (fields : Fields) (name : String) :
    (fields.setAll updates).get? name = (updates.get? name).or (fields.get? name) := by
  induction updates generalizing fields with
  | nil => rfl
  | cons update updates ih =>
    obtain ⟨absent, once⟩ := List.nodup_cons.mp once
    have later := ih once (fields.set update.1 update.2)
    simp only [setAll, List.foldl_cons] at later ⊢
    simp only [later, get?_set, get?_cons]
    split
    · rename_i here
      simp [get?_eq_none_of_absent (here ▸ absent)]
    · rfl

theorem get?_erase {erased : String} (apart : name ≠ erased) (fields : Fields) :
    (fields.erase erased).get? name = fields.get? name := by
  induction fields with
  | nil => rfl
  | cons field fields ih =>
    simp only [erase, List.filter_cons] at ih ⊢
    split <;> grind [get?_cons]

def among (names : List String) (fields : Fields) : Fields :=
  fields.filter fun field => names.any fun name => field.1 = .text name

theorem get?_among (names : List String) (fields : Fields) (name : String) :
    (fields.among names).get? name = if name ∈ names then fields.get? name else none := by
  induction fields with
  | nil => simp [among, get?]
  | cons field fields ih =>
    simp only [among, List.filter_cons] at ih ⊢
    split <;> grind [get?_cons]

def change (name : String) (f : Value → Value) (fields : Fields) : Fields :=
  fields.map fun field => if field.1 = .text name then (field.1, f field.2) else field

theorem get?_change (changed : String) (f : Value → Value) (fields : Fields) (name : String) :
    (fields.change changed f).get? name =
      (fields.get? name).map fun value => if name = changed then f value else value := by
  induction fields with
  | nil => rfl
  | cons field fields ih =>
    simp only [change, List.map_cons] at ih ⊢
    split <;> grind [get?_cons]

theorem keys_change (name : String) (f : Value → Value) (fields : Fields) :
    (fields.change name f).map Prod.fst = fields.map Prod.fst := by
  simp only [change, List.map_map]
  apply List.map_congr_left
  intro field inside
  simp only [Function.comp_apply]
  split <;> rfl

end Fields

def Value.isObject : Value → Bool
  | object _ => true
  | _ => false

def Value.among (names : List String) : Value → Value
  | object fields => object (Fields.among names fields)
  | value => value

namespace Settings

variable {fields : Fields} {name : String}

/-- The fields of the scan section; there are none if it is no object. -/
def scanFields (fields : Fields) : Fields :=
  match fields.get? "scan" with
  | some (.object inner) => inner
  | _ => []

/-- What settings say under a name, first in the scan section and then beside it. -/
def stated? (fields : Fields) (name : String) : Option Value :=
  ((scanFields fields).get? name).or (fields.get? name)

/-- The settings that hold what is stated and the defaults for what is not. -/
structure Follows (fields : Fields) (settings : Settings) : Prop where
  maxWorkers : settings.maxWorkers = (stated? fields "max_workers").getD (.int 4)
  severityThreshold :
    settings.severityThreshold = (stated? fields "severity_threshold").getD (.text "info")
  logLevel : settings.logLevel = (stated? fields "log_level").getD (.text "WARNING")
  /-- Without a rules section the rules are those of an empty one. -/
  rules : ∀ rules, (stated? fields "rules").getD (.object []) = .object rules →
    settings.rules = .rules {
      enabled := (Fields.get? rules "enabled").getD (.list [])
      disabled := (Fields.get? rules "disabled").getD (.list [])
      severityOverrides := (Fields.get? rules "severity_overrides").getD (.object []) }
  raw : ∀ value, stated? fields "rules" = some value → value.isObject = false →
    settings.rules = .raw value

def ruleNames : List String := ["enabled", "disabled", "severity_overrides"]

/-- The names that count beside the scan section and in it. -/
def mainNames : List String := ["max_workers", "severity_threshold", "rules", "log_level"]

/-- The fields that settings know, also inside a rules section. -/
def known (fields : Fields) : Fields :=
  (fields.among mainNames).change "rules" (Value.among ruleNames)

/-- The fields that settings know at every level. -/
def pruned (fields : Fields) : Fields :=
  match fields.get? "scan" with
  | some (.object inner) => ("scan", .object (known inner)) :: known fields
  | _ => known fields

/-- No key stands twice in the scan section. -/
def ScanOnce (fields : Fields) : Prop := ((scanFields fields).map Prod.fst).Nodup

/-- The scan section is an object, or it is as if there were none. -/
theorem scan_cases (fields : Fields) :
    (flatten fields = (fields.erase "scan").setAll (scanFields fields) ∧
      pruned fields = (.text "scan", .object (known (scanFields fields))) :: known fields) ∨
    (scanFields fields = [] ∧ flatten fields = fields ∧ pruned fields = known fields) := by
  cases found : fields.get? "scan" with
  | none => exact .inr (by simp only [flatten, scanFields, pruned, found, and_self])
  | some value =>
    cases value with
    | object inner => exact .inl (by simp only [flatten, scanFields, pruned, found, and_self])
    | _ => exact .inr (by simp only [flatten, scanFields, pruned, found, and_self])

theorem get?_flatten (once : ScanOnce fields) (apart : name ≠ "scan") :
    (flatten fields).get? name = stated? fields name := by
  obtain ⟨flat, -⟩ | ⟨empty, flat, -⟩ := scan_cases fields
  · simp only [flat, stated?, Fields.get?_setAll once, Fields.get?_erase apart]
  · simp only [flat, stated?, empty]
    rfl

section Pruning

theorem get?_known (main : name ∈ mainNames) (fields : Fields) :
    (known fields).get? name = (fields.get? name).map fun value =>
      if name = "rules" then value.among ruleNames else value := by
  simp only [known, Fields.get?_change, Fields.get?_among, if_pos main]

theorem scanFields_pruned (fields : Fields) :
    scanFields (pruned fields) = known (scanFields fields) := by
  obtain ⟨-, kept⟩ | ⟨empty, -, kept⟩ := scan_cases fields
  · have found : (pruned fields).get? "scan" = some (.object (known (scanFields fields))) := by
      simp only [kept, Fields.get?_cons, if_true]
    rw [scanFields, found]
  · have absent : (pruned fields).get? "scan" = none := by
      simp [kept, known, Fields.get?_change, Fields.get?_among, mainNames]
    rw [scanFields, absent, empty]
    rfl

theorem stated?_pruned (main : name ∈ mainNames) (fields : Fields) :
    stated? (pruned fields) name = (stated? fields name).map fun value =>
      if name = "rules" then value.among ruleNames else value := by
  have apart : Key.text "scan" ≠ .text name := by
    intro same
    obtain rfl := Key.text.inj same
    simp [mainNames] at main
  have beside : (pruned fields).get? name = (known fields).get? name := by
    obtain ⟨-, kept⟩ | ⟨-, -, kept⟩ := scan_cases fields
    · simp only [kept, Fields.get?_cons, if_neg apart]
    · rw [kept]
  simp only [stated?, beside, scanFields_pruned, get?_known main, Option.map_or]

theorem scanOnce_pruned (once : ScanOnce fields) : ScanOnce (pruned fields) := by
  simp only [ScanOnce, scanFields_pruned, known, Fields.keys_change]
  exact once.sublist (List.filter_sublist.map Prod.fst)

theorem ruleSection_among (value : Option Value) :
    RuleSection.ofValue? (value.map (Value.among ruleNames)) = RuleSection.ofValue? value := by
  rcases value with _ | value
  · rfl
  · cases value with
    | object rules =>
      simp [Value.among, RuleSection.ofValue?, RuleSettings.ofFields, Fields.get?_among, ruleNames]
    | _ => rfl

end Pruning

theorem ofFields_flatten (once : ScanOnce fields) :
    ofFields (flatten fields) = {
      maxWorkers := (stated? fields "max_workers").getD (.int 4)
      severityThreshold := (stated? fields "severity_threshold").getD (.text "info")
      rules := .ofValue? (stated? fields "rules")
      logLevel := (stated? fields "log_level").getD (.text "WARNING") } := by
  simp [ofFields, get?_flatten once]

theorem ofFields_pruned (once : ScanOnce fields) :
    ofFields (flatten (pruned fields)) = ofFields (flatten fields) := by
  have same (name : String) (main : name ∈ mainNames) (other : name ≠ "rules") :
      stated? (pruned fields) name = stated? fields name := by
    simp only [stated?_pruned main, if_neg other, Option.map_id']
  have rules : stated? (pruned fields) "rules" =
      (stated? fields "rules").map (Value.among ruleNames) :=
    stated?_pruned (by simp [mainNames]) fields
  simp only [ofFields_flatten once, ofFields_flatten (scanOnce_pruned once), rules,
    ruleSection_among]
  congr 2 <;> exact same _ (by simp [mainNames]) (by simp)

section Engine

variable {settings : Settings} {rules : Fields} {value : Value}

theorem ofValue?_of_object {stated : Option Value}
    (object : stated.getD (.object []) = .object rules) :
    RuleSection.ofValue? stated = .rules (.ofFields rules) := by
  rcases stated with _ | value
  · obtain rfl := Value.object.inj object
    rfl
  · obtain rfl : value = .object rules := object
    rfl

theorem ofValue?_of_other (other : value.isObject = false) :
    RuleSection.ofValue? (some value) = .raw value := by
  cases value with
  | object => contradiction
  | _ => rfl

/-- A stated value is an object, where nothing counts as an empty one, or another value. -/
theorem object_or_other (stated : Option Value) :
    (∃ rules, stated.getD (.object []) = .object rules) ∨
    ∃ value, stated = some value ∧ value.isObject = false := by
  rcases stated with _ | value
  · exact .inl ⟨[], rfl⟩
  · cases value with
    | object rules => exact .inl ⟨rules, rfl⟩
    | _ => exact .inr ⟨_, rfl, rfl⟩

theorem follows_ofFields (once : ScanOnce fields) : Follows fields (ofFields (flatten fields)) := by
  rw [ofFields_flatten once]
  refine ⟨rfl, rfl, rfl, fun rules object => ?_, fun value stated other => ?_⟩
  · exact ofValue?_of_object object
  · simp only [stated, ofValue?_of_other other]

theorem Follows.engineFields_of_object (follows : Follows fields settings)
    (object : (stated? fields "rules").getD (.object []) = .object rules) :
    settings.engineFields = .ok [
      ("max_workers", (stated? fields "max_workers").getD (.int 4)),
      ("severity_threshold", (stated? fields "severity_threshold").getD (.text "info")),
      ("rules", .object [
        ("enabled", (Fields.get? rules "enabled").getD (.list [])),
        ("disabled", (Fields.get? rules "disabled").getD (.list [])),
        ("severity_overrides", (Fields.get? rules "severity_overrides").getD (.object []))])] := by
  simp only [engineFields, follows.rules rules object, follows.maxWorkers,
    follows.severityThreshold, RuleSettings.toValue]

theorem Follows.engineFields_of_other (follows : Follows fields settings)
    (stated : stated? fields "rules" = some value) (other : value.isObject = false) :
    settings.engineFields = .error (.missingMember value "enabled") := by
  simp only [engineFields, follows.raw value stated other]

theorem Follows.engineFields_error_iff (follows : Follows fields settings) :
    (∃ fault, settings.engineFields = .error fault) ↔
      ∃ value, stated? fields "rules" = some value ∧ value.isObject = false := by
  constructor
  · rintro ⟨fault, failed⟩
    obtain ⟨rules, object⟩ | stated := object_or_other (stated? fields "rules")
    · rw [follows.engineFields_of_object object] at failed
      contradiction
    · exact stated
  · rintro ⟨value, stated, other⟩
    exact ⟨_, follows.engineFields_of_other stated other⟩

end Engine

/-- An object is always taken for settings, which follow it and depend on nothing but the fields
that settings know. An engine can be made of them unless a rules section is stated that is no
object, and is then given what they hold. -/
theorem ofValue_follows (once : ScanOnce fields) :
    ∃ settings, ofValue (.object fields) = .ok settings ∧
      Follows fields settings ∧
      ofValue (.object (pruned fields)) = .ok settings ∧
      ((∃ fault, settings.engineFields = .error fault) ↔
        ∃ value, stated? fields "rules" = some value ∧ value.isObject = false) ∧
      ∀ rules, (stated? fields "rules").getD (.object []) = .object rules →
        settings.engineFields = .ok [
          ("max_workers", (stated? fields "max_workers").getD (.int 4)),
          ("severity_threshold", (stated? fields "severity_threshold").getD (.text "info")),
          ("rules", .object [
            ("enabled", (Fields.get? rules "enabled").getD (.list [])),
            ("disabled", (Fields.get? rules "disabled").getD (.list [])),
            ("severity_overrides",
              (Fields.get? rules "severity_overrides").getD (.object []))])] := by
  refine ⟨_, rfl, follows_ofFields once, ?_, ?_, ?_⟩
  · exact congrArg Except.ok (ofFields_pruned once)
  · exact (follows_ofFields once).engineFields_error_iff
  · intro rules object
    exact (follows_ofFields once).engineFields_of_object object

/-- Settings whose scan section brings along its own rules, another scan section and unknown
fields, beside a rules section of the wrong kind. -/
def crossedFields : Fields := [
  ("rules", .text "all"),
  ("max_workers", .int 2),
  ("scan", .object [
    ("severity_threshold", .null),
    ("scan", .object [("max_workers", .int 9)]),
    ("rules", .object [("disabled", .texts ["X"]), ("only", .bool true)])]),
  ("colour", .text "red")]

theorem crossedFields_follows :
    ScanOnce crossedFields ∧
    ∃ settings, ofValue (.object crossedFields) = .ok settings ∧
      settings.maxWorkers = .int 2 ∧ settings.logLevel = .text "WARNING" ∧
      settings.engineFields = .ok [
        ("max_workers", .int 2),
        ("severity_threshold", .null),
        ("rules", .object [
          ("enabled", .list []),
          ("disabled", .texts ["X"]),
          ("severity_overrides", .object [])])] := by
  have once : ScanOnce crossedFields := by
    simp [ScanOnce, scanFields, crossedFields, Fields.get?_cons]
  obtain ⟨settings, read, follows, -, -, engine⟩ := ofValue_follows once
  refine ⟨once, settings, read, follows.maxWorkers.trans ?_, follows.logLevel.trans ?_,
    (engine [("disabled", .texts ["X"]), ("only", .bool true)] ?_).trans ?_⟩ <;> rfl

end Settings

end QueryLint
