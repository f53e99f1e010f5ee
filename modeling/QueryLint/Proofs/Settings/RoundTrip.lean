import QueryLint.Proofs.Settings.Precedence

/-! Settings that are written out are read back. They are nested no deeper than what they were read
from, apart from their defaults, so that only settings from a value that is nested too deep cannot
be written. -/
namespace QueryLint

namespace Value

variable {value part : Value} {fields : Fields} {depth : Nat}

theorem itemsLevels_le_iff {items : List Value} :
    itemsLevels items ≤ depth + 1 ↔ ∀ item ∈ items, item.levels ≤ depth := by
  induction items with
  | nil => simp [itemsLevels]
  | cons item items ih =>
    simp only [itemsLevels, Nat.max_le, Nat.succ_le_succ_iff, ih, List.forall_mem_cons]

theorem fieldsLevels_le_iff :
    fieldsLevels fields ≤ depth + 1 ↔ ∀ field ∈ fields, field.2.levels ≤ depth := by
  induction fields with
  | nil => simp [fieldsLevels]
  | cons field fields ih =>
    simp only [fieldsLevels, Nat.max_le, Nat.succ_le_succ_iff, ih, List.forall_mem_cons]

theorem levels_toValue (key : Key) : key.toValue.levels = 0 := by
  cases key <;> rfl

theorem levels_part_le {parts : List Value} (taken : value.parts? = some parts)
    (inside : part ∈ parts) : part.levels ≤ value.levels - 1 := by
  cases value with
  | list items =>
    obtain rfl := Option.some.inj taken
    show part.levels ≤ itemsLevels items - 1
    exact itemsLevels_le_iff.mp (by omega) part inside
  | text s =>
    obtain rfl := Option.some.inj taken
    obtain ⟨c, -, rfl⟩ := List.mem_map.mp inside
    exact Nat.zero_le _
  | object fields =>
    obtain rfl := Option.some.inj taken
    obtain ⟨field, -, rfl⟩ := List.mem_map.mp inside
    simp [levels_toValue]
  | _ => contradiction

end Value

/-- No value among the fields is nested deeper. -/
def Fields.Within (depth : Nat) (fields : Fields) : Prop := ∀ field ∈ fields, field.2.levels ≤ depth

namespace Fields.Within

variable {fields updates : Fields} {key : Key} {value : Value} {name : String} {depth : Nat}

theorem of_object (bound : (Value.object fields).levels ≤ depth + 1) : Within depth fields :=
  Value.fieldsLevels_le_iff.mp bound

theorem levels_get?_le (within : Within depth fields) (found : fields.get? name = some value) :
    value.levels ≤ depth := by
  induction fields with
  | nil => contradiction
  | cons field fields ih =>
    obtain ⟨here, later⟩ := List.forall_mem_cons.mp within
    simp only [get?_cons] at found
    split at found
    · exact Option.some.inj found ▸ here
    · exact ih later found

theorem set (within : Within depth fields) (bound : value.levels ≤ depth) :
    Within depth (fields.set key value) := by
  induction fields with
  | nil => exact List.forall_mem_singleton.mpr bound
  | cons field fields ih =>
    obtain ⟨here, later⟩ := List.forall_mem_cons.mp within
    simp only [Fields.set]
    split
    · exact List.forall_mem_cons.mpr ⟨bound, later⟩
    · exact List.forall_mem_cons.mpr ⟨here, ih later⟩

theorem setAll (within : Within depth fields) (bound : Within depth updates) :
    Within depth (fields.setAll updates) := by
  induction updates generalizing fields with
  | nil => exact within
  | cons update updates ih =>
    obtain ⟨here, later⟩ := List.forall_mem_cons.mp bound
    exact ih (within.set here) later

theorem erase (within : Within depth fields) : Within depth (fields.erase name) :=
  fun field kept => within field (List.mem_filter.mp kept).1

theorem addItem {item : Value} {index : Nat} {added : Fields} (within : Within depth fields)
    (bound : item.levels ≤ depth) (ok : addItem fields index item = .ok added) :
    Within depth added := by
  simp only [QueryLint.addItem] at ok
  split at ok
  · contradiction
  · rename_i key value taken
    have shallow := Value.levels_part_le taken (List.mem_cons_of_mem key List.mem_cons_self)
    split at ok
    · contradiction
    · obtain rfl := Except.ok.inj ok
      apply within.set
      omega
  · contradiction

theorem addItems {items : List Value} {index : Nat} {added : Fields} (within : Within depth fields)
    (bound : ∀ item ∈ items, item.levels ≤ depth) (ok : addItems fields index items = .ok added) :
    Within depth added := by
  induction items generalizing fields index with
  | nil => exact Except.ok.inj ok ▸ within
  | cons item items ih =>
    obtain ⟨here, later⟩ := List.forall_mem_cons.mp bound
    simp only [QueryLint.addItems, bind, Except.bind] at ok
    split at ok
    · contradiction
    · rename_i middle first
      exact ih (within.addItem here first) later ok

theorem of_toFields (taken : value.toFields = .ok fields) : Within (value.levels - 1) fields := by
  simp only [Value.toFields] at taken
  split at taken
  · obtain rfl := Except.ok.inj taken
    exact of_object (by omega)
  · split at taken
    · rename_i items parts
      refine addItems (fun _ inside => absurd inside List.not_mem_nil) ?_ taken
      intro item inside
      exact Value.levels_part_le parts inside
    · contradiction

theorem flatten (within : Within depth fields) : Within depth (Settings.flatten fields) := by
  simp only [Settings.flatten]
  split
  · rename_i inner found
    have bound := within.levels_get?_le found
    have shallow : Within depth inner := of_object (Nat.le_succ_of_le bound)
    exact within.erase.setAll shallow
  · exact within

theorem mono {limit : Nat} (within : Within depth fields) (reach : depth ≤ limit) :
    Within limit fields :=
  fun field inside => Nat.le_trans (within field inside) reach

theorem levels_getD_le {default : Value} (within : Within depth fields)
    (bound : default.levels ≤ depth) : ((fields.get? name).getD default).levels ≤ depth := by
  cases found : fields.get? name with
  | none => exact bound
  | some value => exact within.levels_get?_le found

theorem levels_ruleSettings_le (within : Within depth fields) :
    (RuleSettings.ofFields fields).toValue.levels ≤ depth + 1 := by
  apply Value.fieldsLevels_le_iff.mpr
  simp only [List.forall_mem_cons]
  refine ⟨within.levels_getD_le ?_, within.levels_getD_le ?_, within.levels_getD_le ?_,
    List.forall_mem_nil _⟩ <;> exact Nat.zero_le _

theorem levels_ruleSection_le (within : Within depth fields) (some : 1 ≤ depth) :
    (RuleSection.ofValue? (fields.get? name)).toValue.levels ≤ depth := by
  cases found : fields.get? name with
  | none => exact some
  | some value =>
    have bound := within.levels_get?_le found
    cases value with
    | object inner =>
      obtain ⟨depth, rfl⟩ := Nat.exists_eq_succ_of_ne_zero (Nat.ne_zero_of_lt some)
      exact (of_object bound).levels_ruleSettings_le
    | _ => exact bound

theorem levels_settings_le (within : Within depth fields) (some : 1 ≤ depth) :
    (Settings.ofFields fields).toValue.levels ≤ depth + 1 := by
  apply Value.fieldsLevels_le_iff.mpr
  simp only [List.forall_mem_cons]
  refine ⟨within.levels_getD_le ?_, within.levels_getD_le ?_, within.levels_ruleSection_le some,
    within.levels_getD_le ?_, List.forall_mem_nil _⟩ <;> exact Nat.zero_le _

end Fields.Within

namespace Settings

variable {value : Value} {settings : Settings}

theorem exists_fields (read : ofValue value = .ok settings) :
    ∃ fields, value.toFields = .ok fields ∧ settings = ofFields (flatten fields) := by
  simp only [ofValue] at read
  cases taken : value.toFields with
  | error fault => simp [taken, Except.map] at read
  | ok fields =>
    simp only [taken, Except.map, Except.ok.injEq] at read
    exact ⟨fields, rfl, read.symm⟩

/-- Settings are nested no deeper than what they were read from, or than their defaults. -/
theorem levels_toValue_le (read : ofValue value = .ok settings) :
    settings.toValue.levels ≤ max value.levels 2 := by
  obtain ⟨fields, taken, rfl⟩ := exists_fields read
  have shallow := (Fields.Within.of_toFields taken).flatten.mono (Nat.le_max_left _ 1)
  have bound := shallow.levels_settings_le (Nat.le_max_right _ 1)
  omega

theorem write_eq_ok_iff [Nesting] {written : Value} :
    settings.write = .ok written ↔
      settings.toValue.levels ≤ Nesting.half ∧ written = settings.toValue := by
  by_cases shallow : settings.toValue.levels ≤ Nesting.half
  · simp [write, shallow, eq_comm]
  · simp [write, shallow]

/-- What is kept of a rules section as it is was no object, so it is taken for the same again. -/
theorem ofValue?_toValue {stated : Option Value} :
    RuleSection.ofValue? (some (RuleSection.ofValue? stated).toValue) =
      RuleSection.ofValue? stated := by
  obtain ⟨rules, object⟩ | ⟨value, rfl, other⟩ := object_or_other stated
  · simp only [ofValue?_of_object object]
    rfl
  · simp only [ofValue?_of_other other, RuleSection.toValue]

theorem ofValue_toValue (fields : Fields) :
    ofValue (ofFields fields).toValue = .ok (ofFields fields) := by
  have again := @ofValue?_toValue (fields.get? "rules")
  generalize whole : ofFields fields = settings
  have rules : settings.rules = RuleSection.ofValue? (fields.get? "rules") := by
    simp only [← whole, ofFields]
  rw [← rules] at again
  show Except.ok (Settings.mk settings.maxWorkers settings.severityThreshold
    (RuleSection.ofValue? (some settings.rules.toValue)) settings.logLevel) = .ok settings
  rw [again]

/-- The log level is all that an engine is not made from. -/
theorem engineFields_of_rules {rules : RuleSettings} (kept : settings.rules = .rules rules) :
    ∃ fields, settings.toValue = .object fields ∧
      settings.engineFields = .ok (Fields.erase fields "log_level") := by
  refine ⟨_, rfl, ?_⟩
  simp [engineFields, kept, Fields.erase, RuleSection.toValue]

/-- Accepted settings that are written out are read back as they are, and without their log level
they are what an engine is made from. They can be written out where there is room for the levels
of the value they come from, and fail to be only for want of room. -/
theorem ofValue_write [Nesting] (read : ofValue value = .ok settings) :
    (∀ written, settings.write = .ok written →
      ofValue written = .ok settings ∧
      (ofValue written >>= engineFields) = settings.engineFields ∧
      ∀ rules, settings.rules = .rules rules →
        ∃ fields, written = .object fields ∧
          settings.engineFields = .ok (Fields.erase fields "log_level")) ∧
    (max value.levels 2 ≤ Nesting.half → ∃ written, settings.write = .ok written) ∧
    ∀ fault, settings.write = .error fault → fault = .tooDeep .copying := by
  refine ⟨fun written done => ?_, fun room => ?_, fun fault failed => ?_⟩
  · obtain ⟨-, rfl⟩ := write_eq_ok_iff.mp done
    have again : ofValue settings.toValue = .ok settings := by
      obtain ⟨fields, -, rfl⟩ := exists_fields read
      exact ofValue_toValue (flatten fields)
    refine ⟨again, ?_, fun rules kept => engineFields_of_rules kept⟩
    rw [again]
    rfl
  · exact ⟨_, write_eq_ok_iff.mpr ⟨Nat.le_trans (levels_toValue_le read) room, rfl⟩⟩
  · rw [write] at failed
    split at failed
    · contradiction
    · exact (Except.error.inj failed).symm

end Settings

/-- A value inside some lists. -/
def nested : Nat → Value
  | 0 => .null
  | depth + 1 => .list [nested depth]

theorem levels_nested (depth : Nat) : (nested depth).levels = depth := by
  induction depth with
  | zero => rfl
  | succ depth ih => simp [nested, Value.levels, Value.itemsLevels, ih]

namespace Settings

/-- Pairs of which a later one wins, two unknown names, and a value that is nested deep. -/
def pairedSettings : Value := .list [
  .list [.text "max_workers", .int 1],
  .list [.text "rules", .object [("disabled", .texts ["X"]), ("only", .bool true)]],
  .list [.text "max_workers", nested 490],
  .text "no"]

theorem pairedSettings_written :
    ∃ settings, ofValue pairedSettings = .ok settings ∧
      settings.maxWorkers = nested 490 ∧ settings.rules = .rules { disabled := .texts ["X"] } ∧
      ∃ fields, settings.write = .ok (.object fields) ∧ ofValue (.object fields) = .ok settings ∧
        settings.engineFields = .ok (Fields.erase fields "log_level") := by
  have read : ofValue pairedSettings = .ok
      { maxWorkers := nested 490, rules := .rules { disabled := .texts ["X"] } } := by
    rfl
  have shallow : max pairedSettings.levels 2 ≤ Nesting.half := by
    simp [pairedSettings, Value.levels, Value.itemsLevels, Value.fieldsLevels, levels_nested,
      Value.texts, Nesting.half, Nesting.room]
  obtain ⟨reads, writes, -⟩ := ofValue_write read
  obtain ⟨written, done⟩ := writes shallow
  obtain ⟨again, -, engine⟩ := reads written done
  obtain ⟨fields, rfl, made⟩ := engine _ rfl
  exact ⟨_, read, rfl, rfl, fields, done, again, made⟩

/-- However much room there is, some settings are accepted and cannot be written out. -/
theorem deep_settings_unwritten :
    ¬ ∃ _ : Nesting, ∀ value settings, ofValue value = .ok settings →
      ∃ written, settings.write = .ok written ∧ ofValue written = .ok settings := by
  rintro ⟨nesting, writes⟩
  have read : ofValue (.object [("max_workers", nested nesting.room)]) =
      .ok { maxWorkers := nested nesting.room } :=
    rfl
  obtain ⟨written, done, -⟩ := writes _ _ read
  have deep : Nesting.half < (Settings.toValue { maxWorkers := nested nesting.room }).levels := by
    simp only [toValue, Value.levels, Value.fieldsLevels, levels_nested, Nesting.half]
    omega
  exact absurd (write_eq_ok_iff.mp done).1 (Nat.not_le.mpr deep)

end Settings

end QueryLint
