import QueryLint.Proofs.Limits
import QueryLint.Proofs.Registry.Run
import QueryLint.Rule.Scripted

/-! Ids that are registered again. The new rule takes the place of the old one, but neither the
instances of the old rule nor its being off by default go away with it: requests that were
answered before are answered by the old rule, and an id that was ever off stays off. -/
namespace QueryLint.Registry

variable {rule : Rule} {id : String} {config other : Value} {requests : List Request}

theorem instance?_congr (registry : Registry) (id : String) (same : config.plain = other.plain) :
    registry.instance? id config = registry.instance? id other := by
  simp only [instance?, same]

theorem rule?_after_empty (requests : List Request) (id : String) :
    (after requests {}).rule? id = latest requests id := by
  rw [rule?_after]
  exact Option.or_none

/-- A grant for the same id and settings is what is handed out again. -/
theorem instance?_of_grant {grant : Grant} (granted : grant ∈ grants requests {})
    (named : grant.id = id) (same : grant.config.plain = config.plain) :
    (after requests {}).instance? id config = some grant.made := by
  rw [← named, ← instance?_congr _ _ same]
  exact kept_of_grant requests {} granted

theorem exists_grant {self : RuleInstance}
    (kept : (after requests {}).instance? id config = some self) :
    ∃ grant ∈ grants requests {}, grant.made = self ∧ grant.id = id ∧
      grant.config.plain = config.plain := by
  rcases mem_instances_after requests {} (List.mem_of_find?_eq_some kept) with
    old | ⟨grant, granted, rfl⟩
  · contradiction
  · obtain ⟨named, same⟩ := instance?_some kept
    obtain ⟨named', same'⟩ := instance?_some (kept_of_grant requests {} granted)
    exact ⟨grant, granted, rfl, named'.symm.trans named, same'.symm.trans same⟩

theorem get_of_latest [Nesting] (fits : config.Fits) (last : latest requests id = some rule) :
    (after requests {}).get id config = .ok (some ((after requests {}).provide rule config).1,
      ((after requests {}).provide rule config).2) :=
  get_known ((rule?_after_empty requests id).trans last) (Value.hindrance?_eq_none_iff.mpr fits)

theorem get_of_unfit [Nesting] (unfit : ¬ config.Fits) (last : latest requests id = some rule) :
    ∃ fault, config.Hinders .showing fault ∧ (after requests {}).get id config = .error fault := by
  obtain ⟨fault, hinders, hindered⟩ := Value.exists_hindrance? unfit .showing
  exact ⟨fault, hinders, get_hindered ((rule?_after_empty requests id).trans last) hindered⟩

/-- The instance for an id and settings is the one that was handed out for them before, whatever
was registered since. It is of the last rule of the id exactly if no instance of an earlier rule
was handed out for them. -/
theorem get_latest_iff [Nesting] (last : latest requests id = some rule) :
    (¬ config.Fits →
      ∃ fault, config.Hinders .showing fault ∧ (after requests {}).get id config = .error fault) ∧
    (config.Fits → ∃ self later, (after requests {}).get id config = .ok (some self, later) ∧
      self.id = id ∧ self.config.plain = config.plain ∧
      (∀ grant ∈ grants requests {}, grant.id = id → grant.config.plain = config.plain →
        self = grant.made) ∧
      (self.rule = rule ↔ ∀ grant ∈ grants requests {}, grant.id = id →
        grant.config.plain = config.plain → grant.made.rule = rule)) := by
  refine ⟨fun unfit => get_of_unfit unfit last, fun fits => ?_⟩
  refine ⟨_, _, get_of_latest fits last, ?_⟩
  have key := (latest_some last).2
  rcases provide_cases (after requests {}) rule config with ⟨self, kept, provided⟩ | ⟨absent, provided⟩
  · rw [provided]
    rw [key] at kept
    obtain ⟨named, same⟩ := instance?_some kept
    have again : ∀ grant ∈ grants requests {}, grant.id = id →
        grant.config.plain = config.plain → self = grant.made := by
      intro grant granted id config
      exact Option.some.inj (kept.symm.trans (instance?_of_grant granted id config))
    refine ⟨named, same, again, ?_, fun every => ?_⟩
    · intro current grant granted id config
      rw [← again grant granted id config]
      exact current
    · obtain ⟨grant, granted, rfl, id, config⟩ := exists_grant kept
      exact every grant granted id config
  · rw [provided]
    rw [key] at absent
    have first : ∀ grant ∈ grants requests {}, grant.id = id →
        grant.config.plain ≠ config.plain := by
      intro grant granted id config
      rw [instance?_of_grant granted id config] at absent
      contradiction
    refine ⟨key, rfl, fun grant granted id config => absurd config (first grant granted id), ?_⟩
    exact iff_of_true rfl fun grant granted id config => absurd config (first grant granted id)

/-- A rule by the same id as others, told apart by its name. -/
def namesake (name : String) (enabled : Bool) : Rule :=
  .quiet {
    id := "Trial"
    name
    description := ""
    severity := .low
    confidence := .low
    category := .injection
    appliesTo := TokenKind.literals
    enabledByDefault := enabled }

/-- An instance is asked for between two registrations. -/
def renewal : List Request :=
  [.register (namesake "first" true), .get "Trial" .null, .register (namesake "second" true)]

theorem renewal_latest : latest renewal "Trial" = some (namesake "second" true) := rfl

theorem namesake_injective {name other : String} {enabled : Bool}
    (same : namesake name enabled = namesake other enabled) : name = other :=
  congrArg (fun rule => rule.metadata.name) same

/-- With other settings the new rule is found, with the old ones it is not. -/
theorem renewal_get :
    (∃ self later, (after renewal {}).get "Trial" (.object []) = .ok (some self, later) ∧
      self.rule = namesake "second" true) ∧
    ∃ self later, (after renewal {}).get "Trial" .null = .ok (some self, later) ∧
      self.rule ≠ namesake "second" true := by
  obtain ⟨self, later, got, _, _, _, renewed⟩ :=
    (@get_latest_iff _ "Trial" (.object []) renewal _ renewal_latest).2 (Value.fits_of_free rfl)
  obtain ⟨self', later', got', _, _, _, renewed'⟩ :=
    (@get_latest_iff _ "Trial" .null renewal _ renewal_latest).2 (Value.fits_of_free rfl)
  refine ⟨⟨self, later, got, renewed.mpr ?_⟩, self', later', got', fun last => ?_⟩
  · intro grant granted _ same
    rw [List.mem_singleton.mp granted] at same
    exact absurd same (by decide)
  · have stale := renewed'.mp last ⟨"Trial", .null, 0, namesake "first" true, .null⟩
      List.mem_cons_self rfl rfl
    exact absurd (namesake_injective stale) (by decide)

/-- The last registration does not always decide. -/
theorem stale_instance_stays :
    ¬ ∃ _ : Nesting, ∀ requests id config rule, Value.Fits config →
      latest requests id = some rule →
        ∃ self later, (after requests {}).get id config = .ok (some self, later) ∧
          self.rule = rule := by
  rintro ⟨room, renews⟩
  obtain ⟨self, later, got, last⟩ :=
    renews renewal "Trial" .null _ (Value.fits_of_free rfl) renewal_latest
  have kept : (after renewal {}).get "Trial" .null =
      .ok (some ⟨0, namesake "first" true, .null⟩, after renewal {}) := rfl
  rw [kept] at got
  have same := Option.some.inj (Prod.mk.inj (Except.ok.inj got)).1
  rw [← same] at last
  exact absurd (namesake_injective last) (by decide)

theorem isEnabled_iff (registry : Registry) (id : String) :
    registry.isEnabled id ↔ (registry.rule? id).isSome ∧ id ∉ registry.off := by
  simp [isEnabled, mem_ids]

/-- An id is on if it is registered and was never registered as off by default. So it is on as its
last rule says unless that one is on and an earlier one was off. -/
theorem isEnabled_after (requests : List Request) (id : String) :
    ((after requests {}).isEnabled id ↔ (∃ rule, latest requests id = some rule) ∧
      ∀ rule ∈ registered requests, rule.metadata.id = id → rule.metadata.enabledByDefault) ∧
    (((after requests {}).isEnabled id ↔
        ∃ rule, latest requests id = some rule ∧ rule.metadata.enabledByDefault) ↔
      ∀ rule, latest requests id = some rule → rule.metadata.enabledByDefault →
        ∀ earlier ∈ registered requests, earlier.metadata.id = id →
          earlier.metadata.enabledByDefault) := by
  have enabled : (after requests {}).isEnabled id ↔ (∃ rule, latest requests id = some rule) ∧
      ∀ rule ∈ registered requests, rule.metadata.id = id → rule.metadata.enabledByDefault := by
    rw [isEnabled_iff, rule?_after_empty, mem_off_after, Option.isSome_iff_exists]
    simp
  refine ⟨enabled, ?_⟩
  rw [enabled]
  constructor
  · intro follows rule last on
    exact (follows.mpr ⟨rule, last, on⟩).2
  · intro never
    constructor
    · rintro ⟨⟨rule, last⟩, every⟩
      obtain ⟨inside, named⟩ := latest_some last
      exact ⟨rule, last, every rule inside named⟩
    · rintro ⟨rule, last, on⟩
      exact ⟨⟨rule, last⟩, never rule last on⟩

/-- Registering an id as on does not turn it on again. -/
theorem off_stays_off :
    ¬ ∀ requests id, (after requests {}).isEnabled id ↔
      ∃ rule, latest requests id = some rule ∧ rule.metadata.enabledByDefault := by
  intro follows
  have on := (follows [.register (namesake "first" false), .register (namesake "second" true)]
    "Trial").mpr ⟨namesake "second" true, rfl, rfl⟩
  exact absurd on (by decide)

end QueryLint.Registry
