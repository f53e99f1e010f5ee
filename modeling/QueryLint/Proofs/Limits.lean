import QueryLint.Limits

/-! Which values can be gone through: those with room for their levels whose integers are all short
enough to be written. -/
namespace QueryLint

def Key.integers : Key → List Int
  | .int n => [n]
  | _ => []

namespace Value

mutual

/-- The integers anywhere in a value, keys included. -/
def integers : Value → List Int
  | int n => [n]
  | list items => itemsIntegers items
  | object fields => fieldsIntegers fields
  | _ => []

def itemsIntegers : List Value → List Int
  | [] => []
  | item :: items => item.integers ++ itemsIntegers items

def fieldsIntegers : List (Key × Value) → List Int
  | [] => []
  | (key, value) :: fields => key.integers ++ value.integers ++ fieldsIntegers fields

end

/-- There is room for the levels of the value, and all its integers can be written. -/
def Fits [Nesting] (value : Value) : Prop :=
  value.levels ≤ Nesting.room ∧ ∀ n ∈ value.integers, n.natAbs < Nat.pow 10 digitLimit

instance [Nesting] (value : Value) : Decidable value.Fits :=
  inferInstanceAs (Decidable (_ ∧ _))

/-- Why a value cannot be gone through. -/
inductive Hinders [Nesting] (value : Value) (passage : Passage) : Fault → Prop where
  | deep : Nesting.room < value.levels → Hinders value passage (.tooDeep passage)
  | long {n : Int} : n ∈ value.integers → Nat.pow 10 digitLimit ≤ n.natAbs →
      Hinders value passage (.unshowable digitLimit)

end Value

section Integers

variable {n : Int} {fault : Fault}

theorem overlong?_eq_none_iff : overlong? n = none ↔ n.natAbs < Nat.pow 10 digitLimit := by
  simp [overlong?]

theorem overlong?_of_long (long : Nat.pow 10 digitLimit ≤ n.natAbs) :
    overlong? n = some (.unshowable digitLimit) :=
  if_neg (Nat.not_lt.mpr long)

theorem overlong?_eq_some (found : overlong? n = some fault) :
    fault = .unshowable digitLimit ∧ Nat.pow 10 digitLimit ≤ n.natAbs := by
  by_cases short : n.natAbs < Nat.pow 10 digitLimit
  · rw [overlong?_eq_none_iff.mpr short] at found
    contradiction
  · have long := Nat.not_lt.mp short
    rw [overlong?_of_long long] at found
    exact ⟨(Option.some.inj found).symm, long⟩

theorem Key.overlong?_eq_none_iff {key : Key} :
    key.overlong? = none ↔ ∀ n ∈ key.integers, QueryLint.overlong? n = none := by
  cases key <;> simp [Key.overlong?, Key.integers]

theorem Key.overlong?_eq_some {key : Key} (found : key.overlong? = some fault) :
    ∃ n ∈ key.integers, QueryLint.overlong? n = some fault := by
  cases key with
  | int n => exact ⟨n, List.mem_cons_self, found⟩
  | _ => contradiction

end Integers

namespace Value

variable {passage : Passage} {fault : Fault}

mutual

theorem hindranceWithin?_eq_none_iff (room : Nat) : (value : Value) →
    (value.hindranceWithin? passage room = none ↔
      value.levels ≤ room ∧ ∀ n ∈ value.integers, overlong? n = none)
  | .int n => by simp [hindranceWithin?, levels, integers]
  | .list items => itemsHindrance?_eq_none_iff room items
  | .object fields => fieldsHindrance?_eq_none_iff room fields
  | .null | .bool _ | .floating _ | .text _ => by simp [hindranceWithin?, levels, integers]

theorem itemsHindrance?_eq_none_iff (room : Nat) : (items : List Value) →
    (itemsHindrance? passage room items = none ↔
      itemsLevels items ≤ room ∧ ∀ n ∈ itemsIntegers items, overlong? n = none)
  | [] => by simp [itemsHindrance?, itemsLevels, itemsIntegers]
  | item :: items => by
    have first := hindranceWithin?_eq_none_iff (room - 1) item
    have rest := itemsHindrance?_eq_none_iff room items
    rw [itemsHindrance?, itemsLevels, itemsIntegers, List.forall_mem_append]
    by_cases none : room = 0
    · simp [none]
    · have inner : item.levels + 1 ≤ room ↔ item.levels ≤ room - 1 := by omega
      rw [if_neg none, Option.or_eq_none_iff, first, rest, Nat.max_le, inner]
      exact and_and_and_comm

theorem fieldsHindrance?_eq_none_iff (room : Nat) : (fields : List (Key × Value)) →
    (fieldsHindrance? passage room fields = none ↔
      fieldsLevels fields ≤ room ∧ ∀ n ∈ fieldsIntegers fields, overlong? n = none)
  | [] => by simp [fieldsHindrance?, fieldsLevels, fieldsIntegers]
  | (key, value) :: fields => by
    have first := hindranceWithin?_eq_none_iff (room - 1) value
    have rest := fieldsHindrance?_eq_none_iff room fields
    rw [fieldsHindrance?, fieldsLevels, fieldsIntegers, List.forall_mem_append,
      List.forall_mem_append]
    by_cases none : room = 0
    · simp [none]
    · have inner : value.levels + 1 ≤ room ↔ value.levels ≤ room - 1 := by omega
      rw [if_neg none, Option.or_eq_none_iff, Option.or_eq_none_iff, Key.overlong?_eq_none_iff,
        first, rest, Nat.max_le, inner]
      constructor
      · rintro ⟨key, ⟨deep, item⟩, wide, rest⟩
        exact ⟨⟨deep, wide⟩, ⟨key, item⟩, rest⟩
      · rintro ⟨⟨deep, wide⟩, ⟨key, item⟩, rest⟩
        exact ⟨key, ⟨deep, item⟩, wide, rest⟩

end

mutual

theorem hindranceWithin?_eq_some (room : Nat) : (value : Value) →
    value.hindranceWithin? passage room = some fault →
      (fault = .tooDeep passage ∧ room < value.levels) ∨
        ∃ n ∈ value.integers, overlong? n = some fault
  | .int n => fun found => .inr ⟨n, List.mem_cons_self, found⟩
  | .list items => itemsHindrance?_eq_some room items
  | .object fields => fieldsHindrance?_eq_some room fields
  | .null | .bool _ | .floating _ | .text _ => nofun

theorem itemsHindrance?_eq_some (room : Nat) : (items : List Value) →
    itemsHindrance? passage room items = some fault →
      (fault = .tooDeep passage ∧ room < itemsLevels items) ∨
        ∃ n ∈ itemsIntegers items, overlong? n = some fault
  | [] => nofun
  | item :: items => fun found => by
    rw [itemsHindrance?] at found
    simp only [itemsLevels, itemsIntegers, List.mem_append]
    split at found
    next none => exact .inl ⟨(Option.some.inj found).symm, by omega⟩
    next =>
      rcases Option.or_eq_some_iff.mp found with first | ⟨-, later⟩
      · rcases hindranceWithin?_eq_some (room - 1) item first with ⟨rfl, deep⟩ | ⟨n, inside, long⟩
        · exact .inl ⟨rfl, by omega⟩
        · exact .inr ⟨n, .inl inside, long⟩
      · rcases itemsHindrance?_eq_some room items later with ⟨rfl, deep⟩ | ⟨n, inside, long⟩
        · exact .inl ⟨rfl, by omega⟩
        · exact .inr ⟨n, .inr inside, long⟩

theorem fieldsHindrance?_eq_some (room : Nat) : (fields : List (Key × Value)) →
    fieldsHindrance? passage room fields = some fault →
      (fault = .tooDeep passage ∧ room < fieldsLevels fields) ∨
        ∃ n ∈ fieldsIntegers fields, overlong? n = some fault
  | [] => nofun
  | (key, value) :: fields => fun found => by
    rw [fieldsHindrance?] at found
    simp only [fieldsLevels, fieldsIntegers, List.mem_append]
    split at found
    next none => exact .inl ⟨(Option.some.inj found).symm, by omega⟩
    next =>
      rcases Option.or_eq_some_iff.mp found with named | ⟨-, held⟩
      · obtain ⟨n, inside, long⟩ := Key.overlong?_eq_some named
        exact .inr ⟨n, .inl (.inl inside), long⟩
      rcases Option.or_eq_some_iff.mp held with first | ⟨-, later⟩
      · rcases hindranceWithin?_eq_some (room - 1) value first with ⟨rfl, deep⟩ | ⟨n, inside, long⟩
        · exact .inl ⟨rfl, by omega⟩
        · exact .inr ⟨n, .inl (.inr inside), long⟩
      · rcases fieldsHindrance?_eq_some room fields later with ⟨rfl, deep⟩ | ⟨n, inside, long⟩
        · exact .inl ⟨rfl, by omega⟩
        · exact .inr ⟨n, .inr inside, long⟩

end

variable [Nesting] {value : Value}

theorem hindrance?_eq_none_iff : value.hindrance? passage = none ↔ value.Fits := by
  rw [hindrance?, hindranceWithin?_eq_none_iff, Fits]
  simp only [overlong?_eq_none_iff]

theorem fits_of_free (free : value.hindrance? .showing = none) : value.Fits :=
  hindrance?_eq_none_iff.mp free

theorem hinders_of_hindrance? (found : value.hindrance? passage = some fault) :
    value.Hinders passage fault := by
  rcases hindranceWithin?_eq_some Nesting.room value found with ⟨rfl, deep⟩ | ⟨n, inside, long⟩
  · exact .deep deep
  · obtain ⟨rfl, digits⟩ := overlong?_eq_some long
    exact .long inside digits

/-- A value that cannot be gone through stops the passage, for a reason that the value gives. -/
theorem exists_hindrance? (unfit : ¬ value.Fits) (passage : Passage) :
    ∃ fault, value.Hinders passage fault ∧ value.hindrance? passage = some fault := by
  obtain ⟨fault, found⟩ :=
    Option.ne_none_iff_exists'.mp fun none => unfit (hindrance?_eq_none_iff.mp none)
  exact ⟨fault, hinders_of_hindrance? found, found⟩

end Value

end QueryLint
