import Mathlib.Data.List.Induction
import QueryLint.Settings.Files

/-! The nearest settings file. The search goes up from a directory to below the root and stops in
the first directory that holds a settings file; which of several names it takes there is a matter
of their order only within that directory. -/
namespace QueryLint

section Search

variable {present : List String → Bool} {start above directory path : List String}
  {last name : String}

/-- The directory itself and those above it are searched, the root is not. -/
structure Searched (start directory : List String) : Prop where
  above : directory <+: start
  inner : directory ≠ []

/-- No settings file is in the directory. -/
def Bare (present : List String → Bool) (directory : List String) : Prop :=
  ∀ name ∈ settingsFileNames, present (directory ++ [name]) = false

/-- The name of a settings file in the directory, while none of the names before it has one. -/
structure IsFirst (present : List String → Bool) (directory : List String) (name : String) :
    Prop where
  here : present (directory ++ [name])
  first : ∃ earlier later, settingsFileNames = earlier ++ name :: later ∧
    ∀ other ∈ earlier, present (directory ++ [other]) = false

/-- The directory and the name of the settings file that is nearest to a directory. -/
structure IsNearest (present : List String → Bool) (start directory : List String) (name : String) :
    Prop where
  searched : Searched start directory
  isFirst : IsFirst present directory name
  nearest : ∀ nearer, Searched start nearer → directory <+: nearer → nearer ≠ directory →
    Bare present nearer

theorem settingsFileIn?_eq_none_iff :
    settingsFileIn? present directory = none ↔ Bare present directory := by
  simp [settingsFileIn?, Bare]

theorem settingsFileIn?_eq_some_iff :
    settingsFileIn? present directory = some path ↔
      ∃ name, path = directory ++ [name] ∧ IsFirst present directory name := by
  simp only [settingsFileIn?, List.find?_map, Option.map_eq_some_iff, List.find?_eq_some_iff_append]
  constructor
  · rintro ⟨name, ⟨here, earlier, later, split, absent⟩, rfl⟩
    exact ⟨name, rfl, here, earlier, later, split, by simpa using absent⟩
  · rintro ⟨name, rfl, here, earlier, later, split, absent⟩
    exact ⟨name, ⟨here, earlier, later, split, by simpa using absent⟩, rfl⟩

theorem nearestSettings?_root : nearestSettings? present [] = none := rfl

/-- One step of the search: a directory first, then from the one above it. -/
theorem nearestSettings?_concat :
    nearestSettings? present (above ++ [last]) =
      (settingsFileIn? present (above ++ [last])).or (nearestSettings? present above) := by
  simp [nearestSettings?, nearestFrom?]

theorem not_searched_root : ¬ Searched [] directory :=
  fun searched => searched.inner (List.prefix_nil.mp searched.above)

theorem searched_concat_iff :
    Searched (above ++ [last]) directory ↔
      directory = above ++ [last] ∨ Searched above directory := by
  constructor
  · rintro ⟨leads, inner⟩
    rcases List.prefix_concat_iff.mp leads with whole | leads
    · exact .inl whole
    · exact .inr ⟨leads, inner⟩
  · rintro (rfl | ⟨leads, inner⟩)
    · exact ⟨List.prefix_rfl, by simp⟩
    · exact ⟨List.prefix_concat_iff.mpr (.inr leads), inner⟩

theorem isNearest_concat_iff :
    IsNearest present (above ++ [last]) directory name ↔
      directory = above ++ [last] ∧ IsFirst present directory name ∨
      Bare present (above ++ [last]) ∧ IsNearest present above directory name := by
  constructor
  · rintro ⟨searched, isFirst, nearest⟩
    rcases searched_concat_iff.mp searched with whole | further
    · exact .inl ⟨whole, isFirst⟩
    · refine .inr ⟨?_, further, isFirst, fun nearer between => ?_⟩
      · apply nearest _ (searched_concat_iff.mpr (.inl rfl)) searched.above
        rintro rfl
        have short := further.above.length_le
        simp only [List.length_append, List.length_singleton] at short
        omega
      · exact nearest nearer (searched_concat_iff.mpr (.inr between))
  · rintro (⟨rfl, isFirst⟩ | ⟨bare, further, isFirst, nearest⟩)
    · refine ⟨searched_concat_iff.mpr (.inl rfl), isFirst, fun nearer between leads apart => ?_⟩
      exact absurd (between.above.eq_of_length_le leads.length_le) apart
    · refine ⟨searched_concat_iff.mpr (.inr further), isFirst, fun nearer between leads apart => ?_⟩
      rcases searched_concat_iff.mp between with rfl | between
      · exact bare
      · exact nearest nearer between leads apart

theorem nearestSettings?_eq_none_iff :
    nearestSettings? present start = none ↔
      ∀ directory, Searched start directory → Bare present directory := by
  induction start using List.reverseRecOn with
  | nil => simp [nearestSettings?_root, not_searched_root]
  | append_singleton above last ih =>
    simp only [nearestSettings?_concat, Option.or_eq_none_iff, settingsFileIn?_eq_none_iff, ih,
      searched_concat_iff]
    grind

theorem nearestSettings?_eq_some_iff :
    nearestSettings? present start = some path ↔
      ∃ directory name, path = directory ++ [name] ∧ IsNearest present start directory name := by
  induction start using List.reverseRecOn with
  | nil =>
    simp only [nearestSettings?_root, reduceCtorEq, false_iff]
    rintro ⟨directory, name, -, nearest⟩
    exact not_searched_root nearest.searched
  | append_singleton above last ih =>
    simp only [nearestSettings?_concat, Option.or_eq_some_iff, settingsFileIn?_eq_none_iff,
      settingsFileIn?_eq_some_iff, ih, isNearest_concat_iff]
    grind

end Search

namespace FileTree

variable {tree : FileTree} {start : List String} {text : String}

/-- It can be told whether the settings files of a directory are there, since their paths are not
too long. -/
def Answers (tree : FileTree) (directory : List String) : Prop :=
  ∀ name ∈ settingsFileNames, ∃ entry, tree.open? ⟨true, directory ++ [name]⟩ = .ok entry

theorem findSettings?_of_answers (resolved : tree.resolve (.ofString text) = .ok start)
    (answers : tree.Answers start) :
    tree.findSettings? text =
      .ok (nearestSettings? (fun path => (tree.find? path).isSome) start) := by
  obtain ⟨⟨_, yaml⟩, ⟨_, yml⟩, ⟨_, json⟩, -⟩ := by
    simpa only [Answers, settingsFileNames, List.forall_mem_cons] using answers
  simp only [findSettings?, resolved, settingsFileNames, List.mapM_cons, List.mapM_nil, yaml, yml,
    json, bind, Except.bind, pure, Except.pure]

/-- The search finds the settings file that is nearest to the start, for whatever files there are
and from however deep it starts, and finds none just where none is in the start or above it, the
root aside. Among directories and files it starts where a written path leads. -/
theorem findSettings?_nearest (present : List String → Bool) (start : List String) :
    (∀ path, nearestSettings? present start = some path ↔
      ∃ directory name, path = directory ++ [name] ∧ IsNearest present start directory name) ∧
    (nearestSettings? present start = none ↔
      ∀ directory, Searched start directory → Bare present directory) ∧
    ∀ (tree : FileTree) (text : String), tree.resolve (.ofString text) = .ok start →
      tree.Answers start → (∀ path, (tree.find? path).isSome = present path) →
      tree.findSettings? text = .ok (nearestSettings? present start) := by
  refine ⟨fun path => nearestSettings?_eq_some_iff, nearestSettings?_eq_none_iff, ?_⟩
  intro tree text resolved answers known
  simp only [findSettings?_of_answers resolved answers, known]

/-- Settings files at the root, in two directories below one another, and two of them in the lower
one, where the first name is missing. -/
def layeredTree : FileTree where
  entries := [
    ([".sqlinterp.yaml"], .file ""),
    (["srv", ".sqlinterp.yaml"], .file ""),
    (["srv", "job", ".sqlinterp.json"], .file ""),
    (["srv", "job", ".sqlinterp.yml"], .directory),
    (["srv", "job", "lib", "sql"], .directory)]
  here := ["srv", "job", "lib"]

theorem layeredTree_nearest :
    layeredTree.resolve (.ofString "./sql/../sql") = .ok ["srv", "job", "lib", "sql"] ∧
    layeredTree.findSettings? "./sql/../sql" = .ok (some ["srv", "job", ".sqlinterp.yml"]) := by
  have resolved : layeredTree.resolve (.ofString "./sql/../sql") =
      .ok ["srv", "job", "lib", "sql"] := by
    rfl
  have answers : layeredTree.Answers ["srv", "job", "lib", "sql"] := by
    simp only [Answers, settingsFileNames, List.forall_mem_cons]
    exact ⟨⟨none, rfl⟩, ⟨none, rfl⟩, ⟨none, rfl⟩, List.forall_mem_nil _⟩
  obtain ⟨found, -, searches⟩ := findSettings?_nearest (fun path => (layeredTree.find? path).isSome)
    (["srv", "job", "lib"] ++ ["sql"])
  refine ⟨resolved, (searches _ _ resolved answers fun _ => rfl).trans (congrArg Except.ok ?_)⟩
  apply (found _).mpr
  refine ⟨["srv", "job"], ".sqlinterp.yml", rfl, isNearest_concat_iff.mpr (.inr ⟨?_, ?_⟩)⟩
  · simp only [Bare, settingsFileNames, List.forall_mem_cons]
    exact ⟨rfl, rfl, rfl, List.forall_mem_nil _⟩
  · refine (@isNearest_concat_iff _ ["srv", "job"] _ "lib" _).mpr (.inr ⟨?_, ?_⟩)
    · simp only [Bare, settingsFileNames, List.forall_mem_cons]
      exact ⟨rfl, rfl, rfl, List.forall_mem_nil _⟩
    · apply (@isNearest_concat_iff _ ["srv"] _ "job" _).mpr
      exact .inl ⟨rfl, rfl, [".sqlinterp.yaml"], [".sqlinterp.json"], rfl,
        List.forall_mem_singleton.mpr rfl⟩

end FileTree

end QueryLint
