/-! Finite sets of names, kept as strictly increasing lists. Sets with the same members are
equal. -/
namespace QueryLint

def insertName (name : String) : List String → List String
  | [] => [name]
  | head :: tail =>
    if name < head then name :: head :: tail
    else if name = head then head :: tail
    else head :: insertName name tail

theorem mem_insertName {name other : String} {names : List String} :
    other ∈ insertName name names ↔ other = name ∨ other ∈ names := by
  induction names with
  | nil => simp [insertName]
  | cons head tail ih =>
    simp only [insertName]
    split
    · simp
    · split <;> simp_all
      grind

theorem lt_of_not_lt_of_ne {name other : String} (above : ¬ name < other)
    (apart : name ≠ other) : other < name := by
  refine Classical.byContradiction fun below => apart ?_
  exact String.le_antisymm (String.not_lt.mp below) (String.not_lt.mp above)

theorem pairwise_insertName {name : String} {names : List String}
    (sorted : names.Pairwise (· < ·)) : (insertName name names).Pairwise (· < ·) := by
  induction names with
  | nil => simp [insertName]
  | cons head tail ih =>
    obtain ⟨first, rest⟩ := List.pairwise_cons.mp sorted
    simp only [insertName]
    split
    · rename_i below
      refine List.pairwise_cons.mpr ⟨fun other member => ?_, sorted⟩
      rcases List.mem_cons.mp member with rfl | later
      · exact below
      · exact String.lt_trans below (first other later)
    · split
      · exact sorted
      · rename_i above apart
        refine List.pairwise_cons.mpr ⟨fun other member => ?_, ih rest⟩
        rcases mem_insertName.mp member with rfl | later
        · exact lt_of_not_lt_of_ne above apart
        · exact first other later

structure NameSet where
  names : List String
  sorted : names.Pairwise (· < ·)

namespace NameSet

instance : DecidableEq NameSet := fun a b =>
  decidable_of_iff (a.names = b.names) (by cases a; cases b; simp)

instance : Membership String NameSet := ⟨fun set name => name ∈ set.names⟩

instance (name : String) (set : NameSet) : Decidable (name ∈ set) :=
  inferInstanceAs (Decidable (name ∈ set.names))

def empty : NameSet := ⟨[], .nil⟩

def insert (set : NameSet) (name : String) : NameSet :=
  ⟨insertName name set.names, pairwise_insertName set.sorted⟩

def insertAll (set : NameSet) (names : List String) : NameSet := names.foldl insert set

def ofList (names : List String) : NameSet := empty.insertAll names

def union (set other : NameSet) : NameSet := set.insertAll other.names

theorem nodup (set : NameSet) : set.names.Nodup :=
  set.sorted.imp fun below same => absurd (same ▸ below) (String.lt_irrefl _)

theorem ext {a b : NameSet} (same : ∀ name, name ∈ a ↔ name ∈ b) : a = b := by
  have perm : a.names.Perm b.names := (List.perm_ext_iff_of_nodup a.nodup b.nodup).mpr same
  have names : a.names = b.names :=
    perm.eq_of_pairwise (fun x y _ _ below above =>
      absurd (String.lt_trans below above) (String.lt_irrefl _)) a.sorted b.sorted
  obtain ⟨first, _⟩ := a
  obtain ⟨second, _⟩ := b
  subst names
  rfl

@[simp] theorem mem_empty {name : String} : name ∈ empty ↔ False :=
  ⟨fun member => absurd member List.not_mem_nil, False.elim⟩

@[simp] theorem mem_insert {set : NameSet} {name other : String} :
    other ∈ set.insert name ↔ other = name ∨ other ∈ set :=
  mem_insertName

@[simp] theorem mem_insertAll {set : NameSet} {names : List String} {other : String} :
    other ∈ set.insertAll names ↔ other ∈ set ∨ other ∈ names := by
  induction names generalizing set with
  | nil => simp [insertAll]
  | cons name names ih =>
    have step : set.insertAll (name :: names) = (set.insert name).insertAll names := rfl
    rw [step, ih]
    simp only [mem_insert, List.mem_cons]
    grind

@[simp] theorem mem_ofList {names : List String} {other : String} :
    other ∈ ofList names ↔ other ∈ names := by
  simp [ofList]

@[simp] theorem mem_union {set other : NameSet} {name : String} :
    name ∈ set.union other ↔ name ∈ set ∨ name ∈ other :=
  mem_insertAll

end NameSet

end QueryLint
