import QueryLint.Document.Basic

/-! What the table of safe variables holds: on every line, the names that the annotations of
that line list, in whatever order the comments stand. -/
namespace QueryLint

namespace LineTable

variable {α : Type} {table : LineTable α} {line other : Int} {update : Option α → α}

/-- Lines increase from entry to entry. -/
def Sorted (table : LineTable α) : Prop := table.Pairwise fun entry later => entry.1 < later.1

theorem lines_modify {entry : Int × α} (member : entry ∈ table.modify line update) :
    entry.1 = line ∨ ∃ old ∈ table, old.1 = entry.1 := by
  induction table with
  | nil =>
    rw [List.mem_singleton.mp member]
    exact .inl rfl
  | cons first table ih =>
    rw [modify] at member
    split at member
    · rcases List.mem_cons.mp member with rfl | old
      · exact .inl rfl
      · exact .inr ⟨entry, old, rfl⟩
    · split at member
      · rcases List.mem_cons.mp member with rfl | old
        · exact .inr ⟨first, List.mem_cons_self, rfl⟩
        · exact .inr ⟨entry, List.mem_cons_of_mem _ old, rfl⟩
      · rcases List.mem_cons.mp member with rfl | later
        · exact .inr ⟨first, List.mem_cons_self, rfl⟩
        · rcases ih later with here | ⟨old, inside, same⟩
          · exact .inl here
          · exact .inr ⟨old, List.mem_cons_of_mem _ inside, same⟩

theorem sorted_modify (sorted : Sorted table) : Sorted (table.modify line update) := by
  induction table with
  | nil => simp [modify, Sorted]
  | cons first table ih =>
    obtain ⟨above, rest⟩ := List.pairwise_cons.mp sorted
    rw [modify]
    split
    · rename_i below
      refine List.pairwise_cons.mpr ⟨fun later member => ?_, sorted⟩
      rcases List.mem_cons.mp member with rfl | behind
      · exact below
      · exact Int.lt_trans below (above later behind)
    · split
      · exact List.pairwise_cons.mpr ⟨above, rest⟩
      · refine List.pairwise_cons.mpr ⟨fun later member => ?_, ih rest⟩
        rcases lines_modify member with here | ⟨old, inside, same⟩
        · simp only [here]
          omega
        · rw [← same]
          exact above old inside

theorem get?_cons (first : Int × α) (table : LineTable α) :
    get? (first :: table) line = if line = first.1 then some first.2 else table.get? line := by
  obtain ⟨key, entry⟩ := first
  by_cases same : line = key
  · simp [get?, same]
  · simp [get?, List.lookup_cons, beq_eq_false_iff_ne.mpr same, same]

/-- Nothing is found on a line below all entries. -/
theorem get?_eq_none (below : ∀ entry ∈ table, line < entry.1) : table.get? line = none := by
  induction table with
  | nil => rfl
  | cons first table ih =>
    have apart : line ≠ first.1 := by
      have := below first List.mem_cons_self
      omega
    rw [get?_cons, if_neg apart]
    exact ih fun entry member => below entry (List.mem_cons_of_mem _ member)

theorem get?_modify (sorted : Sorted table) :
    (table.modify line update).get? other =
      if other = line then some (update (table.get? line)) else table.get? other := by
  induction table with
  | nil => simp [modify, get?_cons]; rfl
  | cons first table ih =>
    obtain ⟨above, rest⟩ := List.pairwise_cons.mp sorted
    rw [modify]
    split
    · rename_i below
      have absent : get? (first :: table) line = none := by
        apply get?_eq_none
        intro entry member
        rcases List.mem_cons.mp member with rfl | behind
        · exact below
        · exact Int.lt_trans below (above entry behind)
      rw [get?_cons, absent]
    · split
      · rename_i same
        subst same
        simp only [get?_cons]
        split <;> simp_all
      · simp only [get?_cons, ih rest]
        split <;> split <;> simp_all

end LineTable

section Table

variable {table : LineTable NameSet} {comments : List Token} {comment : Token} {name : String}
  {line : Int}

/-- The names that a table lists on a line. -/
def LineTable.names (table : LineTable NameSet) (line : Int) : NameSet :=
  (table.get? line).getD .empty

/-- The comment is an annotation of the line and lists the name. -/
def Token.Marks (comment : Token) (line : Int) (name : String) : Prop :=
  comment.line = line ∧ ∃ names, Annotation.names? comment.content = some names ∧ name ∈ names

theorem addNames_sorted (sorted : table.Sorted) :
    LineTable.Sorted (addNames table comment) := by
  unfold addNames
  split
  · exact sorted
  · exact LineTable.sorted_modify sorted

/-- One comment adds the names it lists to its own line, and nothing else. -/
theorem addNames_names (sorted : table.Sorted) :
    name ∈ LineTable.names (addNames table comment) line ↔
      name ∈ table.names line ∨ comment.Marks line name := by
  unfold addNames Token.Marks
  split
  · rename_i none
    simp [none]
  · rename_i names listed
    simp only [LineTable.names, LineTable.get?_modify sorted, listed]
    by_cases same : line = comment.line
    · subst same
      simp
    · simp [same, Ne.symm same]

theorem foldl_addNames_names (sorted : table.Sorted) :
    name ∈ (comments.foldl addNames table).names line ↔
      name ∈ table.names line ∨ ∃ comment ∈ comments, comment.Marks line name := by
  induction comments generalizing table with
  | nil => simp
  | cons comment comments ih =>
    rw [List.foldl_cons, ih (addNames_sorted sorted), addNames_names sorted, or_assoc]
    simp

/-- A name is safe on a line exactly if some annotation of the line lists it. -/
theorem mem_annotationTable :
    name ∈ (annotationTable comments).names line ↔
      ∃ comment ∈ comments, comment.Marks line name := by
  rw [annotationTable, foldl_addNames_names .nil]
  simp [LineTable.names, LineTable.get?]

theorem onLine_built (table : LineTable NameSet) (positive : 1 ≤ line) :
    SafeVariables.onLine ⟨some table⟩ line = .ok (table.names line) := by
  have valid : ¬ line < 1 := by omega
  simp [SafeVariables.onLine, valid, LineTable.names]

theorem onLine_refused (table : LineTable NameSet) (low : line < 1) :
    SafeVariables.onLine ⟨some table⟩ line =
      .error ((overlong? line).getD (.lineNotPositive (.int line))) := by
  simp [SafeVariables.onLine, low]

end Table

end QueryLint
