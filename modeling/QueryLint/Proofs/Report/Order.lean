import QueryLint.ScanReport

/-! The order of a report. A stable sort is decided by the order in which tied items come, so
blocks of findings can be put together in any order as long as no tie crosses two blocks. -/
namespace QueryLint

section Ties

variable {α : Type} {le : α → α → Bool}

/-- Neither item has to come first. -/
def ties (le : α → α → Bool) (a b : α) : Bool := le a b && le b a

theorem ties_iff {a b : α} : ties le a b ↔ le a b ∧ le b a := by simp [ties]

/-- Sorting keeps tied items in their order. -/
theorem filter_ties_mergeSort (trans : ∀ a b c, le a b → le b c → le a c)
    (total : ∀ a b, le a b || le b a) (a : α) (items : List α) :
    (items.mergeSort le).filter (ties le a) = items.filter (ties le a) := by
  have tied : (items.filter (ties le a)).Pairwise fun b c => le b c := by
    rw [List.pairwise_filter]
    refine List.pairwise_of_forall fun b c first second => ?_
    exact trans b a c (ties_iff.mp first).2 (ties_iff.mp second).1
  have kept : (items.filter (ties le a)).Sublist (items.mergeSort le) :=
    List.sublist_mergeSort trans total tied List.filter_sublist
  have inside : (items.filter (ties le a)).Sublist ((items.mergeSort le).filter (ties le a)) := by
    simpa only [List.filter_filter, Bool.and_self] using kept.filter (ties le a)
  have size : (items.filter (ties le a)).length = ((items.mergeSort le).filter (ties le a)).length :=
    ((List.mergeSort_perm items le).filter _).length_eq.symm
  exact (inside.eq_of_length size).symm

/-- Sorted lists are equal when tied items come in the same order in both. -/
theorem eq_of_sorted_of_ties (total : ∀ a b, le a b || le b a) {first second : List α}
    (sorted : first.Pairwise fun a b => le a b) (sorted' : second.Pairwise fun a b => le a b)
    (same : ∀ a, first.filter (ties le a) = second.filter (ties le a)) : first = second := by
  have reflexive : ∀ a, ties le a a := fun a => ties_iff.mpr (by simpa using total a a)
  have members : ∀ a, a ∈ first ↔ a ∈ second := by
    intro a
    have agree : a ∈ first.filter (ties le a) ↔ a ∈ second.filter (ties le a) := by rw [same]
    simpa [reflexive] using agree
  induction first generalizing second with
  | nil =>
    cases second with
    | nil => rfl
    | cons b second => simpa using members b
  | cons a first ih =>
    cases second with
    | nil => simpa using members a
    | cons b second =>
      -- Each head comes before the other in one of the lists, so they are tied.
      have forwards : le a b := by
        rcases List.mem_cons.mp ((members b).mpr List.mem_cons_self) with rfl | later
        · exact (ties_iff.mp (reflexive _)).1
        · exact (List.pairwise_cons.mp sorted).1 b later
      have backwards : le b a := by
        rcases List.mem_cons.mp ((members a).mp List.mem_cons_self) with rfl | later
        · exact (ties_iff.mp (reflexive _)).1
        · exact (List.pairwise_cons.mp sorted').1 a later
      have heads := same a
      rw [List.filter_cons_of_pos (reflexive a),
        List.filter_cons_of_pos (ties_iff.mpr ⟨forwards, backwards⟩)] at heads
      obtain ⟨rfl, _⟩ := List.cons.inj heads
      have tails : ∀ c, first.filter (ties le c) = second.filter (ties le c) := by
        intro c
        have whole := same c
        by_cases tied : ties le c a
        · rw [List.filter_cons_of_pos tied, List.filter_cons_of_pos tied] at whole
          exact (List.cons.inj whole).2
        · rwa [List.filter_cons_of_neg tied, List.filter_cons_of_neg tied] at whole
      have rest : ∀ c, c ∈ first ↔ c ∈ second := by
        intro c
        have agree : c ∈ first.filter (ties le c) ↔ c ∈ second.filter (ties le c) := by rw [tails]
        simpa [reflexive] using agree
      rw [ih (List.pairwise_cons.mp sorted).2 (List.pairwise_cons.mp sorted').2 tails rest]

end Ties

theorem positionLe_iff {a b : Finding} :
    positionLe a b ↔ a.location.path < b.location.path ∨
      a.location.path = b.location.path ∧ a.location.startLine ≤ b.location.startLine := by
  simp [positionLe]

theorem positionLe_trans (a b c : Finding) (first : positionLe a b) (second : positionLe b c) :
    positionLe a c := by
  rw [positionLe_iff] at *
  rcases first with below | ⟨same, lines⟩
  · rcases second with further | ⟨same', _⟩
    · exact .inl (String.lt_trans below further)
    · exact .inl (same' ▸ below)
  · rcases second with further | ⟨same', lines'⟩
    · exact .inl (same ▸ further)
    · exact .inr ⟨same.trans same', Int.le_trans lines lines'⟩

theorem positionLe_total (a b : Finding) : positionLe a b || positionLe b a := by
  rw [Bool.or_eq_true, positionLe_iff, positionLe_iff]
  by_cases below : a.location.path < b.location.path
  · exact .inl (.inl below)
  · by_cases same : a.location.path = b.location.path
    · rcases Int.le_total a.location.startLine b.location.startLine with lines | lines
      · exact .inl (.inr ⟨same, lines⟩)
      · exact .inr (.inr ⟨same.symm, lines⟩)
    · exact .inr (.inl (lt_of_not_lt_of_ne below same))

end QueryLint
