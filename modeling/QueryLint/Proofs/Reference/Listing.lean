import QueryLint.Proofs.Reference.Seams

/-! What the extraction lists. While its removals are quiet it goes through the references of the
text and leaves out those in which an earlier one stands. A removal that is not quiet can make it
list a reference again, list one that the text does not have, or list two in the wrong order. -/
namespace QueryLint.Reference

/-- The first removals of the extraction are quiet. -/
inductive Steady : Nat → List Char → Prop where
  | start {text : List Char} : Steady 0 text
  | ended {n : Nat} {text : List Char} : find? text = none → Steady n text
  | round {n : Nat} {text word : List Char} : (find? text).map Occurrence.word = some word →
      Quiet text word → Steady n (Text.erase word text) → Steady (n + 1) text

/-- The spellings of a list in which no earlier one stands. -/
def unheld : List (List Char) → List (List Char)
  | [] => []
  | first :: others => first :: lacking first (unheld others)

section Unheld

variable {word : List Char} {listed : List (List Char)}

theorem mem_lacking {other : List Char} :
    other ∈ lacking word listed ↔ other ∈ listed ∧ ¬ word <:+: other := by
  simp [lacking]

/-- What lacks a spelling lacks every longer one. -/
theorem lacking_lacking_of_infix {longer : List Char} (inside : word <:+: longer)
    (listed : List (List Char)) : lacking word (lacking longer listed) = lacking word listed := by
  rw [lacking, lacking, List.filter_filter, lacking]
  refine List.filter_congr fun other _ => ?_
  by_cases held : word <:+: other
  · simp [held]
  · have free : ¬ longer <:+: other := fun further => held (inside.trans further)
    simp [held, free]

theorem lacking_comm (word other : List Char) (listed : List (List Char)) :
    lacking word (lacking other listed) = lacking other (lacking word listed) := by
  rw [lacking, lacking, List.filter_filter, lacking, lacking, List.filter_filter]
  exact List.filter_congr fun _ _ => Bool.and_comm _ _

theorem unheld_lacking (word : List Char) (listed : List (List Char)) :
    unheld (lacking word listed) = lacking word (unheld listed) := by
  induction listed with
  | nil => rfl
  | cons first others ih =>
    by_cases held : word <:+: first
    · have dropped : lacking word (first :: others) = lacking word others := by simp [lacking, held]
      have skipped : lacking word (unheld (first :: others)) =
          lacking word (lacking first (unheld others)) := by
        simp [unheld, lacking, held]
      rw [dropped, skipped, ih, lacking_lacking_of_infix held]
    · have kept : ∀ rest, lacking word (first :: rest) = first :: lacking word rest := by
        intro rest
        simp [lacking, held]
      rw [kept, unheld, unheld, kept, ih, lacking_comm]

theorem unheld_sublist (listed : List (List Char)) : (unheld listed).Sublist listed := by
  induction listed with
  | nil => exact .slnil
  | cons first others ih => exact (List.filter_sublist.trans ih).cons_cons first

/-- The spellings stay in the order of their first places. -/
theorem pairwise_unheld (listed : List (List Char)) :
    (unheld listed).Pairwise fun one other => listed.idxOf one < listed.idxOf other := by
  induction listed with
  | nil => exact .nil
  | cons first others ih =>
    have place : ∀ other ∈ lacking first (unheld others),
        (first :: others).idxOf other = others.idxOf other + 1 := by
      intro other member
      have unlike : first ≠ other := by
        rintro rfl
        exact (mem_lacking.mp member).2 List.infix_rfl
      exact List.idxOf_cons_ne others unlike
    rw [unheld, List.pairwise_cons]
    constructor
    · intro other member
      rw [place other member, List.idxOf_cons_self]
      exact Nat.succ_pos _
    · refine (ih.sublist List.filter_sublist).imp_of_mem fun {one other} left right before => ?_
      rw [place one left, place other right]
      exact Nat.succ_lt_succ before

end Unheld

section Steady

variable {n : Nat} {text : List Char}

/-- After quiet removals the extraction has listed, and lists next, what the references of the
whole text give. -/
theorem take_extract_of_steady (steady : Steady n text) :
    (extract text).take (n + 1) = (unheld (references text)).take (n + 1) := by
  induction steady with
  | @start text =>
    cases search : find? text with
    | none => rw [extract_of_none search, references_of_none search, unheld]
    | some found => rw [extract_of_some search, references_of_some search, unheld]; rfl
  | ended search => rw [extract_of_none search, references_of_none search, unheld]
  | @round n text word spelled quiet _ ih =>
    obtain ⟨found, search, rfl⟩ := Option.map_eq_some_iff.mp spelled
    have isWord := findFrom_isReference search
    have dropped : lacking found.word (references text) =
        lacking found.word (references found.after) := by
      simp [references_of_some search, lacking, List.infix_rfl]
    rw [references_erase isWord quiet, dropped, unheld_lacking] at ih
    rw [extract_of_some search, references_of_some search, unheld, List.take_succ_cons, ih,
      List.take_succ_cons]

/-- As long as the removals are quiet, the extraction lists references of the text, each once and in
the order of their first places: just those in which no earlier one stands. -/
theorem extract_steady (steady : Steady n text) :
    ((extract text).take (n + 1)).Nodup ∧
    (∀ reference ∈ (extract text).take (n + 1), reference ∈ references text) ∧
    ((extract text).take (n + 1)).Pairwise
      (fun one other => (references text).idxOf one < (references text).idxOf other) ∧
    (extract text).take (n + 1) = (unheld (references text)).take (n + 1) := by
  have listed := take_extract_of_steady steady
  have ordered : ((unheld (references text)).take (n + 1)).Pairwise
      (fun one other => (references text).idxOf one < (references text).idxOf other) :=
    (pairwise_unheld (references text)).sublist (List.take_sublist _ _)
  rw [listed]
  refine ⟨ordered.imp fun before same => ?_, fun reference member => ?_, ordered, rfl⟩
  · rw [same] at before
    exact Nat.lt_irrefl _ before
  · exact (unheld_sublist _).subset (List.mem_of_mem_take member)

end Steady

/-- A quoted and an escaped copy, a longer name and a reference with two sigils. -/
def steadyText : List Char := "\\$id=\x27$id\x27 $identifier @$t $b".toList

theorem steadyText_steady : Steady 3 steadyText := by
  have first : (find? steadyText).map Occurrence.word = some "$id".toList := by decide +kernel
  have second : (find? (Text.erase "$id".toList steadyText)).map Occurrence.word =
      some "@$t".toList := by
    decide +kernel
  have third : (find? (Text.erase "@$t".toList (Text.erase "$id".toList steadyText))).map
      Occurrence.word = some "$b".toList := by
    decide +kernel
  refine .round first ?_ (.round second ?_ (.round third ?_ .start)) <;> decide +kernel

theorem steadyText_extract :
    Steady 3 steadyText ∧
    references steadyText = ["$id".toList, "$identifier".toList, "@$t".toList, "$b".toList] ∧
    (extract steadyText).take 4 = ["$id".toList, "@$t".toList, "$b".toList] := by
  have read : references steadyText =
      ["$id".toList, "$identifier".toList, "@$t".toList, "$b".toList] := by
    decide +kernel
  refine ⟨steadyText_steady, read, ?_⟩
  rw [(extract_steady steadyText_steady).2.2.2, read]
  decide +kernel

/-- A removal can leave the removed spelling again, join a sigil and the end of a name into a
reference that the text does not have, or escape the first of two copies of a later reference. -/
theorem extract_misreports :
    (¬ ∀ text, (extract text).Nodup) ∧
    (¬ ∀ text, ∀ reference ∈ extract text, reference ∈ references text) ∧
    ¬ ∀ text, (extract text).Pairwise
      fun one other => (references text).idxOf one < (references text).idxOf other := by
  refine ⟨fun once => ?_, fun known => ?_, fun ordered => ?_⟩
  · have repeated : extract "$x $$xx".toList = ["$x".toList, "$x".toList] := by decide +kernel
    have distinct := once "$x $$xx".toList
    rw [repeated] at distinct
    revert distinct
    decide
  · have invented : "$y".toList ∈ extract "$x $$xy".toList := by decide +kernel
    have absent : "$y".toList ∉ references "$x $$xy".toList := by decide +kernel
    exact absent (known _ _ invented)
  · have listed : extract "$x \\$x$a $b $a".toList = ["$x".toList, "$b".toList, "$a".toList] := by
      decide +kernel
    have read : references "$x \\$x$a $b $a".toList =
        ["$x".toList, "$a".toList, "$b".toList, "$a".toList] := by
      decide +kernel
    have places := ordered "$x \\$x$a $b $a".toList
    rw [listed, read] at places
    revert places
    decide

end QueryLint.Reference
