import Mathlib.Data.List.Lex
import Mathlib.Data.Prod.Lex
import QueryLint.Proofs.Report.Order
import QueryLint.Session

/-! The order of a report as one sort. Findings are sorted by position first and by severity
after that. Each of the two sorts leaves tied findings in their order, so that together they are
the stable sort by severity, path and line. -/
namespace QueryLint

section Passes

variable {α : Type} {major minor : α → α → Bool} {a b : α} {items : List α}

/-- The order of `major`, and that of `minor` among items which `major` ties. -/
def thenBy (major minor : α → α → Bool) (a b : α) : Bool :=
  major a b && (!major b a || minor a b)

theorem thenBy_iff : thenBy major minor a b ↔ major a b ∧ (major b a → minor a b) := by
  cases forwards : major a b <;> cases backwards : major b a <;>
    simp [thenBy, forwards, backwards]

theorem thenBy_trans (trans : ∀ a b c, major a b → major b c → major a c)
    (trans' : ∀ a b c, minor a b → minor b c → minor a c) (a b c : α)
    (first : thenBy major minor a b) (second : thenBy major minor b c) :
    thenBy major minor a c := by
  rw [thenBy_iff] at *
  refine ⟨trans a b c first.1 second.1, fun back => ?_⟩
  -- All three are tied when the last comes before the first.
  have early : minor a b := first.2 (trans b c a second.1 back)
  have late : minor b c := second.2 (trans c a b back first.1)
  exact trans' a b c early late

theorem thenBy_total (total : ∀ a b, major a b || major b a)
    (total' : ∀ a b, minor a b || minor b a) (a b : α) :
    thenBy major minor a b || thenBy major minor b a := by
  have either := total a b
  have either' := total' a b
  simp only [Bool.or_eq_true, thenBy_iff] at *
  by_cases forwards : major a b
  · by_cases backwards : major b a
    · exact either'.imp (fun below => ⟨forwards, fun _ => below⟩)
        (fun above => ⟨backwards, fun _ => above⟩)
    · exact .inl ⟨forwards, fun back => absurd back backwards⟩
  · exact .inr ⟨either.resolve_left forwards, fun there => absurd there forwards⟩

theorem ties_thenBy : ties (thenBy major minor) a b = (ties minor a b && ties major a b) := by
  rw [Bool.eq_iff_iff, Bool.and_eq_true, ties_iff, ties_iff, ties_iff, thenBy_iff, thenBy_iff]
  constructor
  · rintro ⟨⟨forwards, minor⟩, backwards, minor'⟩
    exact ⟨⟨minor backwards, minor' forwards⟩, forwards, backwards⟩
  · rintro ⟨⟨minor, minor'⟩, forwards, backwards⟩
    exact ⟨⟨forwards, fun _ => minor⟩, backwards, fun _ => minor'⟩

theorem filter_ties_thenBy (a : α) (items : List α) :
    items.filter (ties (thenBy major minor) a) =
      (items.filter (ties major a)).filter (ties minor a) := by
  rw [List.filter_filter]
  exact List.filter_congr fun b _ => ties_thenBy

theorem pairwise_thenBy (total : ∀ a b, major a b || major b a)
    (sorted : items.Pairwise fun a b => major a b)
    (within : ∀ a, (items.filter (ties major a)).Pairwise fun b c => minor b c) :
    items.Pairwise fun a b => thenBy major minor a b := by
  induction items with
  | nil => exact .nil
  | cons first items ih =>
    obtain ⟨before, rest⟩ := List.pairwise_cons.mp sorted
    refine List.pairwise_cons.mpr ⟨fun later member => ?_, ih rest fun a => ?_⟩
    · refine thenBy_iff.mpr ⟨before later member, fun back => ?_⟩
      -- The two stand in one block of ties, which `minor` has in order.
      have self : ties major first first := ties_iff.mpr (by simpa using total first first)
      have block := within first
      rw [List.filter_cons_of_pos self] at block
      have inside : later ∈ items.filter (ties major first) :=
        List.mem_filter.mpr ⟨member, ties_iff.mpr ⟨before later member, back⟩⟩
      exact (List.pairwise_cons.mp block).1 later inside
    · exact (within a).sublist (List.Sublist.filter _ (List.sublist_cons_self first items))

/-- A stable sort after another one is a stable sort by both. -/
theorem mergeSort_mergeSort (trans : ∀ a b c, major a b → major b c → major a c)
    (total : ∀ a b, major a b || major b a)
    (trans' : ∀ a b c, minor a b → minor b c → minor a c)
    (total' : ∀ a b, minor a b || minor b a) (items : List α) :
    (items.mergeSort minor).mergeSort major = items.mergeSort (thenBy major minor) := by
  have both := thenBy_trans trans trans'
  have all := thenBy_total total total'
  apply eq_of_sorted_of_ties all
  · refine pairwise_thenBy total (List.pairwise_mergeSort trans total _) fun a => ?_
    rw [filter_ties_mergeSort trans total]
    exact (List.pairwise_mergeSort trans' total' items).filter _
  · exact List.pairwise_mergeSort both all items
  · intro a
    rw [filter_ties_mergeSort both all, filter_ties_thenBy, filter_ties_thenBy,
      filter_ties_mergeSort trans total, List.filter_comm, filter_ties_mergeSort trans' total',
      List.filter_comm]

end Passes

/-- A text as its code points. -/
def codePoints (text : String) : List Nat := text.toList.map Char.toNat

/-- Texts are ordered by their code points. -/
theorem lt_iff_codePoints {a b : String} : a < b ↔ codePoints a < codePoints b := by
  rw [String.lt_iff, codePoints, codePoints]
  generalize a.toList = text
  generalize b.toList = other
  induction text generalizing other with
  | nil => cases other <;> simp
  | cons c text ih =>
    cases other with
    | nil => simp
    | cons d other =>
      have below : c < d ↔ c.toNat < d.toNat := Iff.rfl
      rw [List.map_cons, List.map_cons, List.cons_lt_cons_iff, List.cons_lt_cons_iff, ih other,
        below, Char.toNat_inj]

theorem codePoints_inj {a b : String} : codePoints a = codePoints b ↔ a = b := by
  rw [codePoints, codePoints, List.map_inj_right fun _ _ => Char.toNat_inj.mp, String.toList_inj]

theorem Severity.rank_inj {a b : Severity} : a.rank = b.rank ↔ a = b := by
  cases a <;> cases b <;> decide

namespace Finding

/-- Path by code points, then line. -/
def position (finding : Finding) : List Nat ×ₗ Int :=
  toLex (codePoints finding.location.path, finding.location.startLine)

/-- What a report is sorted by: severity from the worst on, then position. -/
def key (finding : Finding) : Natᵒᵈ ×ₗ List Nat ×ₗ Int :=
  toLex (OrderDual.toDual finding.severity.rank, finding.position)

variable {a b : Finding}

theorem positionLe_eq : positionLe a b = decide (a.position ≤ b.position) := by
  rw [Bool.eq_iff_iff, positionLe_iff, decide_eq_true_eq, position, position,
    Prod.Lex.toLex_le_toLex, lt_iff_codePoints, codePoints_inj]

theorem key_le_iff : a.key ≤ b.key ↔
    b.severity < a.severity ∨ a.severity = b.severity ∧ a.position ≤ b.position := by
  rw [key, key, Prod.Lex.toLex_le_toLex, OrderDual.toDual_lt_toDual, ← Severity.rank_inj]
  rfl

theorem key_eq_iff : a.key = b.key ↔ a.severity = b.severity ∧
    a.location.path = b.location.path ∧ a.location.startLine = b.location.startLine := by
  rw [key, key, toLex_inj, Prod.mk.injEq, OrderDual.toDual_inj, Severity.rank_inj, position,
    position, toLex_inj, Prod.mk.injEq, codePoints_inj]

theorem thenBy_severity_position :
    thenBy (fun a b : Finding => b.severity ≤ a.severity) positionLe a b =
      decide (a.key ≤ b.key) := by
  have order : b.severity ≤ a.severity ∧ (a.severity ≤ b.severity → a.position ≤ b.position) ↔
      b.severity < a.severity ∨ a.severity = b.severity ∧ a.position ≤ b.position := by
    have equal := @Severity.rank_inj a.severity b.severity
    have below : b.severity < a.severity ↔ b.severity.rank < a.severity.rank := Iff.rfl
    have least : b.severity ≤ a.severity ↔ b.severity.rank ≤ a.severity.rank := Iff.rfl
    have most : a.severity ≤ b.severity ↔ a.severity.rank ≤ b.severity.rank := Iff.rfl
    rw [← equal, below, least, most]
    by_cases ahead : a.position ≤ b.position
    · simp only [ahead, implies_true, and_true]
      omega
    · simp only [ahead, imp_false, and_false, or_false]
      omega
  rw [Bool.eq_iff_iff]
  simp only [thenBy_iff, positionLe_eq, decide_eq_true_eq, key_le_iff]
  exact order

end Finding

/-- The two sorts are one sort by severity, path and line. -/
theorem sortFindings_eq (findings : List Finding) :
    sortFindings findings = findings.mergeSort fun a b => a.key ≤ b.key := by
  have trans : ∀ a b c : Finding, decide (b.severity ≤ a.severity) →
      decide (c.severity ≤ b.severity) → decide (c.severity ≤ a.severity) := by
    intro a b c first second
    simp only [decide_eq_true_eq] at *
    exact Nat.le_trans second first
  have total : ∀ a b : Finding,
      decide (b.severity ≤ a.severity) || decide (a.severity ≤ b.severity) := by
    intro a b
    rw [Bool.or_eq_true, decide_eq_true_eq, decide_eq_true_eq]
    exact Nat.le_total b.severity.rank a.severity.rank
  rw [sortFindings, mergeSort_mergeSort trans total positionLe_trans positionLe_total]
  congr 1
  funext a b
  exact Finding.thenBy_severity_position

theorem keyLe_trans (a b c : Finding) (first : decide (a.key ≤ b.key))
    (second : decide (b.key ≤ c.key)) : decide (a.key ≤ c.key) := by
  simp only [decide_eq_true_eq] at *
  exact first.trans second

theorem keyLe_total (a b : Finding) : decide (a.key ≤ b.key) || decide (b.key ≤ a.key) := by
  rw [Bool.or_eq_true, decide_eq_true_eq, decide_eq_true_eq]
  exact le_total a.key b.key

theorem pairwise_sortFindings (findings : List Finding) :
    (sortFindings findings).Pairwise fun a b => a.key ≤ b.key := by
  rw [sortFindings_eq]
  exact (List.pairwise_mergeSort keyLe_trans keyLe_total findings).imp of_decide_eq_true

theorem filter_sortFindings (findings : List Finding) (finding : Finding) :
    (sortFindings findings).filter (·.key = finding.key) =
      findings.filter (·.key = finding.key) := by
  have tied : (fun other : Finding => decide (other.key = finding.key)) =
      ties (fun a b => decide (a.key ≤ b.key)) finding := by
    funext other
    rw [Bool.eq_iff_iff, ties_iff, decide_eq_true_eq, decide_eq_true_eq, decide_eq_true_eq,
      le_antisymm_iff, and_comm]
  rw [sortFindings_eq, tied]
  exact filter_ties_mergeSort keyLe_trans keyLe_total finding findings

/-- A report lists what was collected, the worst findings first and those of one severity by path
and line; findings that agree in all three stay in the order in which they were collected. This
is the stable sort by the three together. The rules applied are those of the findings, each once
and in order. -/
theorem report_sorted (session : Session) (batch : Batch) (seconds : Value) :
    let report := session.report batch seconds
    report.findings.Perm batch.findings ∧
    report.findings.Pairwise (fun a b => b.severity ≤ a.severity) ∧
    report.findings.Pairwise (fun a b => a.severity = b.severity → a.position ≤ b.position) ∧
    (∀ finding : Finding,
      let equal := fun other : Finding => other.severity = finding.severity ∧
        other.location.path = finding.location.path ∧
        other.location.startLine = finding.location.startLine
      report.findings.filter equal = batch.findings.filter equal) ∧
    report.findings = batch.findings.mergeSort (fun a b => a.key ≤ b.key) ∧
    report.rulesApplied.Pairwise (· < ·) ∧
    ∀ id, id ∈ report.rulesApplied ↔ ∃ finding ∈ report.findings, finding.ruleId = id := by
  intro report
  have sorted := pairwise_sortFindings batch.findings
  have perm : (sortFindings batch.findings).Perm batch.findings :=
    (List.mergeSort_perm _ _).trans (List.mergeSort_perm _ _)
  refine ⟨perm, sorted.imp ?_, sorted.imp ?_, fun finding => ?_, sortFindings_eq _,
    (appliedRules batch.findings).sorted, fun id => ?_⟩
  · intro a b below
    rcases Finding.key_le_iff.mp below with worse | ⟨same, _⟩
    · exact Nat.le_of_lt worse
    · exact same ▸ Nat.le_refl _
  · intro a b below same
    rcases Finding.key_le_iff.mp below with worse | ⟨_, position⟩
    · exact absurd (same ▸ worse) (Nat.lt_irrefl _)
    · exact position
  · simp only [← Finding.key_eq_iff]
    exact filter_sortFindings batch.findings finding
  · have members : id ∈ appliedRules batch.findings ↔
        ∃ finding ∈ batch.findings, finding.ruleId = id := by
      rw [appliedRules, NameSet.mem_ofList, List.mem_map]
    refine members.trans (exists_congr fun finding => ?_)
    exact and_congr_left fun _ => perm.mem_iff.symm

end QueryLint
