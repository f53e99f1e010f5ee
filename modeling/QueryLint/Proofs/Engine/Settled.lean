import QueryLint.Engine.Scan
import QueryLint.Proofs.Registry.Standing

/-! The scan of a document does not depend on whether annotations have been read before, nor on
the numbers of the instances it is made with. So a pair of a token and a rule gives what it gives
alone, whatever has been asked before, and a scan adds this up. -/
namespace QueryLint

namespace Document

/-- The document with its annotations read. -/
def settled (document : Document) : Document := document.readAnnotations.1

@[simp] theorem readAnnotations_fst (document : Document) :
    document.readAnnotations.1 = document.settled :=
  rfl

@[simp] theorem settled_settled (document : Document) :
    document.settled.settled = document.settled := by
  cases table : document.safe.table <;>
    simp [settled, readAnnotations, SafeVariables.build, table]

@[simp] theorem settled_tokens (document : Document) :
    document.settled.tokens = document.tokens :=
  rfl

@[simp] theorem settled_silences (document : Document) :
    document.settled.silences = document.silences :=
  rfl

/-- Annotations that were read before are kept. -/
theorem settled_safe_of_built {document : Document} {table : LineTable NameSet}
    (built : document.safe = ⟨some table⟩) : document.settled.safe = ⟨some table⟩ := by
  simp [settled, readAnnotations, built, SafeVariables.build]

theorem settled_safe_of_unbuilt {document : Document} (unread : document.safe = {}) :
    document.settled.safe = ⟨some (annotationTable document.comments)⟩ := by
  simp [settled, readAnnotations, unread, SafeVariables.build]

@[simp] theorem settled_forgetAnnotations (document : Document) :
    document.settled.forgetAnnotations = document.forgetAnnotations :=
  rfl

end Document

namespace RuleInstance

section Judge

variable (self : RuleInstance) (document : Document) (place : Nat) (token : Token)

theorem judge_finding_settled :
    (self.judge document.settled place token).finding =
      (self.judge document place token).finding := by
  cases reads : self.rule.readsAnnotations with
  | true => simp [judge, reads]
  | false =>
    simp only [judge, reads, Bool.false_eq_true, if_false, Document.settled_forgetAnnotations]
    rfl

theorem settled_judge_document :
    (self.judge document place token).document.settled = document.settled := by
  cases reads : self.rule.readsAnnotations <;> simp [judge, reads]

end Judge

end RuleInstance

section Pair

variable (silences : LineTable Silence) (document : Document) (place : Nat) (token : Token)
  (self : RuleInstance)

theorem scanPair_result_settled :
    (scanPair silences document.settled place token self).result =
      (scanPair silences document place token self).result := by
  unfold scanPair
  split
  · rfl
  · rfl
  · exact congrArg (self.contribution silences document.path token)
      (self.judge_finding_settled document place token)

/-- A pair leaves no other trace than that annotations have been read. -/
theorem settled_scanPair_document :
    (scanPair silences document place token self).document.settled = document.settled := by
  unfold scanPair
  split
  · rfl
  · rfl
  · exact self.settled_judge_document document place token

end Pair

/-- What a pair gives when it is the only one, or the fault that ends the scan. -/
def Document.alone (document : Document) (pair : (Nat × Token) × RuleInstance) :
    Except Fault Contribution :=
  (scanPair document.silences document pair.1.1 pair.1.2 pair.2).result

theorem Document.alone_settled (document : Document) : document.settled.alone = document.alone := by
  funext pair
  exact scanPair_result_settled document.silences document pair.1.1 pair.1.2 pair.2

theorem Document.alone_congr {document origin : Document}
    (same : document.settled = origin.settled) : document.alone = origin.alone := by
  rw [← document.alone_settled, same, origin.alone_settled]

/-- How a scan ends, and the errors it adds. -/
abbrev Prospect := Except Fault (List Finding) × List String

def DocumentScan.prospect (scan : DocumentScan) : Prospect := (scan.result, scan.errors)

/-- What pairs add up to, as far as the first that ends the scan. -/
def tally (threshold : Severity) : List (Except Fault Contribution) → Prospect
  | [] => (.ok [], [])
  | .error fault :: _ => (.error fault, [])
  | .ok made :: later =>
    ((tally threshold later).1.map (made.findings threshold ++ ·),
      made.errors ++ (tally threshold later).2)

section Pairs

variable {document origin : Document}

/-- One step of a scan. The document may have had its annotations read by earlier pairs; the pair
still gives what it gives alone. -/
theorem scanPair_alone (same : document.settled = origin.settled) (place : Nat) (token : Token)
    (self : RuleInstance) :
    (scanPair origin.silences document place token self).result =
      origin.alone ((place, token), self) := by
  have silences : origin.silences = document.silences := by
    rw [← origin.settled_silences, ← same, document.settled_silences]
  rw [silences, ← Document.alone_congr same]
  rfl

/-- A scan adds up what each pair gives alone. -/
theorem scanPairs_tally (threshold : Severity) (pairs : List ((Nat × Token) × RuleInstance))
    (same : document.settled = origin.settled) :
    (scanPairs threshold origin.silences document pairs).prospect =
      tally threshold (pairs.map origin.alone) ∧
    (scanPairs threshold origin.silences document pairs).document.settled = origin.settled := by
  induction pairs generalizing document with
  | nil => exact ⟨rfl, same⟩
  | cons pair pairs ih =>
    obtain ⟨⟨place, token⟩, self⟩ := pair
    have given := scanPair_alone same place token self
    have kept := (settled_scanPair_document origin.silences document place token self).trans same
    obtain ⟨later, settled⟩ := ih kept
    rw [List.map_cons, ← given, scanPairs]
    cases (scanPair origin.silences document place token self).result with
    | error fault => exact ⟨rfl, kept⟩
    | ok made =>
      refine ⟨?_, settled⟩
      rw [tally, ← later]
      simp only [DocumentScan.prospect, DocumentScan.result]
      cases (scanPairs threshold origin.silences
        (scanPair origin.silences document place token self).document pairs).fault <;> rfl

/-- Whatever a scan finds is given by one of its pairs. -/
theorem mem_scanPairs_findings {threshold : Severity} {finding : Finding}
    {pairs : List ((Nat × Token) × RuleInstance)} (same : document.settled = origin.settled)
    (found : finding ∈ (scanPairs threshold origin.silences document pairs).findings) :
    ∃ pair ∈ pairs, ∃ made, origin.alone pair = .ok made ∧ finding ∈ made.findings threshold := by
  induction pairs generalizing document with
  | nil => contradiction
  | cons pair pairs ih =>
    obtain ⟨⟨place, token⟩, self⟩ := pair
    have given := scanPair_alone same place token self
    have kept := (settled_scanPair_document origin.silences document place token self).trans same
    rw [scanPairs] at found
    cases result : (scanPair origin.silences document place token self).result with
    | error fault =>
      rw [result] at found
      contradiction
    | ok made =>
      rw [result] at found given
      rcases List.mem_append.mp found with here | later
      · exact ⟨_, List.mem_cons_self, made, given.symm, here⟩
      · obtain ⟨pair, member, rest⟩ := ih kept later
        exact ⟨pair, List.mem_cons_of_mem _ member, rest⟩

end Pairs

theorem scanDocument_scanPairs (threshold : Severity) (rules : List RuleInstance)
    (document : Document) :
    ∃ log, scanDocument threshold rules document =
      { scanPairs threshold document.silences document (document.pairs rules) with log } := by
  simp only [scanDocument]
  split
  · exact ⟨_, rfl⟩
  · exact ⟨_, rfl⟩

section Documents

variable (threshold : Severity) (rules : List RuleInstance) (document : Document)

theorem scanDocument_tally :
    (scanDocument threshold rules document).prospect =
      tally threshold ((document.pairs rules).map document.alone) ∧
    (scanDocument threshold rules document).document.settled = document.settled := by
  obtain ⟨log, scanned⟩ := scanDocument_scanPairs threshold rules document
  rw [scanned]
  exact scanPairs_tally threshold (document.pairs rules) rfl

/-- Neither numbers nor annotations that have been read make a difference. -/
theorem map_alone_pairs :
    (document.settled.pairs (rules.map RuleInstance.unnumbered)).map document.settled.alone =
      (document.pairs rules).map document.alone := by
  have unnumbered : ∀ place self, document.alone (place, RuleInstance.unnumbered self) =
      document.alone (place, self) := fun _ _ => rfl
  rw [document.alone_settled]
  simp [Document.pairs, List.map_flatMap, Function.comp_def, unnumbered]

end Documents

end QueryLint
