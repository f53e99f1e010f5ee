import QueryLint.Proofs.Registry.Renewal
import QueryLint.Proofs.Session.Basis
import QueryLint.Proofs.Session.Frame

/-! Scans that follow each other in one session. A document is found to hold the same however
often it is scanned and whatever is scanned before, and every scan adds its own errors behind
those that are there. A report is another matter: it shows the errors of its session when it is
read, those of later scans included. -/
namespace QueryLint

/-- A scan of one document, or of a batch. -/
inductive Scan where
  | one (index : Nat)
  | batch (indexes : List Nat)

/-- A report grows exactly if something is added to its errors. -/
theorem ScanReport.append_errors_eq (report : ScanReport) (errors : List String) :
    { report with errors := report.errors ++ errors } = report ↔ errors = [] := by
  constructor
  · intro same
    exact List.append_right_eq_self.mp (congrArg ScanReport.errors same)
  · rintro rfl
    rw [List.append_nil]

namespace Session

/-- A batch of several documents needs a number of workers. -/
def admits (session : Session) (indexes : List Nat) : Bool :=
  indexes.length ≤ 1 || session.engine.maxWorkers.exceedsOne?.isSome

/-- Two states of a session whose scans give the same. -/
structure Alike (session later : Session) : Prop where
  basis : later.basis = session.basis
  settings : later.engine.settings = session.engine.settings

theorem Alike.admits {session later : Session} (alike : session.Alike later) :
    later.admits = session.admits := by
  have workers : later.engine.settings.maxWorkers = session.engine.settings.maxWorkers := by
    rw [alike.settings]
  simp only [Engine.settings] at workers
  funext indexes
  rw [Session.admits, Session.admits, workers]

section Scans

variable [Nesting] (session : Session)

/-- What a batch collects: the findings of the documents that can be scanned to their end. -/
def gathered (indexes : List Nat) : Except Fault Batch :=
  if session.admits indexes then
    .ok ⟨indexes.flatMap session.yield, indexes.countP session.completes⟩
  else .error .unsuitableValue

/-- The errors that a scan adds. -/
def added : Scan → List String
  | .one index => (session.outcome index).2
  | .batch indexes => if session.admits indexes then indexes.flatMap session.batchErrors else []

def perform : Scan → Session
  | .one index => (session.scan index).2.2
  | .batch indexes => (session.scanAll indexes).2.2

def after (scans : List Scan) : Session := scans.foldl perform session

variable {session}

theorem scanAll_of_admits {indexes : List Nat} (admitted : session.admits indexes) :
    session.scanAll indexes =
      (.ok (session.scanEach {} indexes).1, (session.scanEach {} indexes).2) := by
  have suitable : (indexes.length > 1 && session.engine.maxWorkers.exceedsOne?.isNone) = false := by
    simpa [admits, Decidable.imp_iff_not_or] using admitted
  simp [scanAll, suitable]

theorem scanAll_of_refused {indexes : List Nat} (refused : session.admits indexes = false) :
    session.scanAll indexes = (.error .unsuitableValue, [], session) := by
  have unsuitable : (indexes.length > 1 && session.engine.maxWorkers.exceedsOne?.isNone) = true := by
    simpa [admits] using refused
  simp [scanAll, unsuitable]

theorem scanAll_gathered (session : Session) (indexes : List Nat) :
    (session.scanAll indexes).1 = session.gathered indexes ∧
    (session.scanAll indexes).2.2.engine.errors =
      session.engine.errors ++ session.added (.batch indexes) ∧
    (session.scanAll indexes).2.2.basis = session.basis := by
  cases admitted : session.admits indexes with
  | false =>
    rw [scanAll_of_refused admitted, gathered, added, admitted]
    simp
  | true =>
    obtain ⟨collected, errors, basis⟩ := session.scanEach_outcome indexes {}
    rw [scanAll_of_admits admitted, gathered, added, admitted, if_pos rfl, if_pos rfl]
    refine ⟨congrArg Except.ok (collected.trans ?_), errors, basis⟩
    rw [List.nil_append, Nat.zero_add]

theorem findings_of_gathered {indexes : List Nat} {batch : Batch}
    (collected : session.gathered indexes = .ok batch) :
    batch.findings = indexes.flatMap session.yield := by
  rw [gathered] at collected
  split at collected
  · rw [← Except.ok.inj collected]
  · contradiction

section Alike

variable {later : Session}

theorem Alike.gathered (alike : session.Alike later) : later.gathered = session.gathered := by
  funext indexes
  rw [Session.gathered, Session.gathered, alike.admits, yield_congr alike.basis,
    completes_congr alike.basis]

theorem Alike.added (alike : session.Alike later) : later.added = session.added := by
  funext scan
  cases scan with
  | one index => rw [Session.added, Session.added, outcome_congr alike.basis]
  | batch indexes =>
    rw [Session.added, Session.added, alike.admits, batchErrors_congr alike.basis]

/-- A scan adds its errors and leaves what later scans depend on. -/
theorem perform_alike (session : Session) (scan : Scan) :
    session.Alike (session.perform scan) ∧
    (session.perform scan).engine.errors = session.engine.errors ++ session.added scan := by
  cases scan with
  | one index =>
    obtain ⟨_, errors, basis⟩ := session.scan_outcome index
    exact ⟨⟨basis, (session.frames_scan index).engine⟩, errors⟩
  | batch indexes =>
    obtain ⟨_, errors, basis⟩ := session.scanAll_gathered indexes
    exact ⟨⟨basis, (session.frames_scanAll indexes).engine⟩, errors⟩

theorem after_alike (scans : List Scan) (session : Session) :
    session.Alike (session.after scans) ∧
    (session.after scans).engine.errors =
      session.engine.errors ++ scans.flatMap session.added := by
  induction scans generalizing session with
  | nil => exact ⟨⟨rfl, rfl⟩, (List.append_nil _).symm⟩
  | cons scan scans ih =>
    obtain ⟨alike, errors⟩ := session.perform_alike scan
    obtain ⟨later, errors'⟩ := ih (session.perform scan)
    refine ⟨⟨later.basis.trans alike.basis, later.settings.trans alike.settings⟩, ?_⟩
    rw [errors, alike.added, List.append_assoc] at errors'
    exact errors'

end Alike

/-- Scans are repeatable and add their errors in order. A scan of a document or of a batch gives
the same at any time. The report on a batch shows the errors of all scans up to its own when it is
read at once, and those of the later scans too when it is read later; it then is as it was exactly
if the later scans add no errors. -/
theorem scans_repeatable (session : Session) (scans : List Scan) :
    (∀ index, ((session.after scans).scan index).1 = (session.outcome index).1) ∧
    (∀ indexes, ((session.after scans).scanAll indexes).1 = session.gathered indexes) ∧
    (session.after scans).engine.errors =
      session.engine.errors ++ scans.flatMap session.added ∧
    ∀ earlier indexes later batch seconds, scans = earlier ++ .batch indexes :: later →
      ((session.after earlier).scanAll indexes).1 = .ok batch →
        let soon := (session.after (earlier ++ [.batch indexes])).report batch seconds
        let late := (session.after scans).report batch seconds
        soon.findings = sortFindings (indexes.flatMap session.yield) ∧
        soon.errors =
          session.engine.errors ++ (earlier ++ [Scan.batch indexes]).flatMap session.added ∧
        late = { soon with errors := soon.errors ++ later.flatMap session.added } ∧
        (late = soon ↔ ∀ scan ∈ later, session.added scan = []) := by
  obtain ⟨alike, errors⟩ := session.after_alike scans
  refine ⟨fun index => ?_, fun indexes => ?_, errors, ?_⟩
  · rw [((session.after scans).scan_outcome index).1, outcome_congr alike.basis]
  · rw [((session.after scans).scanAll_gathered indexes).1, alike.gathered]
  · rintro earlier indexes later batch seconds rfl collected soon late
    have before := (session.after_alike (earlier ++ [.batch indexes])).2
    have found : batch.findings = indexes.flatMap session.yield := by
      rw [((session.after earlier).scanAll_gathered indexes).1,
        (session.after_alike earlier).1.gathered] at collected
      exact findings_of_gathered collected
    have grown : late = { soon with errors := soon.errors ++ later.flatMap session.added } := by
      simp only [late, soon, report, errors, before]
      simp
    refine ⟨congrArg sortFindings found, before, grown, ?_⟩
    rw [grown, ScanReport.append_errors_eq, List.flatMap_eq_nil_iff]

end Scans

/-- A rule that fails on every literal, and a document with one. -/
def troubled : Session where
  engine := {}
  registry := ({} : Registry).register
    (.failing (Registry.namesake "failing" true).metadata "boom")
  documents := #[{
    pool := #[{ token := { kind := .literalDouble, content := "SELECT 1", line := 1 } }]
    members := [0] }]

def trouble : String := "Error running rule Trial on <unknown>:1: boom"

theorem troubled_added : troubled.added (.batch [0]) = [trouble] := by
  decide +kernel

theorem troubled_collected (earlier : List Scan) :
    ((troubled.after earlier).scanAll [0]).1 = .ok ⟨[], 1⟩ := by
  have empty : (troubled.yield 0).isEmpty := by decide +kernel
  have complete : troubled.completes 0 := by decide +kernel
  rw [((troubled.after earlier).scanAll_gathered [0]).1, (troubled.after_alike earlier).1.gathered]
  simp [gathered, admits, List.isEmpty_iff.mp empty, complete]

/-- The first of two reports has one error, and two when it is read in the end. -/
theorem troubled_reports :
    ((troubled.after [.batch [0]]).report ⟨[], 1⟩ .null).errors = [trouble] ∧
    ((troubled.after [.batch [0], .batch [0]]).report ⟨[], 1⟩ .null).errors = [trouble, trouble] := by
  obtain ⟨_, _, _, reports⟩ := troubled.scans_repeatable [.batch [0], .batch [0]]
  obtain ⟨_, soon, late, _⟩ := reports [] [0] [.batch [0]] _ .null rfl (troubled_collected [])
  have first : ((troubled.after [.batch [0]]).report ⟨[], 1⟩ .null).errors = [trouble] := by
    refine soon.trans ?_
    rw [List.nil_append, List.flatMap_singleton, troubled_added]
    rfl
  refine ⟨first, (congrArg ScanReport.errors late).trans ?_⟩
  rw [List.flatMap_singleton, troubled_added]
  exact congrArg (· ++ [trouble]) first

/-- A report does not keep to the scans up to its own. -/
theorem report_shows_later_errors :
    ¬ ∀ (session : Session) (earlier : List Scan) (indexes : List Nat) (later : List Scan)
        (batch : Batch) (seconds : Value),
      ((session.after earlier).scanAll indexes).1 = .ok batch →
      ((session.after (earlier ++ .batch indexes :: later)).report batch seconds).errors =
        session.engine.errors ++ (earlier ++ [Scan.batch indexes]).flatMap session.added := by
  intro keeps
  have same := keeps troubled [] [0] [.batch [0]] _ .null (troubled_collected [])
  rw [report, (troubled.after_alike _).2] at same
  simp [troubled_added] at same

end Session

end QueryLint
