import QueryLint.Proofs.Engine.Settled
import QueryLint.Session

/-! What the scan of a document depends on. A scan leaves traces in its session: it reads the
annotations of its document, makes instances of rules and adds errors. The basis of a session is
what these traces do not change, and it alone decides what later scans find. -/
namespace QueryLint

/-- How the scan of a document with some rules ends, and the errors it adds. -/
def surveyDocument (threshold : Severity) (rules : Except Fault (List RuleInstance))
    (document : Document) : Prospect :=
  match rules with
  | .error fault => (.error fault, [])
  | .ok rules => (scanDocument threshold rules document).prospect

theorem surveyDocument_tally (threshold : Severity) (rules : List RuleInstance)
    (document : Document) :
    surveyDocument threshold (.ok rules) document =
      tally threshold ((document.pairs rules).map document.alone) :=
  (scanDocument_tally threshold rules document).1

theorem surveyDocument_settled (threshold : Severity) (rules : List RuleInstance)
    (document : Document) :
    surveyDocument threshold (.ok (rules.map RuleInstance.unnumbered)) document.settled =
      surveyDocument threshold (.ok rules) document := by
  rw [surveyDocument_tally, surveyDocument_tally, map_alone_pairs]

/-- All that the scan of a document depends on. -/
structure Basis where
  threshold : Severity
  config : Value
  ids : List String
  standing : String → Option RuleInstance
  runs : String → Bool
  documents : Array Document

namespace Basis

/-- The rules of a session for which some instances are taken and others still to be got. -/
def selection [Nesting] (basis : Basis) (ids : List String) (taken : List RuleInstance) :
    Except Fault (List RuleInstance) :=
  (Registry.enlist basis.standing (basis.config.hindrance? .showing) ids).map fun others =>
    (taken.map RuleInstance.unnumbered ++ others).filter fun self => basis.runs self.id

/-- The scan of a document with such rules. -/
def remainder [Nesting] (basis : Basis) (index : Nat) (ids : List String)
    (taken : List RuleInstance) : Prospect :=
  match basis.documents[index]? with
  | none => (.ok [], [])
  | some document => surveyDocument basis.threshold (basis.selection ids taken) document

section Selection

variable [Nesting] {basis : Basis} {self : RuleInstance} {id : String} {ids : List String}
  {taken : List RuleInstance}

end Selection

end Basis

namespace Session

def basis (session : Session) : Basis where
  threshold := session.engine.threshold
  config := session.engine.ruleConfig
  ids := session.registry.ids
  standing := session.registry.standing session.engine.ruleConfig
  runs := session.engine.runs session.registry
  documents := session.documents.map Document.settled

@[simp] theorem addErrors_basis (session : Session) (errors : List String) :
    (session.addErrors errors).basis = session.basis :=
  rfl

theorem basis_document (session : Session) (index : Nat) :
    session.basis.documents[index]? = (session.documents[index]?).map Document.settled := by
  simp [basis]

theorem pathOf_congr {session later : Session} (same : later.basis = session.basis) :
    later.pathOf = session.pathOf := by
  have path : ∀ (session : Session) (index : Nat), session.pathOf index =
      (session.basis.documents[index]?).elim "" (·.path) := by
    intro session index
    rw [pathOf, basis_document]
    cases session.documents[index]? <;> rfl
  funext index
  rw [path, path, same]

theorem registry_basis {session : Session} {registry : Registry}
    (standing : registry.standing session.engine.ruleConfig =
      session.registry.standing session.engine.ruleConfig)
    (rules : registry.rules = session.registry.rules) (off : registry.off = session.registry.off) :
    { session with registry }.basis = session.basis := by
  have ids : registry.ids = session.registry.ids := by rw [Registry.ids, rules, Registry.ids]
  simp only [basis, standing, ids, Engine.runs_congr rules off]

theorem documents_basis {session : Session} {index : Nat} {document later : Document}
    (present : session.documents[index]? = some document)
    (same : later.settled = document.settled) :
    { session with documents := session.documents.setIfInBounds index later }.basis =
      session.basis := by
  have unchanged : (session.documents.setIfInBounds index later).map Document.settled =
      session.documents.map Document.settled := by
    apply Array.ext_getElem?
    intro i
    rw [Array.getElem?_map, Array.getElem?_map, Array.getElem?_setIfInBounds]
    by_cases here : index = i
    · subst here
      obtain ⟨bound, _⟩ := Array.getElem?_eq_some_iff.mp present
      rw [if_pos rfl, if_pos bound, present, Option.map_some, Option.map_some, same]
    · rw [if_neg here]
  simp only [basis, unchanged]

section Outcome

variable [Nesting]

/-- The rules of a session are those that its basis selects. -/
theorem rules_basis (session : Session) :
    match session.rules with
    | .error fault => session.basis.selection session.basis.ids [] = .error fault
    | .ok (rules, later) =>
      session.basis.selection session.basis.ids [] = .ok (rules.map RuleInstance.unnumbered) ∧
      later.basis = session.basis ∧ later.engine = session.engine ∧
      later.documents = session.documents := by
  have each := Registry.getEach_enlist session.engine.ruleConfig session.registry.ids
    session.registry
  simp only [rules, Engine.rules, Registry.getAll, bind, Except.bind, Basis.selection]
  cases got : session.registry.getEach session.engine.ruleConfig session.registry.ids with
  | error fault =>
    rw [got] at each
    exact congrArg (Except.map _) each
  | ok found =>
    rw [got] at each
    obtain ⟨instances, registry⟩ := found
    obtain ⟨listed, standing, same, off⟩ := each
    have kept : { session with registry }.basis = session.basis := registry_basis standing same off
    have runs : session.engine.runs registry = session.basis.runs := congrArg Basis.runs kept
    refine ⟨(congrArg (Except.map _) listed).trans ?_, kept, rfl, rfl⟩
    simp only [Except.map, List.map_nil, List.nil_append, List.filter_map, runs]
    rfl

variable (session : Session)

/-- How the scan of a document ends by the rules of the session, and the errors it adds. -/
def outcome (index : Nat) : Prospect :=
  match session.documents[index]? with
  | none => (.ok [], [])
  | some document =>
    surveyDocument session.engine.threshold (session.rules.map Prod.fst) document

/-- The findings of a document that can be scanned to its end. -/
def yield (index : Nat) : List Finding := (session.outcome index).1.toOption.getD []

def completes (index : Nat) : Bool := (session.outcome index).1.isOk

/-- The errors that a document adds within a batch: one more when its scan does not come to its
end. -/
def batchErrors (index : Nat) : List String :=
  (session.outcome index).2 ++ closing (session.pathOf index) (session.outcome index).1

theorem outcome_basis (index : Nat) :
    session.outcome index = session.basis.remainder index session.basis.ids [] := by
  rw [outcome, Basis.remainder, basis_document]
  cases session.documents[index]? with
  | none => rfl
  | some document =>
    have listing := session.rules_basis
    cases got : session.rules with
    | error fault =>
      rw [got] at listing
      simp only [Option.map_some, listing]
      rfl
    | ok found =>
      rw [got] at listing
      simp only [Option.map_some, listing.1, surveyDocument_settled]
      rfl

theorem scan_outcome (index : Nat) :
    (session.scan index).1 = (session.outcome index).1 ∧
    (session.scan index).2.2.engine.errors = session.engine.errors ++ (session.outcome index).2 ∧
    (session.scan index).2.2.basis = session.basis := by
  cases present : session.documents[index]? with
  | none => simp [scan, outcome, present]
  | some document =>
    have listing := session.rules_basis
    cases got : session.rules with
    | error fault => simp [scan, outcome, present, got, surveyDocument, Except.map]
    | ok found =>
      obtain ⟨rules, later⟩ := found
      rw [got] at listing
      obtain ⟨_, basis, engine, documents⟩ := listing
      have settled := (scanDocument_tally later.engine.threshold rules document).2
      simp only [scan, outcome, present, got, scanWith, surveyDocument, Except.map]
      refine ⟨?_, ?_, ?_⟩
      · rw [engine]
        rfl
      · simp only [addErrors, engine]
        rfl
      · rw [addErrors_basis, documents_basis (documents ▸ present) settled, basis]

variable {session} {later : Session}

theorem outcome_congr (same : later.basis = session.basis) : later.outcome = session.outcome := by
  funext index
  rw [outcome_basis, outcome_basis, same]

theorem yield_congr (same : later.basis = session.basis) : later.yield = session.yield := by
  funext index
  rw [yield, yield, outcome_congr same]

theorem completes_congr (same : later.basis = session.basis) :
    later.completes = session.completes := by
  funext index
  rw [completes, completes, outcome_congr same]

theorem batchErrors_congr (same : later.basis = session.basis) :
    later.batchErrors = session.batchErrors := by
  funext index
  rw [batchErrors, batchErrors, outcome_congr same, pathOf_congr same]

theorem add_yield (batch : Batch) (index : Nat) :
    batch.add (session.outcome index).1 = ⟨batch.findings ++ session.yield index,
      batch.scanned + if session.completes index then 1 else 0⟩ := by
  rw [yield, completes]
  cases (session.outcome index).1 with
  | ok findings => rfl
  | error fault => simp [Batch.add, Except.toOption, Except.isOk, Except.toBool]

/-- Scans one after another add up what each document gives by itself. -/
theorem scanEach_outcome (indexes : List Nat) (session : Session) (batch : Batch) :
    (session.scanEach batch indexes).1 = ⟨batch.findings ++ indexes.flatMap session.yield,
      batch.scanned + indexes.countP session.completes⟩ ∧
    (session.scanEach batch indexes).2.2.engine.errors =
      session.engine.errors ++ indexes.flatMap session.batchErrors ∧
    (session.scanEach batch indexes).2.2.basis = session.basis := by
  induction indexes generalizing session batch with
  | nil => simp [scanEach]
  | cons index rest ih =>
    obtain ⟨result, errors, basis⟩ := session.scan_outcome index
    let next := (session.scan index).2.2.addErrors
      (closing ((session.scan index).2.2.pathOf index) (session.scan index).1)
    have kept : next.basis = session.basis := basis
    obtain ⟨collected, added, last⟩ := ih next (batch.add (session.scan index).1)
    have grown : next.engine.errors = session.engine.errors ++ session.batchErrors index := by
      show (session.scan index).2.2.engine.errors ++ closing _ _ = _
      rw [errors, result, pathOf_congr basis, batchErrors, List.append_assoc]
    refine ⟨collected.trans ?_, added.trans ?_, last.trans kept⟩
    · rw [result, add_yield, yield_congr kept, completes_congr kept, List.flatMap_cons,
        List.countP_cons, List.append_assoc]
      simp only [Batch.mk.injEq, true_and]
      omega
    · rw [grown, batchErrors_congr kept, List.flatMap_cons, List.append_assoc]

end Outcome

end Session

end QueryLint
