import QueryLint.Engine.Scan
import QueryLint.ScanReport

/-! An engine at work on a set of documents. Errors add up over the scans of a session. -/
namespace QueryLint

structure Session where
  engine : Engine
  registry : Registry := .standard
  documents : Array Document := #[]

structure Batch where
  findings : List Finding := []
  scanned : Nat := 0

/-- Only a scan that came to its end counts. -/
def Batch.add (batch : Batch) : Except Fault (List Finding) → Batch
  | .ok findings => ⟨batch.findings ++ findings, batch.scanned + 1⟩
  | .error _ => batch

/-- The entry about the document at `path` if its scan has broken off. -/
def closing (path : String) : Except Fault (List Finding) → List String
  | .ok _ => []
  | .error fault => ["Error scanning " ++ path ++ ": " ++ fault.message]

def closingLog (path : String) : Except Fault (List Finding) → List LogEntry
  | .ok _ => []
  | .error _ => [⟨.error, .engine, "Error scanning " ++ path⟩]

namespace Session

def addErrors (session : Session) (errors : List String) : Session :=
  { session with engine := { session.engine with errors := session.engine.errors ++ errors } }

def rules [Nesting] (session : Session) : Except Fault (List RuleInstance × Session) := do
  let (rules, registry) ← session.engine.rules session.registry
  return (rules, { session with registry })

/-- Scans a document with some rules. The errors met before a fault are kept, the findings are
not. -/
def scanWith (session : Session) (rules : List RuleInstance) (index : Nat) (document : Document) :
    Except Fault (List Finding) × List LogEntry × Session :=
  let scan := scanDocument session.engine.threshold rules document
  let session := { session with documents := session.documents.setIfInBounds index scan.document }
  (scan.result, scan.log, session.addErrors scan.errors)

def scan [Nesting] (session : Session) (index : Nat) :
    Except Fault (List Finding) × List LogEntry × Session :=
  match session.documents[index]? with
  | none => (.ok [], [], session)
  | some document =>
    match session.rules with
    | .error fault => (.error fault, [], session)
    | .ok (rules, session) => session.scanWith rules index document

def pathOf (session : Session) (index : Nat) : String :=
  (session.documents[index]?).elim "" (·.path)

/-- Scans documents one after another. A document whose scan ends early costs one more error
and adds no findings. -/
def scanEach [Nesting] (session : Session) (batch : Batch) :
    List Nat → Batch × List LogEntry × Session
  | [] => (batch, [], session)
  | index :: rest =>
    let (result, log, session) := session.scan index
    let path := session.pathOf index
    let (batch, later, session) :=
      (session.addErrors (closing path result)).scanEach (batch.add result) rest
    (batch, log ++ closingLog path result ++ later, session)

/-- Scans a batch of documents. More than one document needs a number of workers. -/
def scanAll [Nesting] (session : Session) (indexes : List Nat) :
    Except Fault Batch × List LogEntry × Session :=
  if indexes.length > 1 && session.engine.maxWorkers.exceedsOne?.isNone then
    (.error .unsuitableValue, [], session)
  else
    let (batch, log, session) := session.scanEach {} indexes
    (.ok batch, log, session)

/-- The report on a batch. It shows the errors of the session up to now, also those met after
the batch was scanned. -/
def report (session : Session) (batch : Batch) (seconds : Value) : ScanReport where
  findings := sortFindings batch.findings
  documentsScanned := .int batch.scanned
  scanSeconds := seconds
  rulesApplied := (appliedRules batch.findings).names
  errors := session.engine.errors

end Session

end QueryLint
