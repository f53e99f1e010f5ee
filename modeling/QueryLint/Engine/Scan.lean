import QueryLint.Engine.Basic
import QueryLint.Suppression

/-! The scan of one document: every token is put before every rule that applies to it. A rule
that fails on a token costs one error and nothing else. A rule that cannot say whether it applies
ends the scan of the document, and so does one that fails on a line that cannot be shown. -/
namespace QueryLint

inductive Contribution where
  | nothing
  | error (message : String)
  | finding (finding : Finding)

namespace Contribution

/-- Findings count from the threshold on. -/
def findings (threshold : Severity) : Contribution → List Finding
  | finding f => if threshold ≤ f.severity then [f] else []
  | _ => []

def errors : Contribution → List String
  | error message => [message]
  | _ => []

end Contribution

def suppressionReason : String := "Inline suppression comment"

def LineTable.mark (silences : LineTable Silence) (line : Int) (finding : Finding) : Finding :=
  if (silences.get? line).any (·.covers finding.ruleId) then finding.suppress suppressionReason
  else finding

namespace RuleInstance

def failure (self : RuleInstance) (path : String) (token : Token) (fault : Fault) : String :=
  "Error running rule " ++ self.id ++ " on " ++ path ++ ":" ++ (Value.int token.line).display ++
    ": " ++ fault.message

/-- What a rule adds by its answer about a token. The entry about a rule that fails names the line
of the token; where that cannot be shown there is no entry, and the scan cannot go on. -/
def contribution (self : RuleInstance) (silences : LineTable Silence) (path : String)
    (token : Token) : Except Fault (Option Finding) → Except Fault Contribution
  | .error fault =>
    (overlong? token.line).elim (.ok (.error (self.failure path token fault))) .error
  | .ok none => .ok .nothing
  | .ok (some finding) => .ok (.finding (silences.mark token.line finding))

def failureLog (self : RuleInstance) (path : String) (token : Token) :
    Except Fault Contribution → List LogEntry
  | .ok (.error _) => [⟨.error, .engine,
      "Rule " ++ self.id ++ " failed on " ++ path ++ ":" ++ (Value.int token.line).display⟩]
  | _ => []

end RuleInstance

/-- What comes of putting one token before one rule; a fault ends the scan. -/
structure PairScan where
  result : Except Fault Contribution
  document : Document
  log : List LogEntry := []

def scanPair (silences : LineTable Silence) (document : Document) (index : Nat) (token : Token)
    (self : RuleInstance) : PairScan :=
  match self.rule.applies token with
  | .error fault => { result := .error fault, document }
  | .ok false => { result := .ok .nothing, document }
  | .ok true =>
    let judgement := self.judge document index token
    let result := self.contribution silences document.path token judgement.finding
    { result
      document := judgement.document
      log := judgement.log ++ self.failureLog document.path token result }

/-- The outcome of scanning a document: findings and errors in order, and the fault that ended
the scan early. -/
structure DocumentScan where
  document : Document
  findings : List Finding := []
  errors : List String := []
  log : List LogEntry := []
  fault : Option Fault := none

/-- A scan that ends early gives no findings. -/
def DocumentScan.result (scan : DocumentScan) : Except Fault (List Finding) :=
  scan.fault.elim (.ok scan.findings) .error

def scanPairs (threshold : Severity) (silences : LineTable Silence) (document : Document) :
    List ((Nat × Token) × RuleInstance) → DocumentScan
  | [] => { document }
  | ((index, token), self) :: rest =>
    let pair := scanPair silences document index token self
    match pair.result with
    | .error fault => { document := pair.document, log := pair.log, fault := some fault }
    | .ok contribution =>
      let later := scanPairs threshold silences pair.document rest
      { later with
        findings := contribution.findings threshold ++ later.findings
        errors := contribution.errors ++ later.errors
        log := pair.log ++ later.log }

def Document.pairs (document : Document) (rules : List RuleInstance) :
    List ((Nat × Token) × RuleInstance) :=
  document.tokens.flatMap fun token => rules.map (token, ·)

def scanDocument (threshold : Severity) (rules : List RuleInstance) (document : Document) :
    DocumentScan :=
  let scan := scanPairs threshold document.silences document (document.pairs rules)
  match scan.fault with
  | some _ => scan
  | none =>
    { scan with log := scan.log ++ [⟨.debug, .engine,
        "Found " ++ toString scan.findings.length ++ " finding(s) in " ++ document.path⟩] }

end QueryLint
