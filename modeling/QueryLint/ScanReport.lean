import QueryLint.Finding.Basic
import QueryLint.NameSet

/-! Reports on a batch of documents. -/
namespace QueryLint

def positionLe (a b : Finding) : Bool :=
  a.location.path < b.location.path ||
    (a.location.path == b.location.path && a.location.startLine ≤ b.location.startLine)

/-- The worst findings first, then by path and line; otherwise in the given order. -/
def sortFindings (findings : List Finding) : List Finding :=
  (findings.mergeSort positionLe).mergeSort fun a b => b.severity ≤ a.severity

structure ScanReport where
  findings : List Finding
  documentsScanned : Value
  scanSeconds : Value
  rulesApplied : List String
  errors : List String := []

namespace ScanReport

/-- The number of findings that are not silenced and satisfy `keep`. -/
def countOpen (report : ScanReport) (keep : Finding → Bool) : Nat :=
  report.findings.countP fun finding => keep finding && !finding.suppressed

def criticalCount (report : ScanReport) : Nat := report.countOpen (·.severity = .critical)

def highCount (report : ScanReport) : Nat := report.countOpen (·.severity = .high)

def openCount (report : ScanReport) : Nat := report.countOpen fun _ => true

def suppressedCount (report : ScanReport) : Nat := report.findings.countP (·.suppressed)

def summary (report : ScanReport) : Value := .object [
  ("documents_scanned", report.documentsScanned),
  ("scan_time_seconds", report.scanSeconds),
  ("rules_applied", .texts report.rulesApplied),
  ("total_findings", .int report.openCount),
  ("critical_findings", .int report.criticalCount),
  ("high_findings", .int report.highCount),
  ("suppressed_findings", .int report.suppressedCount)]

def toValue (report : ScanReport) : Value := .object [
  ("summary", report.summary),
  ("findings", .list (report.findings.map Finding.toValue)),
  ("errors", .texts report.errors)]

def toJson [Nesting] (report : ScanReport) (indent : Option Int) : Except Fault String :=
  Json.encode indent report.toValue

end ScanReport

def appliedRules (findings : List Finding) : NameSet := .ofList (findings.map (·.ruleId))

end QueryLint
