import QueryLint.Json.Printer
import QueryLint.Severity

/-! Findings, as they are handed to a report. -/
namespace QueryLint

structure Location where
  path : String
  startLine : Int
  endLine : Int
deriving DecidableEq, Repr

def Location.display (location : Location) : String :=
  location.path ++ ":" ++ (Value.int location.startLine).display

structure Snippet where
  code : String
  line : Int
  before : List String := []
  after : List String := []
deriving DecidableEq, Repr

structure Remediation where
  description : String
  beforeCode : Option String := none
  afterCode : Option String := none
  references : List String := []
  cweId : Option String := none
deriving DecidableEq, Repr

/-- One flagged token, with the variables that it exposes. The anchor is its position in the
token pool and is not written. -/
structure Finding where
  ruleId : String
  description : String
  explanation : String
  severity : Severity
  confidence : Confidence
  category : Category
  location : Location
  exposed : List String := []
  snippet : Option Snippet := none
  remediation : Option Remediation := none
  tags : List String := []
  metadata : Value := .object []
  anchor : Option Nat := none
  suppressed : Bool := false
  suppressionReason : Option String := none

def Location.toValue (location : Location) : Value := .object [
  ("file_path", .text location.path),
  ("start_line", .int location.startLine),
  ("end_line", .int location.endLine)]

def Snippet.toValue (snippet : Snippet) : Value := .object [
  ("code", .text snippet.code),
  ("highlighted_line", .int snippet.line),
  ("context_before", .texts snippet.before),
  ("context_after", .texts snippet.after)]

def Remediation.toValue (remediation : Remediation) : Value := .object [
  ("description", .text remediation.description),
  ("before_code", .optional remediation.beforeCode),
  ("after_code", .optional remediation.afterCode),
  ("references", .texts remediation.references),
  ("cwe_id", .optional remediation.cweId)]

namespace Finding

def suppress (finding : Finding) (reason : String) : Finding :=
  { finding with suppressed := true, suppressionReason := some reason }

/-- What is absent is left out, and so is an empty reason. -/
def optionalFields (finding : Finding) : Fields :=
  .optional "snippet" (finding.snippet.map Snippet.toValue) ++
  .optional "remediation" (finding.remediation.map Remediation.toValue) ++
  .optional "suppression_reason" ((finding.suppressionReason.filter (· != "")).map .text)

def mainFields (finding : Finding) : Fields := [
  ("rule_id", .text finding.ruleId),
  ("description", .text finding.description),
  ("explanation", .text finding.explanation),
  ("severity", .text finding.severity.name),
  ("confidence", .text finding.confidence.name),
  ("category", .text finding.category.name),
  ("location", finding.location.toValue),
  ("variables", .texts finding.exposed),
  ("tags", .texts finding.tags),
  ("metadata", finding.metadata),
  ("suppressed", .bool finding.suppressed)]

def toValue (finding : Finding) : Value := .object (finding.mainFields ++ finding.optionalFields)

def toJson [Nesting] (finding : Finding) (indent : Option Int) : Except Fault String :=
  Json.encode indent finding.toValue

end Finding

end QueryLint
