import QueryLint.Document.Snippet
import QueryLint.Text.Case

/-! Rules. A rule is asked about every token of the kinds it applies to, and may report a
violation, which becomes a finding at that token. -/
namespace QueryLint

structure RuleMetadata where
  id : String
  name : String
  description : String
  severity : Severity
  confidence : Confidence
  category : Category
  appliesTo : List TokenKind
  tags : List String := []
  references : List String := []
  cweId : Option String := none
  owaspId : Option String := none
  enabledByDefault : Bool := true

structure Violation where
  explanation : String
  exposed : List String := []
  endLine : Option Int := none
  metadata : Value := .object []

structure Verdict where
  violation : Except Fault (Option Violation)
  log : List LogEntry := []

/-- A rule. `applies` decides whether a token is put before it, `judge` looks at a token at
its position in a document. Annotations are read for a rule that needs them and are hidden from
all others, so what a rule says does not depend on the rules asked before. -/
structure Rule where
  metadata : RuleMetadata
  remediation : Option Remediation := none
  readsAnnotations : Bool := false
  applies : Token → Except Fault Bool
  judge : Document → Nat → Token → Verdict

def RuleMetadata.admits (metadata : RuleMetadata) (token : Token) : Except Fault Bool :=
  .ok (token.kind ∈ metadata.appliesTo)

/-- A rule with its settings. The serial number tells instances apart. -/
structure RuleInstance where
  serial : Nat
  rule : Rule
  config : Value

structure Judgement where
  finding : Except Fault (Option Finding)
  document : Document
  log : List LogEntry

namespace RuleInstance

def id (self : RuleInstance) : String := self.rule.metadata.id

/-- The severity of the rule, unless the settings override it by a name in any case. -/
def severity (self : RuleInstance) : Except Fault Severity := do
  let overrides ← self.config.orEmpty.field "severity_overrides" (.object [])
  let override ← overrides.field self.id .null
  if override.isTruthy then
    match override with
    | .text name => Severity.ofName (Text.lower name)
    | value => .error (.missingMember value "lower")
  else return self.rule.metadata.severity

def snippetContext : Int := 3

/-- The finding for a violation at a token. It ends on the token's line unless the violation
names another one; line zero is none. -/
def finding (self : RuleInstance) (document : Document) (index : Nat) (token : Token)
    (violation : Violation) : Except Fault Finding := do
  let severity ← self.severity
  return {
    ruleId := self.id
    description := self.rule.metadata.description
    explanation := violation.explanation
    severity
    confidence := self.rule.metadata.confidence
    category := self.rule.metadata.category
    location := {
      path := document.path
      startLine := token.line
      endLine := (violation.endLine.filter (· != 0)).getD token.line }
    exposed := violation.exposed
    snippet := document.snippet? token.line snippetContext
    remediation := self.rule.remediation
    tags := self.rule.metadata.tags
    metadata := violation.metadata.orEmpty
    anchor := some index }

def judge (self : RuleInstance) (document : Document) (index : Nat) (token : Token) :
    Judgement :=
  let reads := self.rule.readsAnnotations
  let (document, log) := if reads then document.readAnnotations else (document, [])
  let verdict :=
    self.rule.judge (if reads then document else document.forgetAnnotations) index token
  { finding := do
      match ← verdict.violation with
      | none => return none
      | some violation => return some (← self.finding document index token violation)
    document
    log := log ++ verdict.log }

end RuleInstance

end QueryLint
