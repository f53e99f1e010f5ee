import QueryLint.Rule.Basic
import QueryLint.Statement

/-! The rule against variables in query text. -/
namespace QueryLint.Rule

def injectionMetadata : RuleMetadata where
  id := "PreventSQLInjection"
  name := "Prevent SQL Injection"
  description := "SQL injection risk."
  severity := .critical
  confidence := .medium
  category := .injection
  appliesTo := TokenKind.literals
  tags := ["security", "injection", "sql"]
  references := [
    "https://owasp.org/www-community/attacks/SQL_Injection",
    "https://cheatsheetseries.owasp.org/cheatsheets/Query_Parameterization_Cheat_Sheet.html"]
  cweId := some "CWE-89"
  owaspId := some "A03:2021"

def injectionRemediation : Remediation where
  description := "Pass values to the database through placeholders instead of " ++
    "interpolating them. If a variable was already quoted with " ++
    "$dbh->quote(), mark it with '## SQL safe ($var)' rather than " ++
    "disabling the rule for the whole statement."
  beforeCode := some "my $sql = \"SELECT * FROM users WHERE id = $id\";"
  afterCode := some
    "my $sth = $dbh->prepare(\"SELECT * FROM users WHERE id = ?\");\n$sth->execute($id);"
  references := injectionMetadata.references
  cweId := some "CWE-89"

/-- A statement that cannot be read is skipped with a warning. -/
def injectionVerdict (path : String) (token : Token) (scan : StatementScan) : Verdict :=
  match scan with
  | .complete [] => { violation := .ok none, log := scan.log }
  | .complete exposed =>
    { violation := .ok (some {
        explanation := "Variables in interpolated SQL string are susceptible to SQL injection: " ++
          ", ".intercalate exposed
        exposed
        endLine := some token.effectiveLine })
      log := scan.log }
  | .unreadable _ content =>
    { violation := .ok none
      log := scan.log ++ [⟨.warning, .injection,
        "Skipping statement at " ++ path ++ ":" ++ (Value.int token.line).display ++ ": " ++
          (Fault.unknownFormat content).message⟩] }
  | .failed fault => { violation := .error fault, log := scan.log }

def injection : Rule where
  metadata := injectionMetadata
  remediation := some injectionRemediation
  readsAnnotations := true
  applies := injectionMetadata.admits
  judge document index token :=
    injectionVerdict document.path token (scanStatement document.pool document.safe index)

end QueryLint.Rule
