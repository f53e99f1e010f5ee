import QueryLint.Document.Basic
import QueryLint.Literal
import QueryLint.Reference.Extract

/-! The scan of a statement. It starts at a literal that looks like a query and collects the
variables that get into the query text unquoted: those interpolated into a literal, unless
they are marked safe on its line, and symbols that are joined on. -/
namespace QueryLint

/-- The tokens of a statement from some token on, without the terminator. A stretch that is
not closed goes round in a circle. -/
structure Stretch where
  tokens : List Token
  closed : Bool

def Pool.stretchFrom (pool : Pool) : Nat → Option Nat → Stretch
  | _, none => ⟨[], true⟩
  | 0, some _ => ⟨[], false⟩
  | fuel + 1, some index =>
    match pool[index]? with
    | none => ⟨[], true⟩
    | some node =>
      if node.token.kind = .terminator then ⟨[], true⟩
      else
        let rest := pool.stretchFrom fuel node.next
        ⟨node.token :: rest.tokens, rest.closed⟩

/-- More tokens than the pool holds are never distinct. -/
def Pool.stretch (pool : Pool) (start : Nat) : Stretch :=
  pool.stretchFrom (pool.size + 1) (some start)

def unsafeVariables (safe : SafeVariables) (token : Token) : Except Fault (List String) := do
  if ← token.isInterpolated then
    let allowed ← safe.onLine token.effectiveLine
    return (Reference.spellings token.literalText).filter (· ∉ allowed)
  else return []

/-- Reads the tokens of a statement in order. A symbol counts when it is joined on: `joining`
says whether the last operator, literal or symbol is a joining operator. The first token that
fails ends the reading. -/
def readTokens (safe : SafeVariables) (joining : Bool) :
    List Token → Except (Token × Fault) (List String)
  | [] => .ok []
  | token :: rest =>
    match token.kind with
    | .terminator => .ok []
    | .operator => readTokens safe token.isJoin rest
    | .symbol =>
      if joining then (readTokens safe false rest).map (token.content :: ·)
      else readTokens safe false rest
    | .comment | .other => readTokens safe joining rest
    | .literalSingle | .literalDouble | .literalInterpolate | .blockLiteral =>
      match unsafeVariables safe token with
      | .error fault => .error (token, fault)
      | .ok found => (readTokens safe false rest).map (found ++ ·)

inductive StatementScan where
  | complete (exposed : List String)
  | unreadable (token : Token) (content : String)
  | failed (fault : Fault)

namespace StatementScan

def ofReading (closed : Bool) : Except (Token × Fault) (List String) → StatementScan
  | .ok exposed => if closed then complete exposed else failed .endlessStatement
  | .error (token, .unknownFormat content) => unreadable token content
  | .error (_, fault) => failed fault

def log : StatementScan → List LogEntry
  | unreadable token content => [⟨.debug, .statements,
      "Unable to classify " ++ token.display ++ ": " ++ (Fault.unknownFormat content).message⟩]
  | _ => []

end StatementScan

/-- Scans the statement from a token on. A token that does not look like a query starts
nothing. -/
def scanStatement (pool : Pool) (safe : SafeVariables) (start : Nat) : StatementScan :=
  if (pool.token? start).any Token.isEntry then
    let stretch := pool.stretch start
    .ofReading stretch.closed (readTokens safe false stretch.tokens)
  else .complete []

end QueryLint
