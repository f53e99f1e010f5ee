import QueryLint.Limits

/-! Tokens of a source file, as the host hands them over. -/
namespace QueryLint

inductive TokenKind where
  | literalSingle
  | literalDouble
  | literalInterpolate
  | blockLiteral
  | operator
  | symbol
  | terminator
  | comment
  | other
deriving DecidableEq, Repr

namespace TokenKind

def name : TokenKind → String
  | literalSingle => "literal_single"
  | literalDouble => "literal_double"
  | literalInterpolate => "literal_interpolate"
  | blockLiteral => "block_literal"
  | operator => "operator"
  | symbol => "symbol"
  | terminator => "statement_terminator"
  | comment => "comment"
  | other => "other"

def all : List TokenKind :=
  [literalSingle, literalDouble, literalInterpolate, blockLiteral, operator, symbol, terminator,
    comment, other]

def literals : List TokenKind := [literalSingle, literalDouble, literalInterpolate, blockLiteral]

def isLiteral (kind : TokenKind) : Bool := kind ∈ literals

def ofValue [Nesting] (value : Value) : Except Fault TokenKind :=
  Choice.tokenKind.pick (all.map fun kind => (kind.name, kind)) value

end TokenKind

inductive BlockMode where
  | interpolate
  | literal
  | command
deriving DecidableEq, Repr

namespace BlockMode

def name : BlockMode → String
  | interpolate => "interpolate"
  | literal => "literal"
  | command => "command"

def ofValue [Nesting] (value : Value) : Except Fault BlockMode :=
  Choice.blockMode.pick ([interpolate, literal, command].map fun mode => (mode.name, mode)) value

end BlockMode

/-- A token. The content of a block literal is its opening delimiter; `heredoc` holds the
lines of its body and the closing delimiter. -/
structure Token where
  kind : TokenKind
  content : String
  line : Int
  heredoc : List String := []
  blockMode : Option BlockMode := none
deriving DecidableEq, Repr

namespace Token

def display (token : Token) : String :=
  "Token(kind=" ++ Text.quoted token.kind.name ++ ", content=" ++ Text.quoted token.content ++
    ", line=" ++ (Value.int token.line).display ++ ")"

end Token

end QueryLint
