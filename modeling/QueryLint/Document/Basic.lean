import QueryLint.SafeVariables

/-! Documents: the tokens of one source file. Tokens live in a pool, where each may be linked
to the token that follows it in its statement; the links are the host's and may form any
shape, circles included. -/
namespace QueryLint

structure Node where
  token : Token
  next : Option Nat := none

abbrev Pool := Array Node

namespace Pool

def token? (pool : Pool) (index : Nat) : Option Token := (pool[index]?).map (·.token)

def next? (pool : Pool) (index : Nat) : Option Nat := (pool[index]?).bind (·.next)

def link (pool : Pool) (index : Nat) (next : Option Nat) : Pool :=
  pool.modify index fun node => { node with next }

/-- Links the tokens of one statement to one another, and the last one to none. -/
def linkStatement (pool : Pool) : List Nat → Pool
  | [] => pool
  | [last] => pool.link last none
  | index :: next :: rest => (pool.link index (some next)).linkStatement (next :: rest)

def linkStatements (pool : Pool) (statements : List (List Nat)) : Pool :=
  statements.foldl linkStatement pool

end Pool

/-- A document: the pool, and which of its tokens make up the document, in order. -/
structure Document where
  pool : Pool
  members : List Nat
  path : String := "<unknown>"
  source : Option String := none
  safe : SafeVariables := {}

namespace Document

def ofStatements (pool : Pool) (statements : List (List Nat)) (path : String)
    (source : Option String) : Document where
  pool := pool.linkStatements statements
  members := statements.flatten
  path := path
  source := source

def tokens (document : Document) : List (Nat × Token) :=
  document.members.filterMap fun index => (document.pool.token? index).map (index, ·)

def find (document : Document) (kind : TokenKind) : List (Nat × Token) :=
  document.tokens.filter (·.2.kind = kind)

def comments (document : Document) : List Token := (document.find .comment).map (·.2)

def append (document : Document) (token : Token) : Document :=
  { document with
    pool := document.pool.push { token }
    members := document.members ++ [document.pool.size] }

def link (document : Document) (index : Nat) (next : Option Nat) : Document :=
  { document with pool := document.pool.link index next }

/-- Reads the annotations of the document, unless that is done. -/
def readAnnotations (document : Document) : Document × List LogEntry :=
  let (safe, log) := document.safe.build document.path document.comments
  ({ document with safe }, log)

def forgetAnnotations (document : Document) : Document := { document with safe := {} }

end Document

end QueryLint
