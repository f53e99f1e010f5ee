import QueryLint.Yaml.Text

/-! Tokens of a YAML text. Columns and line ends become tokens of their own, which open and
close the blocks. Whether a token is a key shows only at the colon behind it; then the marks of
a key go in before it. -/
namespace QueryLint.Yaml

inductive Bracket where
  | square
  | curly
deriving DecidableEq, Repr

inductive Token where
  | documentStart
  | documentEnd
  | textEnd
  | blockList
  | blockMapping
  | blockEnd
  | opening (bracket : Bracket)
  | closing (bracket : Bracket)
  | comma
  | dash
  | key
  | colon
  | scalar (text : List Char) (plain : Bool)
deriving DecidableEq, Repr

structure Candidate where
  place : Nat
  start : Cursor
  required : Bool

/-- A colon makes a key of what starts on its line, at most this number of characters before. -/
def keyReach : Nat := 1024

def Candidate.reaches (candidate : Candidate) (cursor : Cursor) : Bool :=
  candidate.start.line == cursor.line && cursor.index ≤ candidate.start.index + keyReach

structure Scan where
  cursor : Cursor
  size : Nat
  tokens : List Token := []
  count : Nat := 0
  blocks : List Nat := []
  depth : Nat := 0
  keysAllowed : Bool := true
  /-- The candidates with the number of brackets around them, the innermost first; no number
  comes twice. -/
  candidates : List (Nat × Candidate) := []

namespace Scan

def insert (scan : Scan) (place : Nat) (token : Token) : Scan :=
  let later := scan.count - place
  { scan with
    tokens := scan.tokens.take later ++ token :: scan.tokens.drop later
    count := scan.count + 1 }

def take (scan : Scan) (length : Nat) (token : Token) : Scan :=
  { scan.insert scan.count token with cursor := scan.cursor.advance length }

/-- Passes what is no token. Outside brackets a new line may start with a key. -/
def skip (scan : Scan) : Scan :=
  let cursor := scan.cursor.skip
  let isNewLine := cursor.line != scan.cursor.line && scan.depth == 0
  { scan with cursor, keysAllowed := scan.keysAllowed || isNewLine }

/-- Forgets the candidates that no colon can reach any more. -/
def forgetFar (scan : Scan) : Except Fault Scan :=
  let isFar (entry : Nat × Candidate) := !entry.2.reaches scan.cursor
  if !scan.candidates.any isFar then .ok scan
  else if scan.candidates.any fun entry => isFar entry && entry.2.required then
    .error .malformedYaml
  else .ok { scan with candidates := scan.candidates.filter fun entry => !isFar entry }

def candidate? (scan : Scan) : Option Candidate :=
  match scan.candidates with
  | (depth, candidate) :: _ => if depth == scan.depth then some candidate else none
  | [] => none

def forgetHere (scan : Scan) : Except Fault Scan :=
  match scan.candidate? with
  | none => .ok scan
  | some candidate =>
    if candidate.required then .error .malformedYaml
    else .ok { scan with candidates := scan.candidates.drop 1 }

def propose (scan : Scan) : Except Fault Scan :=
  if scan.keysAllowed then do
    let scan ← scan.forgetHere
    let required := scan.depth == 0 && scan.blocks.head? == some scan.cursor.column
    let candidate : Candidate := ⟨scan.count, scan.cursor, required⟩
    return { scan with candidates := (scan.depth, candidate) :: scan.candidates }
  else .ok scan

/-- Ends the blocks whose column is further in, but none inside brackets. -/
def endBlocks (scan : Scan) (isFurtherIn : Nat → Bool) : Scan :=
  if scan.depth != 0 then scan
  else
    let ended := scan.blocks.takeWhile isFurtherIn
    { scan with
      tokens := ended.map (fun _ => .blockEnd) ++ scan.tokens
      count := scan.count + ended.length
      blocks := scan.blocks.dropWhile isFurtherIn }

def openBlock (scan : Scan) (column place : Nat) (token : Token) : Scan :=
  if scan.depth == 0 && scan.blocks.head?.all (· < column) then
    { scan.insert place token with blocks := column :: scan.blocks }
  else scan

def border (scan : Scan) (length : Nat) (token : Token) : Except Fault Scan := do
  let scan ← (scan.endBlocks fun _ => true).forgetHere
  return { scan.take length token with keysAllowed := false }

def openBracket (scan : Scan) (bracket : Bracket) : Except Fault Scan := do
  let scan ← scan.propose
  return { scan.take 1 (.opening bracket) with depth := scan.depth + 1, keysAllowed := true }

def closeBracket (scan : Scan) (bracket : Bracket) : Except Fault Scan := do
  let scan ← scan.forgetHere
  return { scan.take 1 (.closing bracket) with depth := scan.depth - 1, keysAllowed := false }

def takeComma (scan : Scan) : Except Fault Scan := do
  let scan ← scan.forgetHere
  return { scan.take 1 .comma with keysAllowed := true }

/-- A dash, or a question mark before a key, where a block may start. -/
def takeMark (scan : Scan) (block token : Token) : Except Fault Scan :=
  if scan.depth == 0 && !scan.keysAllowed then .error .malformedYaml
  else do
    let scan ← (scan.openBlock scan.cursor.column scan.count block).forgetHere
    return scan.take 1 token

def takeDash (scan : Scan) : Except Fault Scan :=
  (scan.takeMark .blockList .dash).map ({ · with keysAllowed := true })

def takeQuestion (scan : Scan) : Except Fault Scan :=
  (scan.takeMark .blockMapping .key).map fun scan =>
    { scan with keysAllowed := scan.depth == 0 }

/-- A colon makes a key of the candidate here. Without one it needs a question mark before. -/
def takeColon (scan : Scan) : Except Fault Scan :=
  match scan.candidate? with
  | some candidate =>
    let scan := { scan.insert candidate.place .key with candidates := scan.candidates.drop 1 }
    let scan := scan.openBlock candidate.start.column candidate.place .blockMapping
    .ok { scan.take 1 .colon with keysAllowed := false }
  | none =>
    (scan.takeMark .blockMapping .colon).map fun scan =>
      { scan with keysAllowed := scan.depth == 0 }

def takeScalar (scan : Scan) (read : Scan → Except Fault ScalarText) (plain : Bool) :
    Except Fault Scan := do
  let scan ← scan.propose
  let found ← read scan
  return { scan.take 0 (.scalar found.text plain) with
    cursor := found.after, keysAllowed := found.endsLine }

def takeQuoted (scan : Scan) (quote : Char) : Except Fault Scan :=
  scan.takeScalar (fun scan => quotedFrom quote scan.size [] scan.cursor.next) false

/-- A plain scalar goes on where it is further in than the block it stands in. -/
def takePlain (scan : Scan) : Except Fault Scan :=
  scan.takeScalar
    (fun scan => .ok <|
      plainFrom (scan.depth != 0) (scan.blocks.head?.elim 0 (· + 1)) scan.size [] scan.cursor)
    true

def step (scan : Scan) : Except Fault Scan := do
  let scan ← scan.skip.forgetFar
  let scan := scan.endBlocks (scan.cursor.column < ·)
  let inBrackets := scan.depth != 0
  match scan.cursor.rest with
  | [] => scan.border 0 .textEnd
  | c :: rest =>
    if scan.cursor.isAtMarker '-' then scan.border 3 .documentStart
    else if scan.cursor.isAtMarker '.' then scan.border 3 .documentEnd
    else if c == '[' then scan.openBracket .square
    else if c == '\x7b' then scan.openBracket .curly
    else if c == ']' then scan.closeBracket .square
    else if c == '\x7d' then scan.closeBracket .curly
    else if c == ',' then scan.takeComma
    else if c == '-' && atGap rest then scan.takeDash
    else if c == '?' && (inBrackets || atGap rest) then scan.takeQuestion
    else if c == ':' && (inBrackets || atGap rest) then scan.takeColon
    else if c == '\x27' || c == '\x22' then scan.takeQuoted c
    else if startsPlain inBrackets scan.cursor.rest then scan.takePlain
    else .error .malformedYaml

/-- The tokens that are certain: no colon can make a key of them or of one before them. -/
def settled (scan : Scan) : List Token :=
  match scan.candidates.getLast? with
  | none => scan.tokens.reverse
  | some (_, first) => (scan.tokens.drop (scan.count - first.place)).reverse

end Scan

/-- The tokens of a text, and the fault that stands behind them if they break off. -/
structure TokenRun where
  tokens : List Token
  fault : Fault

namespace TokenRun

/-- The fuel bounds the number of tokens that are read from the text. -/
def ofScan : Nat → Scan → TokenRun
  | 0, scan => ⟨scan.settled, .malformedYaml⟩
  | fuel + 1, scan =>
    match scan.forgetFar with
    | .error fault => ⟨scan.settled, fault⟩
    | .ok scan =>
      match scan.step with
      | .error fault => ⟨scan.settled, fault⟩
      | .ok next =>
        if next.tokens.head? == some .textEnd then ⟨next.tokens.reverse, .malformedYaml⟩
        else ofScan fuel next

def ofText (text : List Char) : TokenRun :=
  ofScan (text.length + 1) { cursor := { rest := text }, size := text.length }

end TokenRun

end QueryLint.Yaml
