import QueryLint.Yaml.Scalar
import QueryLint.Yaml.Token

/-! The structure of a YAML document, before its scalars are given a meaning. -/
namespace QueryLint.Yaml

inductive Tree where
  | scalar (text : List Char) (plain : Bool)
  | list (items : List Tree)
  | mapping (entries : List (Tree × Tree))
deriving Inhabited, Repr

/-- What stands where nothing is written. -/
def Tree.empty : Tree := .scalar [] true

/-- Where a tree is read: how deep it is nested, and what the tokens break off with. -/
structure Site where
  limits : Limits
  fault : Fault
  depth : Nat := 0

def Site.inner (site : Site) : Site := { site with depth := site.depth + 1 }

/-- What may stand at a place: blocks, and lists whose dashes are no further in. -/
inductive Scope where
  | brackets
  | block
  | entry
deriving DecidableEq

def Scope.allows (scope : Scope) : Token → Bool
  | .opening _ => true
  | .blockList | .blockMapping => scope != .brackets
  | .dash => scope = .entry
  | _ => false

def endsItem (token : Token) : Bool := token = .dash || token = .blockEnd

def endsEntry (token : Token) : Bool := token = .key || token = .colon || token = .blockEnd

def endsFlow (close : Bracket) (token : Token) : Bool :=
  token = .colon || token = .comma || token = .closing close

namespace Tree

mutual

/-- A tree at the start of the tokens. The fuel bounds the number of steps. -/
def read (site : Site) (scope : Scope) : Nat → List Token → Except Fault (Tree × List Token)
  | 0, _ => .error .malformedYaml
  | fuel + 1, tokens =>
    match tokens with
    | [] => .error site.fault
    | .scalar text plain :: rest => .ok (.scalar text plain, rest)
    | token :: rest =>
      if !scope.allows token then .error .malformedYaml
      else if !site.limits.allowsDepth (site.depth + 1) then .error (.tooDeep .composing)
      else
        match token with
        | .dash => readItems site.inner false fuel [] tokens
        | .blockList => readItems site.inner true fuel [] rest
        | .blockMapping => readEntries site.inner fuel [] rest
        | .opening .square => readFlowItems site.inner true fuel [] rest
        | .opening .curly => readFlowEntries site.inner true fuel [] rest
        | _ => .error .malformedYaml

def readPart (site : Site) (scope : Scope) (ends : Token → Bool) :
    Nat → List Token → Except Fault (Tree × List Token)
  | 0, _ => .error .malformedYaml
  | fuel + 1, tokens =>
    match tokens with
    | [] => .error site.fault
    | token :: _ => if ends token then .ok (.empty, tokens) else read site scope fuel tokens

def readValue (site : Site) (scope : Scope) (ends : Token → Bool) :
    Nat → List Token → Except Fault (Tree × List Token)
  | 0, _ => .error .malformedYaml
  | fuel + 1, tokens =>
    match tokens with
    | [] => .error site.fault
    | token :: rest =>
      if token = .colon then readPart site scope ends fuel rest else .ok (.empty, tokens)

/-- The items behind dashes, after those in `seen`, last one first. A list that is no block of
its own ends without a token. -/
def readItems (site : Site) (isBlock : Bool) :
    Nat → List Tree → List Token → Except Fault (Tree × List Token)
  | 0, _, _ => .error .malformedYaml
  | fuel + 1, seen, tokens =>
    match tokens with
    | [] => .error site.fault
    | .dash :: rest => do
      let ends token := endsItem token || (!isBlock && endsEntry token)
      let (item, rest) ← readPart site .block ends fuel rest
      readItems site isBlock fuel (item :: seen) rest
    | token :: rest =>
      if !isBlock then .ok (.list seen.reverse, tokens)
      else if token = .blockEnd then .ok (.list seen.reverse, rest)
      else .error .malformedYaml

def readEntries (site : Site) :
    Nat → List (Tree × Tree) → List Token → Except Fault (Tree × List Token)
  | 0, _, _ => .error .malformedYaml
  | fuel + 1, seen, tokens =>
    match tokens with
    | [] => .error site.fault
    | .key :: rest => do
      let (key, rest) ← readPart site .entry endsEntry fuel rest
      let (value, rest) ← readValue site .entry endsEntry fuel rest
      readEntries site fuel ((key, value) :: seen) rest
    | .blockEnd :: rest => .ok (.mapping seen.reverse, rest)
    | _ => .error .malformedYaml

/-- The items of a bracketed list, after those in `seen`, last one first; commas stand between
them. A key with its value is a mapping of its own. -/
def readFlowItems (site : Site) (isFirst : Bool) :
    Nat → List Tree → List Token → Except Fault (Tree × List Token)
  | 0, _, _ => .error .malformedYaml
  | fuel + 1, seen, tokens =>
    match tokens with
    | [] => .error site.fault
    | .closing .square :: rest => .ok (.list seen.reverse, rest)
    | token :: rest =>
      if !isFirst && token != .comma then .error .malformedYaml
      else
        match (if isFirst then tokens else rest) with
        | [] => .error site.fault
        | .closing .square :: rest => .ok (.list seen.reverse, rest)
        | .key :: rest => do
          let (key, rest) ← readPart site.inner .brackets (endsFlow .square) fuel rest
          let (value, rest) ← readValue site.inner .brackets (endsFlow .square) fuel rest
          readFlowItems site false fuel (.mapping [(key, value)] :: seen) rest
        | tokens => do
          let (item, rest) ← read site .brackets fuel tokens
          readFlowItems site false fuel (item :: seen) rest

def readFlowEntries (site : Site) (isFirst : Bool) :
    Nat → List (Tree × Tree) → List Token → Except Fault (Tree × List Token)
  | 0, _, _ => .error .malformedYaml
  | fuel + 1, seen, tokens =>
    match tokens with
    | [] => .error site.fault
    | .closing .curly :: rest => .ok (.mapping seen.reverse, rest)
    | token :: rest =>
      if !isFirst && token != .comma then .error .malformedYaml
      else
        match (if isFirst then tokens else rest) with
        | [] => .error site.fault
        | .closing .curly :: rest => .ok (.mapping seen.reverse, rest)
        | .key :: rest => do
          let (key, rest) ← readPart site .brackets (endsFlow .curly) fuel rest
          let (value, rest) ← readValue site .brackets (endsFlow .curly) fuel rest
          readFlowEntries site false fuel ((key, value) :: seen) rest
        | tokens => do
          let (key, rest) ← read site .brackets fuel tokens
          readFlowEntries site false fuel ((key, .empty) :: seen) rest

end

end Tree

namespace TokenRun

def finish (run : TokenRun) (tokens : List Token) : Except Fault Unit :=
  match tokens.dropWhile (· = .documentEnd) with
  | [] => .error run.fault
  | token :: _ => if token = .textEnd then .ok () else .error .malformedYaml

def tree (run : TokenRun) (limits : Limits) : Except Fault Tree := do
  let site : Site := { limits, fault := run.fault }
  let fuel := 4 * run.tokens.length + 4
  let isBorder token := token = Token.documentStart || token = .documentEnd || token = .textEnd
  let (root, rest) ← match run.tokens with
    | .documentStart :: rest => Tree.readPart site .block isBorder fuel rest
    | .textEnd :: _ => pure (.empty, run.tokens)
    | tokens => Tree.read site .block fuel tokens
  run.finish rest
  return root

end TokenRun

namespace Tree

/-! Merging -/

def isMergeKey : Tree → Bool
  | scalar text plain => plain && String.ofList text = mergeWord
  | _ => false

def entries? : Tree → Option (List (Tree × Tree))
  | mapping entries => some entries
  | _ => none

/-- The entries that a merge key brings in: those of a mapping, or of the mappings in a list, of
which earlier ones win. -/
def brought? : Tree → Option (List (Tree × Tree))
  | list items => (items.mapM entries?).map fun parts => parts.reverse.flatten
  | other => other.entries?

/-- Puts the entries that merge keys bring in before the others, which win. A merge key that
brings nothing in goes to the front, where it is refused. -/
def arrange (entries : List (Tree × Tree)) : List (Tree × Tree) :=
  let found? (entry : Tree × Tree) := if entry.1.isMergeKey then entry.2.brought? else none
  let own := entries.filter fun entry => (found? entry).isNone
  let all := (entries.filterMap found?).flatten ++ own
  all.filter (fun entry => entry.1.isMergeKey) ++ all.filter fun entry => !entry.1.isMergeKey

mutual

def merged : Tree → Tree
  | scalar text plain => scalar text plain
  | list items => list (mergedItems items)
  | mapping entries => mapping (arrange (mergedEntries entries))

def mergedItems : List Tree → List Tree
  | [] => []
  | item :: items => item.merged :: mergedItems items

def mergedEntries : List (Tree × Tree) → List (Tree × Tree)
  | [] => []
  | (key, value) :: entries => (key, value.merged) :: mergedEntries entries

end

end Tree

end QueryLint.Yaml
