import QueryLint.Yaml.Tree

/-! Values from YAML text, for the part of YAML that settings files use: block mappings and
lists, bracketed ones, plain and quoted scalars, comments, one document. -/
namespace QueryLint.Yaml

def scalarValue (limits : Limits) (text : List Char) (plain : Bool) : Except Fault Value :=
  if plain then plainValue limits text else .ok (.text (String.ofList text))

namespace Tree

/-- The key of a field; lists and mappings are none, and the word for a mapping's own value is a
text here. -/
def key (limits : Limits) : Tree → Except Fault Key
  | scalar text plain =>
    if String.ofList text = valueWord then .ok (.text valueWord)
    else (scalarValue limits text plain).bind fun found =>
      found.key?.elim (.error .malformedYaml) .ok
  | _ => .error .malformedYaml

def collection (limits : Limits) : Tree → Except Fault (List Tree)
  | scalar text plain => (scalarValue limits text plain).map fun _ => []
  | other => .ok [other]

def inside (limits : Limits) : Tree → Except Fault (List Tree)
  | scalar text plain => (scalarValue limits text plain).map fun _ => []
  | list items => (items.mapM (collection limits)).map List.flatten
  | mapping entries =>
    let value (entry : Tree × Tree) :=
      (entry.1.key limits).bind fun _ => entry.2.collection limits
    (entries.mapM value).map List.flatten

/-- Finds the first fault: what is less deep comes before what is deeper. The fuel bounds the
depth. -/
def check (limits : Limits) : Nat → List Tree → Except Fault Unit
  | 0, _ => .ok ()
  | _, [] => .ok ()
  | fuel + 1, level => do check limits fuel (← level.mapM (inside limits)).flatten

mutual

def value (limits : Limits) : Tree → Except Fault Value
  | scalar text plain => scalarValue limits text plain
  | list items => (itemValues limits items).map .list
  | mapping entries => (fieldValues limits [] entries).map .object

def itemValues (limits : Limits) : List Tree → Except Fault (List Value)
  | [] => .ok []
  | item :: items => do return (← item.value limits) :: (← itemValues limits items)

def fieldValues (limits : Limits) (seen : Fields) : List (Tree × Tree) → Except Fault Fields
  | [] => .ok seen
  | (name, tree) :: entries => do
    let name ← name.key limits
    fieldValues limits (seen.set name (← tree.value limits)) entries

end

end Tree

def isAllowed (c : Char) : Bool :=
  let n := c.toNat
  n == 0x9 || n == 0xA || n == 0xD || (0x20 ≤ n && n ≤ 0x7E) || n == 0x85 ||
    (0xA0 ≤ n && n ≤ 0xFFFD) || 0x10000 ≤ n

/-- The value of a text. An empty text is null, and a byte order mark at its start does not
count. -/
def read (limits : Limits) (text : String) : Except Fault Value :=
  let chars := match text.toList with
    | '\ufeff' :: rest => rest
    | all => all
  if chars.all isAllowed then do
    let run := TokenRun.ofText chars
    let root := (← run.tree limits).merged
    Tree.check limits run.tokens.length [root]
    root.value limits
  else .error .malformedYaml

end QueryLint.Yaml
