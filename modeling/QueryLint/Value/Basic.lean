import QueryLint.Value.Key

/-! Values of settings and of finding metadata. An object keeps its fields in the order in
which they were first set. -/
namespace QueryLint

inductive Value where
  | null
  | bool (b : Bool)
  | int (n : Int)
  | floating (x : Floating)
  | text (s : String)
  | list (items : List Value)
  | object (fields : List (Key × Value))
deriving Inhabited, Repr

abbrev Fields := List (Key × Value)

namespace Fields

def get? (fields : Fields) (name : String) : Option Value := fields.lookup (.text name)

/-- Sets a field: a known key keeps its place and its spelling, a new one goes to the end. -/
def set : Fields → Key → Value → Fields
  | [], key, value => [(key, value)]
  | (known, old) :: fields, key, value =>
    if known.same key then (known, value) :: fields else (known, old) :: set fields key value

def setAll (fields updates : Fields) : Fields :=
  updates.foldl (fun fields update => fields.set update.1 update.2) fields

def erase (fields : Fields) (name : String) : Fields := fields.filter (·.1 != .text name)

def optional (name : String) (value : Option Value) : Fields :=
  (value.map fun value => (Key.text name, value)).toList

end Fields

def Key.toValue : Key → Value
  | null => .null
  | bool b => .bool b
  | int n => .int n
  | floating x => .floating x
  | text s => .text s

namespace Value

def key? : Value → Option Key
  | null => some .null
  | bool b => some (.bool b)
  | int n => some (.int n)
  | floating x => some (.floating x)
  | text s => some (.text s)
  | list _ => none
  | object _ => none

/-- What the value consists of: the items of a list, the characters of a text, the keys of an
object. -/
def parts? : Value → Option (List Value)
  | list items => some items
  | text s => some (s.toList.map fun c => text (String.singleton c))
  | object fields => some (fields.map fun field => field.1.toValue)
  | _ => none

/-- Null, false, zero and everything empty count as absent. -/
def isTruthy : Value → Bool
  | null => false
  | bool b => b
  | int n => n != 0
  | floating x => !x.isZero
  | text s => s != ""
  | list items => !items.isEmpty
  | object fields => !fields.isEmpty

def orEmpty (value : Value) : Value := if value.isTruthy then value else object []

def kindName : Value → String
  | null => "NoneType"
  | bool _ => "bool"
  | int _ => "int"
  | floating _ => "float"
  | text _ => "str"
  | list _ => "list"
  | object _ => "dict"

def texts (items : List String) : Value := list (items.map text)

def optional (item : Option String) : Value := item.elim null text

/-- Whether a number is greater than one; `none` for what is no number. Truth counts as one. -/
def exceedsOne? : Value → Option Bool
  | bool _ => some false
  | int n => some (1 < n)
  | floating x => some (x.exceeds 1)
  | _ => none

end Value

end QueryLint
