import QueryLint.Fault

/-! Sets of settings values by which rules are switched on and off. -/
namespace QueryLint

structure Selection where
  items : List Key := []

namespace Selection

def insert (selection : Selection) (item : Value) : Except Fault Selection :=
  match item.key? with
  | none => .error .unsuitableValue
  | some key =>
    if selection.items.any key.same then .ok selection else .ok ⟨selection.items ++ [key]⟩

/-- The items of a list, the characters of a text or the keys of an object. -/
def ofValue (value : Value) : Except Fault Selection :=
  match value.parts? with
  | some parts => parts.foldlM insert {}
  | none => .error .unsuitableValue

def contains (selection : Selection) (id : String) : Bool := selection.items.contains (.text id)

/-- The items in order; there is none between items of different kinds. -/
def sorted (selection : Selection) : Except Fault (List Key) :=
  let items := selection.items
  if items.length ≤ 1 || items.all (fun a => items.all fun b => (a.le? b).isSome) then
    .ok (items.mergeSort fun a b => (a.le? b).getD true)
  else .error .unsuitableValue

end Selection

end QueryLint
