import QueryLint.Text.Quoted
import QueryLint.Value.Basic

/-! Values as they are shown in messages. Different values have different forms. -/
namespace QueryLint.Value

def intChars (n : Int) : List Char :=
  (if n < 0 then ['-'] else []) ++ Nat.toDigits 10 n.natAbs

def keyChars : Key → List Char
  | .null => "None".toList
  | .bool true => "True".toList
  | .bool false => "False".toList
  | .int n => intChars n
  | .floating x => x.render
  | .text s => Text.quotedChars s.toList

mutual

def displayChars : Value → List Char
  | null => keyChars .null
  | bool b => keyChars (.bool b)
  | int n => keyChars (.int n)
  | floating x => keyChars (.floating x)
  | text s => keyChars (.text s)
  | list items => '[' :: displayItems items ++ [']']
  | object fields => '\x7b' :: displayFields fields ++ ['\x7d']

def displayItems : List Value → List Char
  | [] => []
  | [item] => displayChars item
  | item :: next :: items => displayChars item ++ ',' :: ' ' :: displayItems (next :: items)

def displayFields : List (Key × Value) → List Char
  | [] => []
  | [(key, value)] => keyChars key ++ ':' :: ' ' :: displayChars value
  | (key, value) :: next :: fields =>
    keyChars key ++ ':' :: ' ' :: displayChars value ++ ',' :: ' ' :: displayFields (next :: fields)

end

def display (value : Value) : String := String.ofList value.displayChars

/-- The form of a value on its own, where a text is not quoted. -/
def plain : Value → String
  | text s => s
  | value => value.display

end QueryLint.Value
