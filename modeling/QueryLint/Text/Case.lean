import QueryLint.Text.CaseRanges
import QueryLint.Text.Word

/-! Upper and lower case of whole texts, with the mappings to several characters and the
two small forms of the capital sigma. -/
namespace QueryLint.Text

def ShiftRun.shifted? (run : ShiftRun) (n : Nat) : Option Nat :=
  if run.first ≤ n ∧ n ≤ run.last ∧ (n - run.first) % run.stride = 0
  then some (n + run.shift).toNat else none

def mapCase (runs : List ShiftRun) (expansions : List (Nat × List Nat)) (c : Char) :
    List Char :=
  match expansions.lookup c.toNat with
  | some codes => codes.map Char.ofNat
  | none => [(runs.findSome? (·.shifted? c.toNat)).elim c Char.ofNat]

def upperChar (c : Char) : List Char :=
  if c.toNat < 128 then [c.toUpper] else mapCase upperRuns upperExpansions c

def lowerChar (c : Char) : List Char :=
  if c.toNat < 128 then [c.toLower] else mapCase lowerRuns lowerExpansions c

def isCased (c : Char) : Bool := inRanges casedRanges c.toNat

def isCaseIgnorable (c : Char) : Bool := inRanges caseIgnorableRanges c.toNat

def nextIsCased (text : List Char) : Bool :=
  match text.dropWhile isCaseIgnorable with
  | [] => false
  | c :: _ => isCased c

/-- Lower case of a text, given the characters before it, nearest first. A capital sigma
after a cased character and before none is the final small sigma. -/
def lowerFrom (before : List Char) : List Char → List Char
  | [] => []
  | c :: text =>
    let here :=
      if c == 'Σ' then
        [if nextIsCased before && !nextIsCased text then 'ς' else 'σ']
      else lowerChar c
    here ++ lowerFrom (c :: before) text

def upper (text : String) : String := String.ofList (text.toList.flatMap upperChar)

def lower (text : String) : String := String.ofList (lowerFrom [] text.toList)

end QueryLint.Text
