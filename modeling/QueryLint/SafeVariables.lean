import QueryLint.Annotation
import QueryLint.LineTable
import QueryLint.Log
import QueryLint.NameSet
import QueryLint.Token

/-! The variables that annotations mark as safe, by line. The table is built once from the
comments of a document and does not change afterwards. -/
namespace QueryLint

def addNames (table : LineTable NameSet) (comment : Token) : LineTable NameSet :=
  match Annotation.names? comment.content with
  | none => table
  | some names => table.modify comment.line fun known => (known.getD .empty).insertAll names

def annotationTable (comments : List Token) : LineTable NameSet :=
  comments.foldl addNames []

structure SafeVariables where
  table : Option (LineTable NameSet) := none

namespace SafeVariables

def isBuilt (safe : SafeVariables) : Bool := safe.table.isSome

def build (safe : SafeVariables) (path : String) (comments : List Token) :
    SafeVariables × List LogEntry :=
  match safe.table with
  | some _ => (safe, [])
  | none =>
    let table := annotationTable comments
    (⟨some table⟩, [⟨.debug, .annotations,
      "Found SQL safe annotations on " ++ toString table.length ++ " line(s) of " ++ path⟩])

def entries (safe : SafeVariables) : Except Fault (LineTable NameSet) :=
  safe.table.elim (.error .commentsNotRead) .ok

/-- The names that are safe on a line. Lines are numbered from one, and another number is shown
if it can be. -/
def onLine (safe : SafeVariables) (line : Int) : Except Fault NameSet :=
  match safe.table with
  | none => .error .commentsNotRead
  | some table =>
    if line < 1 then .error ((overlong? line).getD (.lineNotPositive (.int line)))
    else .ok ((table.get? line).getD .empty)

/-- The names that are safe on what should be a line. -/
def lookup [Nesting] (safe : SafeVariables) (line : Value) : Except Fault NameSet :=
  match line with
  | .int number => safe.onLine number
  | _ =>
    match safe.table with
    | none => .error .commentsNotRead
    | some _ => .error ((line.hindrance? .showing).getD (.lineNotPositive line))

end SafeVariables

end QueryLint
