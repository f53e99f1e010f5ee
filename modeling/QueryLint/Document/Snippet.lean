import QueryLint.Document.Basic
import QueryLint.Finding.Basic
import QueryLint.Text.Lines

/-! Source lines of a document, and the window around one of them. -/
namespace QueryLint.Document

def lines (document : Document) : List String :=
  document.source.elim [] fun source => (Text.lines source.toList).map String.ofList

/-- The items before a position; a negative position counts from the end. -/
def takeTo (items : List String) (stop : Int) : List String :=
  items.take (if stop < 0 then stop + items.length else stop).toNat

/-- A line, counted from one, with `context` lines on either side where there are that many. -/
def snippet? (document : Document) (line : Int) (context : Int) : Option Snippet :=
  let lines := document.lines
  if line < 1 then none
  else
    (lines[line.toNat - 1]?).map fun code =>
      { code
        line
        before := (lines.take (line.toNat - 1)).drop (line - context - 1).toNat
        after := (takeTo lines (min lines.length (line + context))).drop line.toNat }

end QueryLint.Document
