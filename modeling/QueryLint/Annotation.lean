import QueryLint.Text.Blank
import QueryLint.Text.Letter

/-! Comments of the form `## SQL safe ($a, $b)`, which list variables that are known to be
safe. A `#!` line may stand before the annotation. -/
namespace QueryLint.Annotation

def listed? (text : List Char) : Option (List Char) :=
  if text.contains ')' then some (text.takeWhile (· != ')')) else none

def afterBlanks? : List Char → Option (List Char)
  | [] => none
  | c :: text => if Text.isBlank c then some (Text.skipBlanks text) else none

def body? (text : List Char) : Option (List Char) :=
  match Text.skipBlanks text with
  | '#' :: '#' :: rest => do
    let rest ← Text.stripSpelling? ['s', 'q', 'l'] (Text.skipBlanks rest)
    let rest ← afterBlanks? rest
    let rest ← Text.stripSpelling? ['s', 'a', 'f', 'e'] rest
    match Text.skipBlanks rest with
    | '(' :: list => listed? list
    | _ => none
  | _ => none

/-- The body of the first annotation anywhere in the text. -/
def bodyWithin? : List Char → Option (List Char)
  | [] => none
  | c :: text => (body? (c :: text)).or (bodyWithin? text)

def commentBody? (comment : List Char) : Option (List Char) :=
  match comment with
  | '#' :: '!' :: rest => bodyWithin? rest
  | _ => body? comment

/-- The names that a comment lists, or `none` if it is no annotation. -/
def names? (comment : String) : Option (List String) :=
  (commentBody? comment.toList).map fun body => (Text.fields body).map String.ofList

end QueryLint.Annotation
