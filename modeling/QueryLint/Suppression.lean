import QueryLint.Annotation
import QueryLint.Document.Basic
import QueryLint.Text.Word

/-! Comments of the form `## no critic` or `## no critic (A, B)`, which silence all rules or
the listed ones on their line. -/
namespace QueryLint

inductive Silence where
  | all
  | only (rules : NameSet)
deriving DecidableEq

namespace Silence

def covers : Silence → String → Bool
  | all, _ => true
  | only rules, rule => rule ∈ rules

/-- Two comments on one line silence what either of them does. -/
def join : Silence → Silence → Silence
  | only rules, only others => only (rules.union others)
  | _, _ => all

/-- What stands after `no critic`: a list in parentheses, or nothing that matters. -/
def ofTail (text : List Char) : Silence :=
  match Text.skipBlanks text with
  | '(' :: list =>
    match Annotation.listed? list with
    | some body => only (.ofList ((Text.fields body).map String.ofList))
    | none => all
  | _ => all

def ofChars? (comment : List Char) : Option Silence :=
  match Text.skipBlanks comment with
  | '#' :: '#' :: rest => do
    let rest ← Text.stripSpelling? ['n', 'o'] (Text.skipBlanks rest)
    let rest ← Annotation.afterBlanks? rest
    let rest ← Text.stripSpelling? ['c', 'r', 'i', 't', 'i', 'c'] rest
    if Text.atWordEnd rest then some (ofTail rest) else none
  | _ => none

def ofComment? (comment : String) : Option Silence := ofChars? comment.toList

end Silence

def addSilence (table : LineTable Silence) (comment : Token) : LineTable Silence :=
  match Silence.ofComment? comment.content with
  | none => table
  | some silence => table.modify comment.line fun known => known.elim silence (·.join silence)

def Document.silences (document : Document) : LineTable Silence :=
  document.comments.foldl addSilence []

end QueryLint
