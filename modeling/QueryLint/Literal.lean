import QueryLint.Text.Blank
import QueryLint.Text.Letter
import QueryLint.Text.Word
import QueryLint.Token

/-! What a literal token says: its text, whether it looks like a query, whether it
interpolates variables, and on which line its annotation stands. -/
namespace QueryLint

def queryKeywords : List (List Char) :=
  ["select", "insert", "update", "delete"].map String.toList

def startsWithKeyword (text : List Char) : Bool :=
  queryKeywords.any fun keyword => (Text.stripSpelling? keyword text).any Text.atWordEnd

/-- A keyword as a whole word somewhere in the text; `inWord` says whether a word character
stands right before the text. -/
def holdsKeywordFrom (inWord : Bool) : List Char → Bool
  | [] => false
  | c :: text =>
    (!inWord && startsWithKeyword (c :: text)) || holdsKeywordFrom (Text.isWord c) text

def holdsKeyword (text : String) : Bool := holdsKeywordFrom false text.toList

namespace Token

/-- The text of a literal; of a block literal its body without the closing delimiter. -/
def literalText (token : Token) : String :=
  if token.kind = .blockLiteral then String.join token.heredoc.dropLast else token.content

def isCandidate (token : Token) : Bool := holdsKeyword token.literalText

def isEntry (token : Token) : Bool := token.kind.isLiteral && token.isCandidate

/-- Whether a quote-like literal is written with `qq`; the lead ends at a character other
than `q`. -/
def quoteLike? : List Char → Option Bool
  | 'q' :: 'q' :: c :: _ => if c == 'q' then none else some true
  | 'q' :: c :: _ => if c == 'q' then none else some false
  | _ => none

def isInterpolated (token : Token) : Except Fault Bool :=
  match token.kind with
  | .literalDouble => .ok true
  | .literalInterpolate =>
    (quoteLike? token.content.toList).elim (.error (.unknownFormat token.content)) .ok
  | .blockLiteral => .ok (token.blockMode == some .interpolate)
  | _ => .ok false

/-- The line on which the content of the token ends. -/
def effectiveLine (token : Token) : Int := token.line + token.content.toList.count '\n'

def isJoin (token : Token) : Bool := Text.trim token.content.toList == ['.']

end Token

end QueryLint
