/-! Positions in a YAML text. -/
namespace QueryLint.Yaml

/-- The line and the paragraph separator are kept where other line ends become line feeds. -/
def isKeptBreak (c : Char) : Bool := c == '\u2028' || c == '\u2029'

def isBreak (c : Char) : Bool :=
  c == '\n' || c == '\r' || c == '\x85' || isKeptBreak c

def isSpaceOrTab (c : Char) : Bool := c == ' ' || c == '\t'

/-- A blank, a line end or the end of the text comes next. -/
def atGap : List Char → Bool
  | [] => true
  | c :: _ => isSpaceOrTab c || isBreak c

def startsWithMarker (mark : Char) : List Char → Bool
  | a :: b :: c :: rest => a == mark && b == mark && c == mark && atGap rest
  | _ => false

def startsWithBorder (text : List Char) : Bool :=
  startsWithMarker '-' text || startsWithMarker '.' text

structure Cursor where
  rest : List Char
  index : Nat := 0
  column : Nat := 0
  line : Nat := 0

namespace Cursor

/-- Past one character; a byte order mark takes no column. -/
def next (cursor : Cursor) : Cursor :=
  match cursor.rest with
  | [] => cursor
  | c :: rest =>
    if isBreak c then ⟨rest, cursor.index + 1, 0, cursor.line + 1⟩
    else if c == '\ufeff' then { cursor with rest, index := cursor.index + 1 }
    else ⟨rest, cursor.index + 1, cursor.column + 1, cursor.line⟩

def advance : Nat → Cursor → Cursor
  | 0, cursor => cursor
  | n + 1, cursor => advance n cursor.next

def passWhile (test : Char → Bool) (cursor : Cursor) : Cursor :=
  cursor.advance (cursor.rest.takeWhile test).length

/-- The number of spaces, line ends and characters of comments that come next, after `seen`
of them. Tabs are not among them. -/
def gapLength (inComment : Bool) (seen : Nat) : List Char → Nat
  | [] => seen
  | c :: text =>
    if isBreak c then gapLength false (seen + 1) text
    else if inComment || c == '#' then gapLength true (seen + 1) text
    else if c == ' ' then gapLength false (seen + 1) text
    else seen

def skip (cursor : Cursor) : Cursor := cursor.advance (gapLength false 0 cursor.rest)

def isAtMarker (cursor : Cursor) (mark : Char) : Bool :=
  cursor.column == 0 && startsWithMarker mark cursor.rest

def isAtBorder (cursor : Cursor) : Bool := cursor.column == 0 && startsWithBorder cursor.rest

def isAtBreak (cursor : Cursor) : Bool := cursor.rest.head?.any isBreak

end Cursor

end QueryLint.Yaml
