import QueryLint.Fault
import QueryLint.Text.Units
import QueryLint.Yaml.Cursor

/-! The texts of plain and of quoted scalars. -/
namespace QueryLint.Yaml

/-- The text of a run of line ends: one of them is a space, more are kept but the first. -/
def foldBreaks : List Char → List Char
  | [] => []
  | first :: more =>
    if isKeptBreak first then first :: more
    else if more.isEmpty then [' ']
    else more

/-- The line ends in a run of padding and line ends, after those in `breaks`, last one first,
and the length of the run, after `seen` characters. It stops at a border of the document. -/
def breakRun (isPad : Char → Bool) (breaks : List Char) (seen : Nat) : List Char → List Char × Nat
  | [] => (breaks.reverse, seen)
  | c :: text =>
    if isBreak c then
      let breaks := (if isKeptBreak c then c else '\n') :: breaks
      if startsWithBorder text then (breaks.reverse, seen + 1)
      else breakRun isPad breaks (seen + 1) text
    else if isPad c then breakRun isPad breaks (seen + 1) text
    else (breaks.reverse, seen)

def passBreaks (isPad : Char → Bool) (cursor : Cursor) : List Char × Cursor :=
  let (breaks, length) := breakRun isPad [] 0 cursor.rest
  (breaks, cursor.advance length)

/-! Plain scalars -/

def isFlowMark (c : Char) : Bool :=
  c == ',' || c == '[' || c == ']' || c == '\x7b' || c == '\x7d'

/-- The number of characters up to a blank, a dividing colon or, inside brackets, a mark of
the brackets, after `seen` of them. -/
def chunkLength (inBrackets : Bool) (seen : Nat) : List Char → Nat
  | [] => seen
  | c :: text =>
    let divides := c == ':' && (atGap text || (inBrackets && text.head?.any isFlowMark))
    let closes := inBrackets && (c == '?' || isFlowMark c)
    if isSpaceOrTab c || isBreak c || divides || closes then seen
    else chunkLength inBrackets (seen + 1) text

def isIndicator (c : Char) : Bool := "-?:,[]\x7b\x7d#&*!|>'\"%@`".toList.contains c

def startsPlain (inBrackets : Bool) : List Char → Bool
  | [] => false
  | c :: text =>
    !(isSpaceOrTab c || isBreak c || isIndicator c) ||
      (!atGap text && (c == '-' || (!inBrackets && (c == '?' || c == ':'))))

structure ScalarText where
  text : List Char
  after : Cursor
  /-- A line end stands between the scalar and the place behind it. -/
  endsLine : Bool := false

/-- The text of a plain scalar, after what is in `seen`, last character first. It goes on over
blanks and, from column `floor` on, over line ends. The fuel bounds the number of its chunks. -/
def plainFrom (inBrackets : Bool) (floor : Nat) : Nat → List Char → Cursor → ScalarText
  | 0, seen, cursor => { text := seen.reverse, after := cursor }
  | fuel + 1, seen, cursor =>
    let length := chunkLength inBrackets 0 cursor.rest
    let seen := (cursor.rest.take length).reverseAux seen
    let behind := cursor.advance length
    let padded := behind.passWhile (· == ' ')
    let (gap, next) :=
      if padded.isAtBreak then
        let (breaks, next) := passBreaks (· == ' ') padded
        (foldBreaks breaks, next)
      else (behind.rest.takeWhile (· == ' '), padded)
    let endsLine := next.line != behind.line
    let ends := gap.isEmpty || next.rest.head? == some '#' || (endsLine && next.isAtBorder) ||
      (!inBrackets && next.column < floor) || chunkLength inBrackets 0 next.rest == 0
    if ends then { text := seen.reverse, after := next, endsLine }
    else plainFrom inBrackets floor fuel (gap.reverseAux seen) next

/-! Quoted scalars -/

def escapes : List (Char × Char) := [
  ('0', '\x00'), ('a', '\x07'), ('b', '\x08'), ('t', '\t'), ('\t', '\t'), ('n', '\n'),
  ('v', '\x0b'), ('f', '\x0c'), ('r', '\r'), ('e', '\x1b'), (' ', ' '), ('\x22', '\x22'),
  ('\\', '\\'), ('/', '/'), ('N', '\x85'), ('_', '\xa0'), ('L', '\u2028'), ('P', '\u2029')]

def escapeWidth? (c : Char) : Option Nat :=
  if c == 'x' then some 2 else if c == 'u' then some 4 else if c == 'U' then some 8 else none

/-- The character of a number, of which the halves of a pair have none. -/
def character (code : Nat) : Except Fault Char :=
  if code < 0x110000 then
    if Text.isLeadUnit code || Text.isTrailUnit code then .error .malformedYaml
    else .ok (Char.ofNat code)
  else if code < 0x80000000 then .error .noCharacter
  else .error .characterTooLarge

/-- The text of an escape after its backslash; before a line end it joins two lines. -/
def escape (cursor : Cursor) : Except Fault (List Char × Cursor) :=
  match cursor.rest with
  | [] => .error .malformedYaml
  | c :: rest =>
    match escapes.lookup c, escapeWidth? c with
    | some d, _ => .ok ([d], cursor.next)
    | none, some width =>
      let digits := rest.take width
      if digits.length == width && digits.all (Text.isDigitBelow 16) then
        match (if c == 'u' then Text.unitEscape? rest else none) with
        | some (d, _) => .ok ([d], cursor.advance (if d.toNat < 0x10000 then 5 else 11))
        | none =>
          (character (Text.ofDigits 16 digits)).map fun d => ([d], cursor.advance (1 + width))
      else .error .malformedYaml
    | none, none =>
      if isBreak c then
        let (breaks, after) := passBreaks isSpaceOrTab cursor
        if after.isAtBorder then .error .malformedYaml else .ok (breaks.drop 1, after)
      else .error .malformedYaml

/-- The text of a quoted scalar up to its closing quote, after what is in `seen`, last character
first. The fuel bounds the number of characters. -/
def quotedFrom (quote : Char) : Nat → List Char → Cursor → Except Fault ScalarText
  | 0, _, _ => .error .malformedYaml
  | fuel + 1, seen, cursor =>
    match cursor.rest with
    | [] => .error .malformedYaml
    | c :: rest =>
      if c == quote then
        if quote == '\x27' && rest.head? == some quote then
          quotedFrom quote fuel (quote :: seen) (cursor.advance 2)
        else .ok { text := seen.reverse, after := cursor.next }
      else if c == '\\' && quote == '\x22' then
        match escape cursor.next with
        | .error fault => .error fault
        | .ok (part, after) => quotedFrom quote fuel (part.reverseAux seen) after
      else if isSpaceOrTab c || isBreak c then
        let padded := cursor.passWhile isSpaceOrTab
        if padded.isAtBreak then
          let (breaks, after) := passBreaks isSpaceOrTab padded
          if after.isAtBorder then .error .malformedYaml
          else quotedFrom quote fuel ((foldBreaks breaks).reverseAux seen) after
        else quotedFrom quote fuel ((cursor.rest.takeWhile isSpaceOrTab).reverseAux seen) padded
      else quotedFrom quote fuel (c :: seen) cursor.next

end QueryLint.Yaml
