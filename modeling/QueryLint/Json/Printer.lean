import QueryLint.Limits

/-! JSON text of a value. Only ASCII is written: a character outside it becomes one escape,
or two where it needs a surrogate pair. -/
namespace QueryLint.Json

def escapeUnit (n : Nat) : List Char := '\\' :: 'u' :: Text.hex 4 n

def escapeChar (c : Char) : List Char :=
  let n := c.toNat
  if c == '\x22' || c == '\\' then ['\\', c]
  else if c == '\n' then ['\\', 'n']
  else if c == '\r' then ['\\', 'r']
  else if c == '\t' then ['\\', 't']
  else if n == 0x8 then ['\\', 'b']
  else if n == 0xC then ['\\', 'f']
  else if 0x20 ≤ n && n ≤ 0x7E then [c]
  else if n < 0x10000 then escapeUnit n
  else
    escapeUnit (0xD800 + (n - 0x10000) / 0x400) ++ escapeUnit (0xDC00 + (n - 0x10000) % 0x400)

def string (text : List Char) : List Char :=
  '\x22' :: text.flatMap escapeChar ++ ['\x22']

def floating : Floating → List Char
  | .finite d => d.render
  | .infinite false => "Infinity".toList
  | .infinite true => "-Infinity".toList
  | .undefined => "NaN".toList

def key : Key → List Char
  | .null => string ['n', 'u', 'l', 'l']
  | .bool true => string ['t', 'r', 'u', 'e']
  | .bool false => string ['f', 'a', 'l', 's', 'e']
  | .int n => string (Value.intChars n)
  | .floating x => string (floating x)
  | .text s => string s.toList

/-- With an indentation each item stands on a line of its own, `level` steps in. -/
def newline (indent : Option Nat) (level : Nat) : List Char :=
  match indent with
  | none => []
  | some width => '\n' :: List.replicate (width * level) ' '

def comma (indent : Option Nat) : List Char :=
  match indent with
  | none => [',', ' ']
  | some _ => [',']

mutual

def write (indent : Option Nat) (level : Nat) : Value → List Char
  | .null => ['n', 'u', 'l', 'l']
  | .bool true => ['t', 'r', 'u', 'e']
  | .bool false => ['f', 'a', 'l', 's', 'e']
  | .int n => Value.intChars n
  | .floating x => floating x
  | .text s => string s.toList
  | .list [] => ['[', ']']
  | .list (item :: items) =>
    '[' :: newline indent (level + 1) ++ write indent (level + 1) item ++
      writeItems indent level items
  | .object [] => ['\x7b', '\x7d']
  | .object ((name, value) :: fields) =>
    '\x7b' :: newline indent (level + 1) ++ key name ++ ':' :: ' ' ::
      write indent (level + 1) value ++ writeFields indent level fields

def writeItems (indent : Option Nat) (level : Nat) : List Value → List Char
  | [] => newline indent level ++ [']']
  | item :: items =>
    comma indent ++ newline indent (level + 1) ++ write indent (level + 1) item ++
      writeItems indent level items

def writeFields (indent : Option Nat) (level : Nat) : List (Key × Value) → List Char
  | [] => newline indent level ++ ['\x7d']
  | (name, value) :: fields =>
    comma indent ++ newline indent (level + 1) ++ key name ++ ':' :: ' ' ::
      write indent (level + 1) value ++ writeFields indent level fields

end

/-- The text of a value, on one line without an indentation. A negative one counts as zero. -/
def render (indent : Option Int) (value : Value) : String :=
  String.ofList (write (indent.map Int.toNat) 0 value)

/-- An indentation is counted in a machine word. -/
def indentHindrance? (indent : Int) : Option Fault :=
  if -0x8000000000000000 ≤ indent ∧ indent < 0x8000000000000000 then none
  else some .indentTooLarge

def encode [Nesting] (indent : Option Int) (value : Value) : Except Fault String :=
  match (indent.bind indentHindrance?).or (value.hindrance? .encoding) with
  | some fault => .error fault
  | none => .ok (render indent value)

end QueryLint.Json
