import QueryLint.Text.PrintableRanges
import QueryLint.Text.Word

/-! Texts between quotes, as they are shown in messages. Printable characters stand for
themselves, all others are escaped. -/
namespace QueryLint.Text

def isPrintable (c : Char) : Bool :=
  if c.toNat < 128 then 0x20 ≤ c.toNat && c.toNat ≤ 0x7E else inRanges printableRanges c.toNat

def hex : Nat → Nat → List Char
  | 0, _ => []
  | width + 1, n => hex width (n / 16) ++ [Nat.digitChar (n % 16)]

/-- A text is put between single quotes unless it holds one and no double quote. -/
def quoteMark (text : List Char) : Char :=
  if text.contains '\x27' && !text.contains '\x22' then '\x22' else '\x27'

def escapeIn (mark c : Char) : List Char :=
  if c == mark || c == '\\' then ['\\', c]
  else if c == '\n' then ['\\', 'n']
  else if c == '\r' then ['\\', 'r']
  else if c == '\t' then ['\\', 't']
  else if isPrintable c then [c]
  else if c.toNat < 0x100 then '\\' :: 'x' :: hex 2 c.toNat
  else if c.toNat < 0x10000 then '\\' :: 'u' :: hex 4 c.toNat
  else '\\' :: 'U' :: hex 8 c.toNat

def quotedChars (text : List Char) : List Char :=
  let mark := quoteMark text
  mark :: text.flatMap (escapeIn mark) ++ [mark]

def quoted (text : String) : String := String.ofList (quotedChars text.toList)

end QueryLint.Text
