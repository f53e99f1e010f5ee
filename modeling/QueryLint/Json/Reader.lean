import QueryLint.Limits
import QueryLint.Text.Units

/-! Values from JSON text. A string holds no control characters, nothing stands before or
after the value but blanks, and of equal keys in one object the last one counts. What stands
beyond a limit is refused where it is met, before anything wrong behind it. -/
namespace QueryLint.Json

def isSpace (c : Char) : Bool := c == ' ' || c == '\t' || c == '\n' || c == '\r'

def skipSpaces (text : List Char) : List Char := text.dropWhile isSpace

def escape? : List Char → Option (Char × List Char)
  | [] => none
  | c :: text =>
    if c == '\x22' || c == '\\' || c == '/' then some (c, text)
    else if c == 'n' then some ('\n', text)
    else if c == 'r' then some ('\r', text)
    else if c == 't' then some ('\t', text)
    else if c == 'b' then some ('\x08', text)
    else if c == 'f' then some ('\x0c', text)
    else if c == 'u' then Text.unitEscape? text
    else none

theorem escape?_shorter {text rest : List Char} {c : Char}
    (found : escape? text = some (c, rest)) : rest.length < text.length := by
  cases text with
  | nil => simp [escape?] at found
  | cons d text =>
    have unit (h : Text.unitEscape? text = some (c, rest)) := Text.unitEscape?_shorter h
    simp only [escape?] at found
    repeat' split at found
    all_goals simp_all
    omega

def stringBody? (text : List Char) : Option (List Char × List Char) :=
  match text with
  | [] => none
  | c :: text =>
    if c == '\x22' then some ([], text)
    else if c == '\\' then
      match _found : escape? text with
      | none => none
      | some (d, rest) => (stringBody? rest).map fun (body, after) => (d :: body, after)
    else if c.toNat < 0x20 then none
    else (stringBody? text).map fun (body, after) => (c :: body, after)
termination_by text.length
decreasing_by
  · have := escape?_shorter _found
    simp only [List.length_cons]
    omega
  · simp

def digits (text : List Char) : List Char × List Char :=
  (text.takeWhile Char.isDigit, text.dropWhile Char.isDigit)

/-- The digits after a point; a point without one belongs to no number. -/
def fraction : List Char → List Char × List Char
  | '.' :: text => if (digits text).1.isEmpty then ([], '.' :: text) else digits text
  | text => ([], text)

/-- The exponent after `e`; an `e` without a digit belongs to no number. -/
def exponent? (text : List Char) : Option (Int × List Char) :=
  match text with
  | c :: rest =>
    if c == 'e' || c == 'E' then
      let (sign, rest) : Int × List Char := match rest with
        | '-' :: rest => (-1, rest)
        | '+' :: rest => (1, rest)
        | rest => (1, rest)
      let (places, rest) := digits rest
      if places.isEmpty then none else some (sign * Text.ofDigits 10 places, rest)
    else none
  | [] => none

/-- The digits before the point: a zero stands alone. -/
def whole : List Char → List Char × List Char
  | '0' :: text => (['0'], text)
  | text => digits text

def readNumber (limits : Limits) (text : List Char) : Except Fault (Value × List Char) :=
  let (negative, text) := match text with
    | '-' :: text => (true, text)
    | text => (false, text)
  let (front, rest) := whole text
  if front.isEmpty then .error .malformedJson
  else
    let (back, rest) := fraction rest
    let decimal (power : Int) : Value :=
      let digits := Text.ofDigits 10 (front ++ back)
      .floating (.ofDecimal (.make negative digits (power - back.length)))
    match exponent? rest with
    | some (power, after) => .ok (decimal power, after)
    | none =>
      if back.isEmpty then do
        limits.checkDigits front.length
        let size : Int := Text.ofDigits 10 front
        return (.int (if negative then -size else size), rest)
      else .ok (decimal 0, rest)

mutual

/-- A value at the start of the text, inside `depth` lists and objects. The fuel bounds the
number of steps. -/
def readValue (limits : Limits) : Nat → Nat → List Char → Except Fault (Value × List Char)
  | 0, _, _ => .error .malformedJson
  | fuel + 1, depth, text =>
    match text with
    | '\x22' :: rest =>
      match stringBody? rest with
      | none => .error .malformedJson
      | some (body, after) => .ok (.text (String.ofList body), after)
    | '[' :: rest =>
      if limits.allowsDepth (depth + 1) then
        match skipSpaces rest with
        | ']' :: after => .ok (.list [], after)
        | inner => do
          let (found, after) ← readItems limits fuel (depth + 1) inner
          return (.list found, after)
      else .error (.tooDeep (.decoding true))
    | '\x7b' :: rest =>
      if limits.allowsDepth (depth + 1) then
        match skipSpaces rest with
        | '\x7d' :: after => .ok (.object [], after)
        | inner => do
          let (found, after) ← readFields limits fuel (depth + 1) [] inner
          return (.object found, after)
      else .error (.tooDeep (.decoding false))
    | 'N' :: 'a' :: 'N' :: rest => .ok (.floating .undefined, rest)
    | 'I' :: 'n' :: 'f' :: 'i' :: 'n' :: 'i' :: 't' :: 'y' :: rest =>
      .ok (.floating (.infinite false), rest)
    | '-' :: 'I' :: 'n' :: 'f' :: 'i' :: 'n' :: 'i' :: 't' :: 'y' :: rest =>
      .ok (.floating (.infinite true), rest)
    | 'n' :: 'u' :: 'l' :: 'l' :: rest => .ok (.null, rest)
    | 't' :: 'r' :: 'u' :: 'e' :: rest => .ok (.bool true, rest)
    | 'f' :: 'a' :: 'l' :: 's' :: 'e' :: rest => .ok (.bool false, rest)
    | _ => readNumber limits text

def readItems (limits : Limits) : Nat → Nat → List Char → Except Fault (List Value × List Char)
  | 0, _, _ => .error .malformedJson
  | fuel + 1, depth, text => do
    let (item, rest) ← readValue limits fuel depth text
    match skipSpaces rest with
    | ']' :: after => return ([item], after)
    | ',' :: more =>
      let (others, after) ← readItems limits fuel depth (skipSpaces more)
      return (item :: others, after)
    | _ => .error .malformedJson

def readFields (limits : Limits) :
    Nat → Nat → Fields → List Char → Except Fault (Fields × List Char)
  | 0, _, _, _ => .error .malformedJson
  | fuel + 1, depth, seen, text =>
    match text with
    | '\x22' :: rest =>
      match stringBody? rest with
      | none => .error .malformedJson
      | some (key, rest) =>
        match skipSpaces rest with
        | ':' :: rest => do
          let (found, rest) ← readValue limits fuel depth (skipSpaces rest)
          let seen := seen.set (.text (String.ofList key)) found
          match skipSpaces rest with
          | '\x7d' :: after => return (seen, after)
          | ',' :: more => readFields limits fuel depth seen (skipSpaces more)
          | _ => .error .malformedJson
        | _ => .error .malformedJson
    | _ => .error .malformedJson

end

def read (limits : Limits) (text : String) : Except Fault Value := do
  let (found, rest) ← readValue limits (text.length + 1) 0 (skipSpaces text.toList)
  if (skipSpaces rest).isEmpty then return found else .error .malformedJson

/-- The value of a text of any size, or `none` for what is no JSON. -/
def parse? (text : String) : Option Value := (read {} text).toOption

end QueryLint.Json
