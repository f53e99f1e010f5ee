import QueryLint.Limits
import QueryLint.Text.Digits

/-! What a plain YAML scalar stands for: null, a truth value, a number or else a text. -/
namespace QueryLint.Yaml

def nulls : List String := ["", "~", "null", "Null", "NULL"]

def truths : List String := ["yes", "Yes", "YES", "true", "True", "TRUE", "on", "On", "ON"]

def falsehoods : List String := ["no", "No", "NO", "false", "False", "FALSE", "off", "Off", "OFF"]

def sign : List Char → Bool × List Char
  | '-' :: text => (true, text)
  | '+' :: text => (false, text)
  | text => (false, text)

/-- Underscores between digits do not count. -/
def isPlace (base : Nat) (c : Char) : Bool := Text.isDigitBelow base c || c == '_'

def digitsOf (text : List Char) : List Char := text.filter (· != '_')

def based? (base : Nat) (text : List Char) : Option (Except Fault Nat) :=
  if text.isEmpty || !text.all (isPlace base) then none
  else if (digitsOf text).isEmpty then some (.error (.noDigits base))
  else some (.ok (Text.ofDigits base (digitsOf text)))

def colonParts : List Char → List (List Char)
  | [] => [[]]
  | c :: text =>
    match colonParts text with
    | [] => [[c]]
    | part :: parts => if c == ':' then [] :: part :: parts else (c :: part) :: parts

def sixtieth? : List Char → Option Nat
  | [a] => if Char.isDigit a then some (Text.ofDigits 10 [a]) else none
  | [a, b] =>
    if Text.isDigitBelow 6 a && Char.isDigit b then some (Text.ofDigits 10 [a, b]) else none
  | _ => none

/-- Decimal parts between colons, of which those after the first count below sixty. -/
def sixtieths? (text : List Char) : Option (List Char × List Nat) :=
  match colonParts text with
  | [] => none
  | head :: parts =>
    if head.all (isPlace 10) && head.head?.any Char.isDigit then
      (parts.mapM sixtieth?).map fun parts => (digitsOf head, parts)
    else none

def ofSixtieths (start : Nat) (parts : List Nat) : Nat :=
  parts.foldl (fun total part => total * 60 + part) start

/-- An unsigned integer: binary, hexadecimal, octal after a zero, or decimal, also in parts of
base sixty. -/
def natural? (limits : Limits) (text : List Char) : Option (Except Fault Nat) :=
  match text with
  | '0' :: 'b' :: digits => based? 2 digits
  | '0' :: 'x' :: digits => based? 16 digits
  | '0' :: digits =>
    if digits.all (isPlace 8) then some (.ok (Text.ofDigits 8 (digitsOf digits))) else none
  | _ =>
    (sixtieths? text).map fun (head, parts) => do
      limits.checkDigits head.length
      return ofSixtieths (Text.ofDigits 10 head) parts

def integer? (limits : Limits) (text : List Char) : Option (Except Fault Int) :=
  let (negative, digits) := sign text
  (natural? limits digits).map fun found =>
    found.map fun n => if negative then -(n : Int) else n

/-- An exponent needs its sign. -/
def exponent? : List Char → Option Int
  | [] => some 0
  | mark :: signChar :: digits =>
    if (mark == 'e' || mark == 'E') && (signChar == '-' || signChar == '+') && !digits.isEmpty &&
        digits.all Char.isDigit then
      let n : Int := Text.ofDigits 10 digits
      some (if signChar == '-' then -n else n)
    else none
  | _ => none

/-- A fraction has a point. Before it stands a digit, or no sign and after it a digit. -/
def fraction? (text : List Char) : Option Floating :=
  let (negative, unsigned) := sign text
  let front := unsigned.takeWhile (isPlace 10)
  match unsigned.dropWhile (isPlace 10) with
  | '.' :: rest =>
    let back := rest.takeWhile (isPlace 10)
    let wellFormed := match front with
      | first :: _ => first != '_'
      | [] => unsigned.length == text.length && back.head?.any Char.isDigit
    if wellFormed then
      (exponent? (rest.dropWhile (isPlace 10))).map fun power =>
        let digits := Text.ofDigits 10 (digitsOf (front ++ back))
        .ofDecimal (.make negative digits (power - (digitsOf back).length))
    else none
  | _ => none

/-- The sum of numbers of which each counts sixty times as much as the one before. How much one
counts has to be finite. -/
def sumOfSixtieths (total : Binary) (weight : Nat) : List Decimal → Except Fault Binary
  | [] => .ok total
  | part :: parts =>
    let factor := Binary.nearest weight 1
    if factor.isInfinite then .error .numberTooLarge
    else sumOfSixtieths (total.add ((Binary.ofDecimal part).mul factor)) (60 * weight) parts

def sixtiethFraction? (text : List Char) : Option (Except Fault Floating) :=
  let (negative, unsigned) := sign text
  let whole (n : Nat) : Decimal := .make false n 0
  match unsigned.dropWhile (· != '.') with
  | '.' :: back =>
    match sixtieths? (unsigned.takeWhile (· != '.')) with
    | some (head, part :: parts) =>
      if back.all (isPlace 10) then
        let places := (digitsOf back).length
        let last := (part :: parts).getLast (by simp) * Nat.pow 10 places +
          Text.ofDigits 10 (digitsOf back)
        let others := Text.ofDigits 10 head :: (part :: parts).dropLast
        let numbers := .make false last (-places) :: (others.map whole).reverse
        some ((sumOfSixtieths ⟨0, 0⟩ 1 numbers).map (.ofBinary negative))
      else none
    | _ => none
  | _ => none

def nonfinites : List (String × Floating) :=
  let infinities (sign : String) (negative : Bool) :=
    [".inf", ".Inf", ".INF"].map fun word => (sign ++ word, Floating.infinite negative)
  infinities "" false ++ infinities "+" false ++ infinities "-" true ++
    [".nan", ".NaN", ".NAN"].map fun word => (word, .undefined)

def floating? (text : List Char) : Option (Except Fault Floating) :=
  ((fraction? text).or (nonfinites.lookup (String.ofList text))).map .ok |>.or
    (sixtiethFraction? text)

/-- The key that brings the fields of another mapping in. -/
def mergeWord : String := "<<"

/-- The key that stands for the mapping's own value. -/
def valueWord : String := "="

/-- The value of a plain scalar. The two words of mappings have none. -/
def plainValue (limits : Limits) (text : List Char) : Except Fault Value :=
  let word := String.ofList text
  if word ∈ nulls then .ok .null
  else if word ∈ truths then .ok (.bool true)
  else if word ∈ falsehoods then .ok (.bool false)
  else if word = mergeWord ∨ word = valueWord then .error .malformedYaml
  else
    match integer? limits text with
    | some found => found.map .int
    | none =>
      match floating? text with
      | some found => found.map .floating
      | none => .ok (.text word)

end QueryLint.Yaml
