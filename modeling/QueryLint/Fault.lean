import QueryLint.Value.Display

/-! Why an operation fails. -/
namespace QueryLint

inductive Choice where
  | severity
  | confidence
  | category
  | tokenKind
  | blockMode
deriving DecidableEq, Repr

def Choice.name : Choice → String
  | severity => "Severity"
  | confidence => "Confidence"
  | category => "FindingCategory"
  | tokenKind => "TokenKind"
  | blockMode => "BlockMode"

inductive Passage where
  | showing
  | copying
  | encoding
  | decoding (inList : Bool)
  | composing
deriving DecidableEq, Repr

def Passage.name : Passage → String
  | showing => " while getting the repr of an object"
  | encoding => " while encoding a JSON object"
  | decoding true => " while decoding a JSON array from a unicode string"
  | decoding false => " while decoding a JSON object from a unicode string"
  | copying | composing => ""

inductive Fault where
  | unknownFormat (content : String)
  | commentsNotRead
  | lineNotPositive (line : Value)
  | notAChoice (choice : Choice) (value : Value)
  | ruleFailed (message : String)
  | missingMember (value : Value) (member : String)
  | unsuitableValue
  | notAPair (index length : Nat)
  | unknownLogLevel (level : String)
  | missingFile (path : String)
  | isDirectory
  | pathTooLong
  /-- A path holds the character with which paths end. -/
  | pathWithEnd
  | malformedJson
  | malformedYaml
  /-- An integer is too long to be written in decimal. -/
  | unshowable (limit : Nat)
  /-- An integer is too long to be read in decimal. -/
  | tooManyDigits (limit count : Nat)
  | noDigits (base : Nat)
  | noCharacter
  | characterTooLarge
  /-- How much a part of a number counts is too large. -/
  | numberTooLarge
  | indentTooLarge
  | tooDeep (passage : Passage)
  | endlessStatement

def digitsExceed (limit : Nat) : String :=
  "Exceeds the limit (" ++ toString limit ++ " digits) for integer string conversion"

def digitsAdvice : String := "; use sys.set_int_max_str_digits() to increase the limit"

def Fault.message : Fault → String
  | unknownFormat content => "Unknown format for >" ++ content ++ "<"
  | commentsNotRead => "Parsed comments not found"
  | lineNotPositive line => "A positive line number is mandatory, got " ++ line.display
  | notAChoice choice value => value.display ++ " is not a valid " ++ choice.name
  | ruleFailed message => message
  | missingMember value member =>
    "'" ++ value.kindName ++ "' object has no attribute '" ++ member ++ "'"
  | unsuitableValue => "unsuitable value"
  | notAPair index length =>
    "dictionary update sequence element #" ++ toString index ++ " has length " ++
      toString length ++ "; 2 is required"
  | unknownLogLevel level => "Unknown level: " ++ Text.quoted level
  | missingFile path => "Configuration file not found: " ++ path
  | isDirectory => "is a directory"
  | pathTooLong => "path too long"
  | pathWithEnd => "embedded null byte"
  | malformedJson => "malformed JSON"
  | malformedYaml => "malformed YAML"
  | unshowable limit => digitsExceed limit ++ digitsAdvice
  | tooManyDigits limit count =>
    digitsExceed limit ++ ": value has " ++ toString count ++ " digits" ++ digitsAdvice
  | noDigits base => "invalid literal for int() with base " ++ toString base ++ ": ''"
  | noCharacter => "chr() arg not in range(0x110000)"
  | characterTooLarge => "Python int too large to convert to C int"
  | numberTooLarge => "int too large to convert to float"
  | indentTooLarge => "cannot fit 'int' into an index-sized integer"
  | tooDeep passage => "maximum recursion depth exceeded" ++ passage.name
  | endlessStatement => "endless statement"

def Value.field (value : Value) (key : String) (default : Value) : Except Fault Value :=
  match value with
  | .object fields => .ok ((Fields.get? fields key).getD default)
  | _ => .error (.missingMember value "get")

end QueryLint
