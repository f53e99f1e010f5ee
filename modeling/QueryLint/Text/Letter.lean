/-! ASCII words read without regard to case. -/
namespace QueryLint.Text

/-- Whether `c` spells the lower-case letter `letter`. Besides the two ASCII forms these are
the long s, the dotted capital and the dotless small i, and the Kelvin sign. -/
def spells (letter c : Char) : Bool :=
  c.toLower == letter || (letter == 's' && c == '\u017f') ||
    (letter == 'i' && (c == '\u0130' || c == '\u0131')) || (letter == 'k' && c == '\u212a')

def stripSpelling? : List Char → List Char → Option (List Char)
  | [], text => some text
  | _ :: _, [] => none
  | letter :: word, c :: text => if spells letter c then stripSpelling? word text else none

end QueryLint.Text
