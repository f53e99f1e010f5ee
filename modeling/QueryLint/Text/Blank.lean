/-! Blank characters, and cutting a text into the fields between them. -/
namespace QueryLint.Text

/-- Unicode whitespace, with the four information separators U+001C to U+001F. -/
def isBlank (c : Char) : Bool :=
  let n := c.toNat
  (0x9 ≤ n && n ≤ 0xD) || (0x1C ≤ n && n ≤ 0x20) || n == 0x85 || n == 0xA0 || n == 0x1680 ||
    (0x2000 ≤ n && n ≤ 0x200A) || n == 0x2028 || n == 0x2029 || n == 0x202F || n == 0x205F ||
    n == 0x3000

def skipBlanks (text : List Char) : List Char := text.dropWhile isBlank

def trim (text : List Char) : List Char :=
  (skipBlanks (skipBlanks text).reverse).reverse

def isSeparator (c : Char) : Bool := isBlank c || c == ','

theorem length_dropWhile_le (keep : Char → Bool) (text : List Char) :
    (text.dropWhile keep).length ≤ text.length :=
  (List.dropWhile_suffix keep).length_le

/-- The maximal runs of characters that are no separator, in order. -/
def fields : List Char → List (List Char)
  | [] => []
  | c :: text =>
    if isSeparator c then fields text
    else (c :: text.takeWhile (!isSeparator ·)) :: fields (text.dropWhile (!isSeparator ·))
termination_by text => text.length
decreasing_by
  · simp
  · have := length_dropWhile_le (!isSeparator ·) text
    simp only [List.length_cons]
    omega

theorem fields_nil : fields [] = [] := by
  rw [fields.eq_def]

theorem fields_cons (c : Char) (text : List Char) :
    fields (c :: text) =
      if isSeparator c then fields text
      else (c :: text.takeWhile (!isSeparator ·)) :: fields (text.dropWhile (!isSeparator ·)) := by
  rw [fields.eq_def]

end QueryLint.Text
