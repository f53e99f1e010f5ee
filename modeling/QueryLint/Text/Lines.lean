/-! The lines of a text. A line ends at any line or paragraph separator; a carriage return
and the line feed after it are one line end, and a final line end opens no further line. -/
namespace QueryLint.Text

def isLineEnd (c : Char) : Bool :=
  let n := c.toNat
  (0xA ≤ n && n ≤ 0xD) || (0x1C ≤ n && n ≤ 0x1E) || n == 0x85 || n == 0x2028 || n == 0x2029

def firstLine : List Char → List Char × List Char
  | [] => ([], [])
  | '\r' :: '\n' :: text => ([], text)
  | c :: text =>
    if isLineEnd c then ([], text)
    else
      let (line, rest) := firstLine text
      (c :: line, rest)

theorem firstLine_rest_le (text : List Char) : (firstLine text).2.length ≤ text.length := by
  fun_induction firstLine text <;> simp_all <;> omega

theorem firstLine_rest_lt (c : Char) (text : List Char) :
    (firstLine (c :: text)).2.length < (c :: text).length := by
  have rest := firstLine_rest_le text
  rw [firstLine.eq_def]
  split <;> grind

def lines : List Char → List (List Char)
  | [] => []
  | c :: text => (firstLine (c :: text)).1 :: lines (firstLine (c :: text)).2
termination_by text => text.length
decreasing_by exact firstLine_rest_lt c text

end QueryLint.Text
