import QueryLint.Text.LetterRanges

/-! Word characters: letters, numbers and the underscore. A combining mark is none. -/
namespace QueryLint.Text

def inRanges (ranges : List (Nat × Nat)) (n : Nat) : Bool :=
  ranges.any fun range => range.1 ≤ n && n ≤ range.2

def isWord (c : Char) : Bool :=
  if c.toNat < 128 then c.isAlphanum || c == '_' else inRanges letterRanges c.toNat

def atWordEnd : List Char → Bool
  | [] => true
  | c :: _ => !isWord c

end QueryLint.Text
