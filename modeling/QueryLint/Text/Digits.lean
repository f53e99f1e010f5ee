/-! Numbers from their digits. -/
namespace QueryLint.Text

def digitValue? (c : Char) : Option Nat :=
  if '0' ≤ c && c ≤ '9' then some (c.toNat - '0'.toNat)
  else if 'a' ≤ c && c ≤ 'f' then some (c.toNat - 'a'.toNat + 10)
  else if 'A' ≤ c && c ≤ 'F' then some (c.toNat - 'A'.toNat + 10)
  else none

def isDigitBelow (base : Nat) (c : Char) : Bool := (digitValue? c).any (· < base)

def ofDigits (base : Nat) (digits : List Char) : Nat :=
  digits.foldl (fun total c => total * base + (digitValue? c).getD 0) 0

end QueryLint.Text
