import QueryLint.Text.Digits

/-! Characters written as units of sixteen bits, in four hexadecimal digits each. A character
beyond the reach of one unit is a pair of them. -/
namespace QueryLint.Text

def unit? : List Char → Option (Nat × List Char)
  | a :: b :: c :: d :: text =>
    if [a, b, c, d].all (isDigitBelow 16) then some (ofDigits 16 [a, b, c, d], text)
    else none
  | _ => none

def isLeadUnit (n : Nat) : Bool := 0xD800 ≤ n && n < 0xDC00

def isTrailUnit (n : Nat) : Bool := 0xDC00 ≤ n && n < 0xE000

/-- The character of the digits after a `u` escape; where the unit leads a pair, the other one
follows in an escape of its own. -/
def unitEscape? (text : List Char) : Option (Char × List Char) :=
  match unit? text with
  | none => none
  | some (n, rest) =>
    if isLeadUnit n then
      match rest with
      | '\\' :: 'u' :: more =>
        match unit? more with
        | none => none
        | some (trail, after) =>
          if isTrailUnit trail then
            some (Char.ofNat (0x10000 + (n - 0xD800) * 0x400 + (trail - 0xDC00)), after)
          else none
      | _ => none
    else if isTrailUnit n then none
    else some (Char.ofNat n, rest)

theorem unit?_shorter {text rest : List Char} {n : Nat} (found : unit? text = some (n, rest)) :
    rest.length < text.length := by
  fun_cases unit? text <;> simp_all [unit?]
  omega

theorem unitEscape?_shorter {text rest : List Char} {c : Char}
    (found : unitEscape? text = some (c, rest)) : rest.length < text.length := by
  rw [unitEscape?.eq_def] at found
  split at found
  · contradiction
  · rename_i first
    have near := unit?_shorter first
    split at found
    · split at found
      · split at found
        · contradiction
        · rename_i second
          have far := unit?_shorter second
          split at found <;> simp_all
          omega
      · contradiction
    · split at found <;> simp_all

end QueryLint.Text
