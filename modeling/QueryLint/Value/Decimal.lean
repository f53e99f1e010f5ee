/-! Decimal fractions in shortest form. -/
namespace QueryLint

/-- The number `± digits · 10 ^ exponent`. -/
structure Decimal where
  negative : Bool
  digits : Nat
  exponent : Int
deriving DecidableEq, Repr

namespace Decimal

def dropZeros (digits : Nat) (exponent : Int) : Nat × Int :=
  if digits = 0 then (0, 0)
  else if digits % 10 = 0 then dropZeros (digits / 10) (exponent + 1)
  else (digits, exponent)
termination_by digits
decreasing_by omega

/-- The form without trailing zeros, so that equal numbers have equal fields. -/
def make (negative : Bool) (digits : Nat) (exponent : Int) : Decimal :=
  let (digits, exponent) := dropZeros digits exponent
  ⟨negative, digits, exponent⟩

def isZero (d : Decimal) : Bool := d.digits == 0

def exceeds (d : Decimal) (bound : Nat) : Bool :=
  !d.negative &&
    bound * Nat.pow 10 (-d.exponent).toNat < d.digits * Nat.pow 10 d.exponent.toNat

/-- Exponents from -4 to 15 are written positionally, with at least one place after the
point; all others with `e`, a sign and at least two digits. -/
def showUnsigned (digits : Nat) (exponent : Int) : List Char :=
  let places := Nat.toDigits 10 digits
  let point : Int := places.length + exponent
  if -4 < point ∧ point ≤ 16 then
    if point ≤ 0 then '0' :: '.' :: List.replicate (-point).toNat '0' ++ places
    else
      let whole := places.take point.toNat ++ List.replicate (point.toNat - places.length) '0'
      let part := places.drop point.toNat
      whole ++ '.' :: (if part.isEmpty then ['0'] else part)
  else
    let power := point - 1
    let size := Nat.toDigits 10 power.natAbs
    let lead := match places with
      | first :: second :: more => first :: '.' :: second :: more
      | short => short
    lead ++ 'e' :: (if power < 0 then '-' else '+') ::
      List.replicate (2 - size.length) '0' ++ size

def render (d : Decimal) : List Char :=
  (if d.negative then ['-'] else []) ++ showUnsigned d.digits d.exponent

end Decimal

end QueryLint
