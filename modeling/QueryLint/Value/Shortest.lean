import QueryLint.Value.Decimal

/-! Numbers kept with 53 significant bits. A decimal fraction stands for the nearest such
number, and that number is written with the fewest digits that stand for it. -/
namespace QueryLint

/-- The number `mantissa · 2 ^ exponent`. -/
structure Binary where
  mantissa : Nat
  exponent : Int
deriving DecidableEq, Repr

namespace Binary

def floor : Int := -1074

def ceiling : Int := 971

def isInfinite (b : Binary) : Bool := ceiling < b.exponent

/-- Moves the factors two of the mantissa into the exponent, so that equal numbers have equal
fields. -/
def lowest (mantissa : Nat) (exponent : Int) : Binary :=
  if mantissa = 0 then ⟨0, 0⟩
  else if mantissa % 2 = 0 then lowest (mantissa / 2) (exponent + 1)
  else ⟨mantissa, exponent⟩
termination_by mantissa
decreasing_by omega

/-- The number in units of `2 ^ unit`, for a unit not above the exponent. -/
def scaled (b : Binary) (unit : Int) : Nat := b.mantissa * Nat.pow 2 (b.exponent - unit).toNat

def le (a b : Binary) : Bool :=
  let unit := min a.exponent b.exponent
  a.scaled unit ≤ b.scaled unit

/-- The quotient to the nearest, and to the even one of two. -/
def roundDiv (num den : Nat) : Nat :=
  let quotient := num / den
  let twice := 2 * (num % den)
  if den < twice || (twice == den && quotient % 2 == 1) then quotient + 1 else quotient

/-- The fraction `num / den` in units of `base ^ exponent`. -/
def scale (base : Nat) (exponent : Int) (num den : Nat) : Nat × Nat :=
  (num * Nat.pow base (-exponent).toNat, den * Nat.pow base exponent.toNat)

def nearest (num den : Nat) : Binary :=
  if num == 0 then ⟨0, 0⟩
  else
    let size : Int := (Nat.log2 num : Int) - Nat.log2 den
    let (top, bottom) := scale 2 size num den
    let exponent := max floor (if top < bottom then size - 53 else size - 52)
    let (top, bottom) := scale 2 exponent num den
    let mantissa := roundDiv top bottom
    if mantissa == Nat.pow 2 53 then ⟨Nat.pow 2 52, exponent + 1⟩ else ⟨mantissa, exponent⟩

def fraction (b : Binary) : Nat × Nat := scale 2 (-b.exponent) b.mantissa 1

def add (a b : Binary) : Binary :=
  let (top, bottom) := a.fraction
  let (top', bottom') := b.fraction
  nearest (top * bottom' + top' * bottom) (bottom * bottom')

def mul (a b : Binary) : Binary :=
  let (top, bottom) := a.fraction
  let (top', bottom') := b.fraction
  nearest (top * top') (bottom * bottom')

def ofDecimal (d : Decimal) : Binary :=
  let (num, den) := scale 10 (-d.exponent) d.digits 1
  nearest num den

/-- The coarsest of the units from `10 ^ unit` down in which one of the two neighbours of the
number stands for it; of two the nearer one. The fuel bounds the number of units. -/
def digitsFrom (b : Binary) : Nat → Int → Decimal
  | 0, unit => ⟨false, 0, unit⟩
  | fuel + 1, unit =>
    let (num, den) := b.fraction
    let (top, bottom) := scale 10 unit num den
    let below := top / bottom
    let reads (digits : Nat) : Bool := ofDecimal ⟨false, digits, unit⟩ == b
    let near := roundDiv top bottom
    let far := if near == below then below + 1 else below
    if reads near then .make false near unit
    else if reads far then .make false far unit
    else digitsFrom b fuel (unit - 1)

def shortest (b : Binary) : Decimal :=
  if b.mantissa == 0 then ⟨false, 0, 0⟩
  else
    let size : Int := Nat.log2 b.mantissa + b.exponent
    b.digitsFrom 24 ((size + 1) * 30103 / 100000 + 2)

end Binary

end QueryLint
