import QueryLint.Value.Shortest

/-! Floating numbers: decimal fractions that stand for numbers of 53 bits, and what lies beyond
all of them. -/
namespace QueryLint

inductive Floating where
  | finite (d : Decimal)
  | infinite (negative : Bool)
  | undefined
deriving DecidableEq, Repr

namespace Floating

def ofBinary (negative : Bool) (b : Binary) : Floating :=
  if b.isInfinite then infinite negative else finite { b.shortest with negative }

/-- Beyond this power of ten every number is infinite, and below its inverse all are zero. -/
def reach : Int := 400

/-- The fewest digits that stand for the same number. -/
def ofDecimal (d : Decimal) : Floating :=
  let size : Int := (Nat.toDigits 10 d.digits).length + d.exponent
  if reach < size then infinite d.negative
  else if size < -reach then finite ⟨d.negative, 0, 0⟩
  else ofBinary d.negative (.ofDecimal d)

def isZero : Floating → Bool
  | finite d => d.isZero
  | _ => false

def exceeds (x : Floating) (bound : Nat) : Bool :=
  match x with
  | finite d => d.exceeds bound
  | infinite negative => !negative
  | undefined => false

def render : Floating → List Char
  | finite d => d.render
  | infinite false => ['i', 'n', 'f']
  | infinite true => ['-', 'i', 'n', 'f']
  | undefined => ['n', 'a', 'n']

end Floating

end QueryLint
