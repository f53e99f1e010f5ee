import QueryLint.Fault

/-! What a value may be for the program to go through it. An integer is converted to and from
decimal up to a number of digits. How deep values may be nested depends on the calls that are
already open, so that bound is left open here, and everything that goes through a value takes it
as a parameter. -/
namespace QueryLint

/-- The digits of the longest integer that is converted to or from decimal. -/
def digitLimit : Nat := 4300

/-- How many calls can still be opened inside each other. -/
class Nesting where
  room : Nat

/-- What a program finds that has just been started. -/
instance (priority := low) : Nesting := ⟨990⟩

namespace Nesting

/-- The levels of a value that is gone through with two calls for each of them. -/
def half [Nesting] : Nat := room / 2

end Nesting

/-- Bounds on what a reader takes on, `none` for no bound. -/
structure Limits where
  digits : Option Nat := none
  depth : Option Nat := none

namespace Limits

def ofDepth (depth : Nat) : Limits := { digits := some digitLimit, depth := some depth }

def checkDigits (limits : Limits) (count : Nat) : Except Fault Unit :=
  match limits.digits with
  | none => .ok ()
  | some limit => if limit < count then .error (.tooManyDigits limit count) else .ok ()

def allowsDepth (limits : Limits) (depth : Nat) : Bool := limits.depth.all (depth ≤ ·)

end Limits

def overlong? (n : Int) : Option Fault :=
  if n.natAbs < Nat.pow 10 digitLimit then none else some (.unshowable digitLimit)

def Key.overlong? : Key → Option Fault
  | .int n => QueryLint.overlong? n
  | _ => none

namespace Value

mutual

def levels : Value → Nat
  | list items => itemsLevels items
  | object fields => fieldsLevels fields
  | _ => 0

def itemsLevels : List Value → Nat
  | [] => 0
  | item :: items => max (item.levels + 1) (itemsLevels items)

def fieldsLevels : List (Key × Value) → Nat
  | [] => 0
  | (_, value) :: fields => max (value.levels + 1) (fieldsLevels fields)

end

mutual

/-- What is met first that keeps a value from being gone through, with room for so many levels. -/
def hindranceWithin? (passage : Passage) (room : Nat) : Value → Option Fault
  | int n => overlong? n
  | list items => itemsHindrance? passage room items
  | object fields => fieldsHindrance? passage room fields
  | _ => none

def itemsHindrance? (passage : Passage) (room : Nat) : List Value → Option Fault
  | [] => none
  | item :: items =>
    if room = 0 then some (.tooDeep passage)
    else (item.hindranceWithin? passage (room - 1)).or (itemsHindrance? passage room items)

def fieldsHindrance? (passage : Passage) (room : Nat) : List (Key × Value) → Option Fault
  | [] => none
  | (key, value) :: fields =>
    if room = 0 then some (.tooDeep passage)
    else key.overlong?.or ((value.hindranceWithin? passage (room - 1)).or
      (fieldsHindrance? passage room fields))

end

def hindrance? [Nesting] (value : Value) (passage : Passage) : Option Fault :=
  value.hindranceWithin? passage Nesting.room

end Value

def Choice.named {α : Type} (choice : Choice) (table : List (String × α)) (name : String) :
    Except Fault α :=
  (table.lookup name).elim (.error (.notAChoice choice (.text name))) .ok

/-- The member of a table that a value names. What is none is shown, if it can be. -/
def Choice.pick [Nesting] {α : Type} (choice : Choice) (table : List (String × α))
    (value : Value) : Except Fault α :=
  match value with
  | .text name => choice.named table name
  | _ => .error ((value.hindrance? .showing).getD (.notAChoice choice value))

end QueryLint
