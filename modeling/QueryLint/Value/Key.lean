import QueryLint.Value.Floating

/-! Keys: what the fields of an object and the items of a set are told apart by. -/
namespace QueryLint

inductive Key where
  | null
  | bool (b : Bool)
  | int (n : Int)
  | floating (x : Floating)
  | text (s : String)
deriving DecidableEq, Inhabited, Repr

instance : Coe String Key := ⟨Key.text⟩

namespace Key

/-- What a key stands for. Numbers are compared by value, and truth counts as one. -/
inductive Content where
  | null
  | finite (negative : Bool) (size : Binary)
  | infinite (negative : Bool)
  | undefined
  | text (s : String)
deriving DecidableEq, Repr

namespace Content

def ofBinary (negative : Bool) (b : Binary) : Content :=
  finite (negative && b.mantissa != 0) (.lowest b.mantissa b.exponent)

/-- Where a number stands: among the finite ones, below or above them, or after all. -/
def rank? : Content → Option Int
  | finite _ _ => some 0
  | infinite negative => some (if negative then -1 else 1)
  | undefined => some 2
  | _ => none

def le? : Content → Content → Option Bool
  | finite false a, finite false b => some (a.le b)
  | finite true a, finite true b => some (b.le a)
  | finite a _, finite b _ => some (a || !b)
  | text a, text b => some (a ≤ b)
  | a, b =>
    match a.rank?, b.rank? with
    | some a, some b => some (a ≤ b)
    | _, _ => none

end Content

def content : Key → Content
  | null => .null
  | bool b => .ofBinary false ⟨b.toNat, 0⟩
  | int n => .ofBinary (n < 0) ⟨n.natAbs, 0⟩
  | floating (.finite d) => .ofBinary d.negative (.ofDecimal d)
  | floating (.infinite negative) => .infinite negative
  | floating .undefined => .undefined
  | text s => .text s

def same : Key → Key → Bool
  | text a, text b => a = b
  | a, b => a.content = b.content

theorem same_eq (a b : Key) : a.same b = decide (a.content = b.content) := by
  cases a <;> cases b <;> simp [same, content]

theorem content_eq_text_iff {key : Key} {s : String} : key.content = .text s ↔ key = .text s := by
  cases key with
  | floating x => cases x <;> simp [content, Content.ofBinary]
  | _ => simp [content, Content.ofBinary]

theorem text_same_iff {key : Key} {s : String} : (text s).same key ↔ key = text s := by
  rw [same_eq, decide_eq_true_eq, eq_comm]
  exact content_eq_text_iff

theorem same_text_iff {key : Key} {s : String} : key.same (text s) ↔ key = text s := by
  rw [same_eq, decide_eq_true_eq]
  exact content_eq_text_iff

def le? (a b : Key) : Option Bool := a.content.le? b.content

end Key

end QueryLint
