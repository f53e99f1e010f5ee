import Mathlib.Tactic.SplitIfs
import QueryLint.Json.Printer
import QueryLint.Json.Reader
import QueryLint.Proofs.Value.Display

/-! Strings and integers in JSON text are read back, whatever follows them. A character is
written as itself, as a short escape, as one unit of sixteen bits or as a pair of them, and the
first character of what is written tells which. -/
namespace QueryLint

namespace Text

variable {n : Nat} {c : Char} {rest : List Char}

theorem isDigitBelow_digitChar (n : Nat) : isDigitBelow 16 (Nat.digitChar (n % 16)) := by
  have below := Nat.mod_lt n (show 16 > 0 by omega)
  rw [isDigitBelow, digitValue?_digitChar (n % 16) below]
  simpa using below

theorem unit?_hex (small : n < 0x10000) : unit? (hex 4 n ++ rest) = some (n, rest) := by
  have value := ofDigits_hex 4 n
  have power : Nat.pow 16 4 = 0x10000 := rfl
  rw [power, Nat.mod_eq_of_lt small] at value
  simp only [hex, List.nil_append, List.cons_append] at value ⊢
  simp [unit?, isDigitBelow_digitChar, value]

/-- No unit of a pair is the number of a character. -/
theorem not_surrogate (c : Char) : isLeadUnit c.toNat = false ∧ isTrailUnit c.toNat = false := by
  have valid := c.valid
  simp only [UInt32.isValidChar, Nat.isValidChar] at valid
  simp only [isLeadUnit, isTrailUnit, Bool.and_eq_false_iff, decide_eq_false_iff_not, Char.toNat]
  omega

theorem toNat_lt_limit (c : Char) : c.toNat < 0x110000 := by
  have valid := c.valid
  simp only [UInt32.isValidChar, Nat.isValidChar] at valid
  simp only [Char.toNat]
  omega

theorem unitEscape?_single (small : c.toNat < 0x10000) :
    unitEscape? (hex 4 c.toNat ++ rest) = some (c, rest) := by
  obtain ⟨lead, trail⟩ := not_surrogate c
  simp [unitEscape?, unit?_hex small, lead, trail, Char.ofNat_toNat]

theorem unitEscape?_units {lead trail : Nat} (leads : isLeadUnit lead) (trails : isTrailUnit trail) :
    unitEscape? (hex 4 lead ++ '\\' :: 'u' :: (hex 4 trail ++ rest)) =
      some (Char.ofNat (0x10000 + (lead - 0xD800) * 0x400 + (trail - 0xDC00)), rest) := by
  have first : lead < 0x10000 := by
    simp only [isLeadUnit, Bool.and_eq_true, decide_eq_true_eq] at leads
    omega
  have second : trail < 0x10000 := by
    simp only [isTrailUnit, Bool.and_eq_true, decide_eq_true_eq] at trails
    omega
  simp only [unitEscape?, unit?_hex first, unit?_hex second, leads, trails, if_true]

theorem unitEscape?_pair (large : 0x10000 ≤ c.toNat) :
    unitEscape? (hex 4 (0xD800 + (c.toNat - 0x10000) / 0x400) ++
      '\\' :: 'u' :: (hex 4 (0xDC00 + (c.toNat - 0x10000) % 0x400) ++ rest)) = some (c, rest) := by
  have limit := toNat_lt_limit c
  have leads : isLeadUnit (0xD800 + (c.toNat - 0x10000) / 0x400) := by
    simp only [isLeadUnit, Bool.and_eq_true, decide_eq_true_eq]
    omega
  have trails : isTrailUnit (0xDC00 + (c.toNat - 0x10000) % 0x400) := by
    simp only [isTrailUnit, Bool.and_eq_true, decide_eq_true_eq]
    omega
  have whole : 0x10000 + (0xD800 + (c.toNat - 0x10000) / 0x400 - 0xD800) * 0x400 +
      (0xDC00 + (c.toNat - 0x10000) % 0x400 - 0xDC00) = c.toNat := by
    omega
  rw [unitEscape?_units leads trails, whole, Char.ofNat_toNat]

end Text

namespace Json

open Text

variable {c : Char} {text rest : List Char}

theorem stringBody?_escape {d : Char} (found : escape? text = some (d, rest)) :
    stringBody? ('\\' :: text) = (stringBody? rest).map fun (body, after) => (d :: body, after) := by
  rw [stringBody?.eq_def]
  simp only [show ('\\' == '\x22') = false from rfl, Bool.false_eq_true, if_false, beq_self_eq_true,
    if_true]
  split
  · simp_all
  · rename_i same
    rw [found] at same
    obtain ⟨rfl, rfl⟩ := Prod.mk.inj (Option.some.inj same)
    rfl

theorem stringBody?_plain (open_ : c ≠ '\x22') (solid : c ≠ '\\') (visible : 0x20 ≤ c.toNat) :
    stringBody? (c :: text) = (stringBody? text).map fun (body, after) => (c :: body, after) := by
  rw [stringBody?.eq_def]
  simp [open_, solid, Nat.not_lt.mpr visible]

theorem escape?_unit (text : List Char) : escape? ('u' :: text) = unitEscape? text := rfl

theorem char_of_toNat {n : Nat} (number : c.toNat = n) : c = Char.ofNat n := by
  rw [← number, Char.ofNat_toNat]

/-- Every character is read back from what it is written as. -/
theorem stringBody?_escapeChar (c : Char) (rest : List Char) :
    stringBody? (escapeChar c ++ rest) =
      (stringBody? rest).map fun (body, after) => (c :: body, after) := by
  simp only [escapeChar]
  split_ifs with marked line back tab backspace feed visible small
  · apply stringBody?_escape
    rcases Bool.or_eq_true _ _ ▸ marked with double | slash
    · rw [beq_iff_eq.mp double]
      rfl
    · rw [beq_iff_eq.mp slash]
      rfl
  · rw [beq_iff_eq.mp line]
    exact stringBody?_escape rfl
  · rw [beq_iff_eq.mp back]
    exact stringBody?_escape rfl
  · rw [beq_iff_eq.mp tab]
    exact stringBody?_escape rfl
  · rw [char_of_toNat (beq_iff_eq.mp backspace)]
    exact stringBody?_escape rfl
  · rw [char_of_toNat (beq_iff_eq.mp feed)]
    exact stringBody?_escape rfl
  · simp only [Bool.or_eq_true, beq_iff_eq, not_or] at marked
    simp only [Bool.and_eq_true, decide_eq_true_eq] at visible
    exact stringBody?_plain marked.1 marked.2 visible.1
  · apply stringBody?_escape
    rw [List.append_eq, List.cons_append, escape?_unit, unitEscape?_single small]
  · rw [List.append_assoc]
    apply stringBody?_escape
    rw [List.append_eq, List.cons_append, escape?_unit, escapeUnit, List.cons_append,
      List.cons_append, unitEscape?_pair (Nat.not_lt.mp small)]

theorem stringBody?_string (text rest : List Char) :
    stringBody? (text.flatMap escapeChar ++ '\x22' :: rest) = some (text, rest) := by
  induction text with
  | nil => simp [stringBody?]
  | cons c text ih =>
    rw [List.flatMap_cons, List.append_assoc, stringBody?_escapeChar, ih]
    rfl

/-- Nothing comes next that could go on with a number. -/
def Stops (text : List Char) : Prop :=
  ∀ d ∈ text.head?, d.isDigit = false ∧ d ≠ '.' ∧ d ≠ 'e' ∧ d ≠ 'E'

theorem Stops.ends (stops : Stops rest) : Value.Ends rest := fun d first => (stops d first).1

theorem stops_nil : Stops [] := by simp [Stops]

theorem stops_cons (solid : c.isDigit = false) (point : c ≠ '.') (lower : c ≠ 'e')
    (upper : c ≠ 'E') : Stops (c :: rest) := by
  intro d first
  obtain rfl := Option.some.inj (Option.mem_def.mp first)
  exact ⟨solid, point, lower, upper⟩

section Numbers

variable {n : Nat}

theorem digits_append (ends : Value.Ends rest) :
    digits (Nat.toDigits 10 n ++ rest) = (Nat.toDigits 10 n, rest) := by
  have front := Value.takeWhile_digits (n := n) ends
  have whole := List.takeWhile_append_dropWhile (p := Char.isDigit) (l := Nat.toDigits 10 n ++ rest)
  rw [front] at whole
  rw [digits, front, List.append_cancel_left whole]

/-- Only the number zero starts with a zero. -/
theorem toDigits_lead (positive : 0 < n) : ∀ more, Nat.toDigits 10 n ≠ '0' :: more := by
  induction n using Nat.strongRecOn with
  | ind n ih =>
    intro more same
    by_cases short : n < 10
    · rw [Nat.toDigits_of_lt_base short] at same
      have only : ∀ n < 10, 0 < n → Nat.digitChar n ≠ '0' := by decide
      exact only n short positive (List.cons.inj same).1
    · rw [Nat.toDigits_of_base_le (by omega) (by omega)] at same
      obtain ⟨c, front, shape⟩ := List.exists_cons_of_ne_nil (@Nat.toDigits_ne_nil (n / 10) 10)
      rw [shape, List.cons_append] at same
      refine ih (n / 10) (by omega) (by omega) front ?_
      rw [shape, (List.cons.inj same).1]

theorem whole_append (ends : Value.Ends rest) :
    whole (Nat.toDigits 10 n ++ rest) = (Nat.toDigits 10 n, rest) := by
  by_cases zero : n = 0
  · subst zero
    rfl
  · rw [whole.eq_2 _ ?_, digits_append ends]
    intro more same
    obtain ⟨c, front, shape⟩ := List.exists_cons_of_ne_nil (@Nat.toDigits_ne_nil n 10)
    rw [shape, List.cons_append] at same
    exact toDigits_lead (Nat.pos_of_ne_zero zero) front (by rw [shape, (List.cons.inj same).1])

theorem fraction_stops (stops : Stops rest) : fraction rest = ([], rest) := by
  cases rest with
  | nil => rfl
  | cons d rest =>
    apply fraction.eq_2
    rintro more same
    exact (stops d rfl).2.1 (List.cons.inj same).1

theorem exponent?_stops (stops : Stops rest) : exponent? rest = none := by
  cases rest with
  | nil => rfl
  | cons d rest =>
    obtain ⟨_, _, lower, upper⟩ := stops d rfl
    simp [exponent?, lower, upper]

theorem ofDigits_toDigits (n : Nat) : ofDigits 10 (Nat.toDigits 10 n) = n := by
  induction n using Nat.strongRecOn with
  | ind n ih =>
    have value : ∀ n < 10, digitValue? (Nat.digitChar n) = some n := by decide
    by_cases short : n < 10
    · rw [Nat.toDigits_of_lt_base short]
      simp [ofDigits, value n short]
    · have front := ih (n / 10) (by omega)
      rw [Nat.toDigits_of_base_le (by omega) (by omega)]
      simp only [ofDigits, List.foldl_append, List.foldl_cons, List.foldl_nil,
        value (n % 10) (by omega), Option.getD_some] at front ⊢
      omega

end Numbers

theorem readNumber_intChars {n : Int} (stops : Stops rest) :
    readNumber {} (Value.intChars n ++ rest) = .ok (.int n, rest) := by
  have front := @whole_append rest n.natAbs stops.ends
  have some : (Nat.toDigits 10 n.natAbs).isEmpty = false := by
    simp [Nat.toDigits_ne_nil]
  unfold Value.intChars
  split
  · rename_i negative
    simp only [readNumber, List.cons_append, List.nil_append, front, some, fraction_stops stops,
      exponent?_stops stops, ofDigits_toDigits, Limits.checkDigits]
    have value : -(n.natAbs : Int) = n := by omega
    exact congrArg (fun m => Except.ok (Value.int m, rest)) value
  · rename_i negative
    have unsigned : ∀ more, Nat.toDigits 10 n.natAbs ++ rest ≠ '-' :: more :=
      fun more => Value.digits_ne_minus
    rw [List.nil_append, readNumber.eq_2 _ _ unsigned]
    simp only [front, some, fraction_stops stops, exponent?_stops stops, ofDigits_toDigits,
      Limits.checkDigits]
    have value : (n.natAbs : Int) = n := by omega
    exact congrArg (fun m => Except.ok (Value.int m, rest)) value

end Json

end QueryLint
