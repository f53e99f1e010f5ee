import QueryLint.Text.Digits
import QueryLint.Text.Quoted

/-! Texts between quotes are read back. Every character is written as itself or as one escape
that tells where it ends, and no character is written with a quote in front. So the closing quote
is found whatever follows it, and a text in quotes stands for one text only. -/
namespace QueryLint.Text

/-- The character with the number that the first digits of a text give, and the rest. -/
def hexChar (width : Nat) (text : List Char) : Char × List Char :=
  (Char.ofNat (ofDigits 16 (text.take width)), text.drop width)

/-- The character that the text between quotes starts with, and the rest. -/
def unescape : List Char → Option (Char × List Char)
  | [] => none
  | '\\' :: 'n' :: rest => some ('\n', rest)
  | '\\' :: 'r' :: rest => some ('\r', rest)
  | '\\' :: 't' :: rest => some ('\t', rest)
  | '\\' :: 'x' :: rest => some (hexChar 2 rest)
  | '\\' :: 'u' :: rest => some (hexChar 4 rest)
  | '\\' :: 'U' :: rest => some (hexChar 8 rest)
  | '\\' :: c :: rest => some (c, rest)
  | c :: rest => some (c, rest)

variable {mark c d : Char} {text other rest more : List Char}

theorem digitValue?_digitChar : ∀ n < 16, digitValue? (Nat.digitChar n) = some n := by decide

@[simp] theorem length_hex (width n : Nat) : (hex width n).length = width := by
  induction width generalizing n with
  | zero => rfl
  | succ width ih => simp [hex, ih]

theorem ofDigits_hex (width n : Nat) : ofDigits 16 (hex width n) = n % Nat.pow 16 width := by
  induction width generalizing n with
  | zero => simp [hex, ofDigits, Nat.mod_one]
  | succ width ih =>
    have last := digitValue?_digitChar (n % 16) (Nat.mod_lt n (by omega))
    have split : ofDigits 16 (hex (width + 1) n) =
        ofDigits 16 (hex width (n / 16)) * 16 + n % 16 := by
      simp [hex, ofDigits, last]
    have power : Nat.pow 16 (width + 1) = 16 * Nat.pow 16 width := Nat.mul_comm ..
    rw [split, ih, power, Nat.mod_mul]
    omega

theorem hexChar_hex {width : Nat} (small : c.toNat < Nat.pow 16 width) :
    hexChar width (hex width c.toNat ++ rest) = (c, rest) := by
  have digits : (hex width c.toNat ++ rest).take width = hex width c.toNat := by simp
  have behind : (hex width c.toNat ++ rest).drop width = rest := by simp
  rw [hexChar, digits, behind, ofDigits_hex, Nat.mod_eq_of_lt small, Char.ofNat_toNat]

theorem toNat_lt (c : Char) : c.toNat < Nat.pow 16 8 := by
  have valid := c.valid
  have power : Nat.pow 16 8 = 4294967296 := rfl
  simp only [UInt32.isValidChar, Nat.isValidChar] at valid
  simp only [Char.toNat]
  omega

/-- One of the two quotes. -/
def IsMark (c : Char) : Prop := c = '\x27' ∨ c = '\x22'

theorem quoteMark_isMark (text : List Char) : IsMark (quoteMark text) := by
  unfold quoteMark
  split
  · exact .inr rfl
  · exact .inl rfl

theorem unescape_plain (solid : c ≠ '\\') : unescape (c :: rest) = some (c, rest) := by
  unfold unescape
  split <;> simp_all

/-- Every character is read back from what it is written as, whatever follows. -/
theorem unescape_escapeIn (isMark : IsMark mark) :
    unescape (escapeIn mark c ++ rest) = some (c, rest) := by
  unfold escapeIn
  split
  · rename_i quoted
    simp only [Bool.or_eq_true, beq_iff_eq] at quoted
    rcases quoted with rfl | rfl
    · rcases isMark with rfl | rfl <;> rfl
    · rfl
  · rename_i plain
    have solid : c ≠ '\\' := by
      rintro rfl
      simp at plain
    split
    · simp_all [unescape]
    · split
      · simp_all [unescape]
      · split
        · simp_all [unescape]
        · split
          · exact unescape_plain solid
          · split
            · rename_i small
              exact congrArg some (hexChar_hex small)
            · split
              · rename_i small
                exact congrArg some (hexChar_hex small)
              · exact congrArg some (hexChar_hex (toNat_lt c))

/-- What a character is written as is not taken for the closing quote. -/
theorem escapeIn_ne_mark (isMark : IsMark mark) : escapeIn mark c ++ text ≠ mark :: rest := by
  intro same
  have read := @unescape_escapeIn mark c text isMark
  have solid : mark ≠ '\\' := by
    rcases isMark with rfl | rfl <;> decide
  rw [same, unescape_plain solid] at read
  obtain ⟨rfl, rfl⟩ := Prod.mk.inj (Option.some.inj read)
  simp [escapeIn] at same

theorem escapes_cancel (isMark : IsMark mark)
    (same : text.flatMap (escapeIn mark) ++ mark :: rest =
      other.flatMap (escapeIn mark) ++ mark :: more) :
    text = other ∧ rest = more := by
  induction text generalizing other with
  | nil =>
    cases other with
    | nil => exact ⟨rfl, (List.cons.inj same).2⟩
    | cons d other =>
      rw [List.flatMap_cons, List.append_assoc] at same
      exact absurd same.symm (escapeIn_ne_mark isMark)
  | cons c text ih =>
    rw [List.flatMap_cons, List.append_assoc] at same
    cases other with
    | nil => exact absurd same (escapeIn_ne_mark isMark)
    | cons d other =>
      rw [List.flatMap_cons, List.append_assoc] at same
      have read := congrArg unescape same
      rw [unescape_escapeIn isMark, unescape_escapeIn isMark] at read
      obtain ⟨rfl, behind⟩ := Prod.mk.inj (Option.some.inj read)
      obtain ⟨rfl, rfl⟩ := ih behind
      exact ⟨rfl, rfl⟩

/-- A text in quotes ends where it ends, and stands for one text only. -/
theorem quotedChars_cancel (same : quotedChars text ++ rest = quotedChars other ++ more) :
    text = other ∧ rest = more := by
  simp only [quotedChars, List.cons_append, List.append_assoc, List.nil_append] at same
  obtain ⟨marks, inner⟩ := List.cons.inj same
  rw [← marks] at inner
  exact escapes_cancel (quoteMark_isMark text) inner

end QueryLint.Text
