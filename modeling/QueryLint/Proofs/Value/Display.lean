import QueryLint.Proofs.Text.Quoted
import QueryLint.Value.Display

/-! The form of a value tells the value. Behind a form that is not followed by a digit the rest
of the text is found again, so forms can be taken apart piece by piece: different settings are
written differently. -/
namespace QueryLint.Value

open Text

/-- Values as settings files have them, fractions aside: the keys of objects are texts. -/
inductive IsJson : Value → Prop where
  | null : IsJson null
  | bool (b : Bool) : IsJson (bool b)
  | int (n : Int) : IsJson (int n)
  | text (s : String) : IsJson (text s)
  | list {items : List Value} : (∀ item ∈ items, IsJson item) → IsJson (list items)
  | object {fields : Fields} : (∀ field ∈ fields, ∃ name, field.1 = .text name) →
      (∀ field ∈ fields, IsJson field.2) → IsJson (object fields)

/-- What rules are given to go by: nothing, or an object. -/
def IsSettings (config : Value) : Prop :=
  config = null ∨ ∃ fields, config = object fields ∧ IsJson (object fields)

/-- No digit comes next. -/
def Ends (text : List Char) : Prop := ∀ c ∈ text.head?, c.isDigit = false

variable {rest more : List Char}

theorem ends_nil : Ends [] := by simp [Ends]

theorem ends_cons {c : Char} (solid : c.isDigit = false) : Ends (c :: rest) := by
  simpa [Ends] using solid

section Numbers

variable {m n : Nat}

theorem takeWhile_digits (ends : Ends rest) :
    (Nat.toDigits 10 n ++ rest).takeWhile Char.isDigit = Nat.toDigits 10 n := by
  have digits : ∀ c ∈ Nat.toDigits 10 n, c.isDigit := by
    intro c inside
    exact Nat.isDigit_of_mem_toDigits (by omega) (by omega) inside
  rw [List.takeWhile_append_of_pos digits]
  cases rest with
  | nil => simp
  | cons c rest => simp [ends c rfl]

theorem digits_cancel (ends : Ends rest) (ends' : Ends more)
    (same : Nat.toDigits 10 m ++ rest = Nat.toDigits 10 n ++ more) : m = n ∧ rest = more := by
  have digits := congrArg (List.takeWhile Char.isDigit) same
  rw [takeWhile_digits ends, takeWhile_digits ends'] at digits
  rw [digits] at same
  refine ⟨?_, List.append_cancel_left same⟩
  rw [← @Nat.ofDigitChars_ten_toDigits m, digits, Nat.ofDigitChars_ten_toDigits]

/-- No number starts with the sign of the negative ones. -/
theorem digits_ne_minus : Nat.toDigits 10 n ++ rest ≠ '-' :: more := by
  intro same
  obtain ⟨c, digits, shape⟩ := List.exists_cons_of_ne_nil (@Nat.toDigits_ne_nil n 10)
  have first : c.isDigit :=
    Nat.isDigit_of_mem_toDigits (by omega) (by omega) (shape ▸ List.mem_cons_self)
  rw [shape, List.cons_append] at same
  rw [(List.cons.inj same).1] at first
  contradiction

theorem intChars_cancel {m n : Int} (ends : Ends rest) (ends' : Ends more)
    (same : intChars m ++ rest = intChars n ++ more) : m = n ∧ rest = more := by
  unfold intChars at same
  split at same <;> split at same
  · obtain ⟨sizes, rests⟩ := digits_cancel ends ends' (List.cons.inj same).2
    exact ⟨by omega, rests⟩
  · exact absurd same.symm digits_ne_minus
  · exact absurd same digits_ne_minus
  · obtain ⟨sizes, rests⟩ := digits_cancel ends ends' same
    exact ⟨by omega, rests⟩

end Numbers

/-- The kind of the values whose form starts with a character. -/
def kindAt (c : Char) : String :=
  if c = 'N' then "NoneType"
  else if c = 'T' ∨ c = 'F' then "bool"
  else if c = '-' ∨ c.isDigit then "int"
  else if c = '\x27' ∨ c = '\x22' then "str"
  else if c = '[' then "list"
  else if c = '\x7b' then "dict"
  else "none"

theorem kindAt_digit {c : Char} (digit : c.isDigit) : kindAt c = "int" := by
  have apart : ∀ other : Char, other.isDigit = false → c ≠ other := by
    rintro other solid rfl
    simp [solid] at digit
  simp [kindAt, digit, apart 'N' rfl, apart 'T' rfl, apart 'F' rfl]

/-- The first character of a form tells the kind of the value. -/
theorem displayChars_lead {value : Value} (json : value.IsJson) :
    ∃ c text, displayChars value = c :: text ∧ kindAt c = value.kindName := by
  cases json with
  | null => exact ⟨'N', _, rfl, rfl⟩
  | bool b =>
    cases b with
    | false => exact ⟨'F', _, rfl, rfl⟩
    | true => exact ⟨'T', _, rfl, rfl⟩
  | int n =>
    obtain ⟨c, digits, shape⟩ := List.exists_cons_of_ne_nil (@Nat.toDigits_ne_nil n.natAbs 10)
    have first : c.isDigit :=
      Nat.isDigit_of_mem_toDigits (by omega) (by omega) (shape ▸ List.mem_cons_self)
    by_cases negative : n < 0
    · exact ⟨'-', _, by simp only [displayChars, keyChars, intChars, if_pos negative]; rfl, rfl⟩
    · refine ⟨c, digits, ?_, kindAt_digit first⟩
      simp only [displayChars, keyChars, intChars, if_neg negative, shape]
      rfl
  | text s =>
    refine ⟨quoteMark s.toList, _, rfl, ?_⟩
    rcases quoteMark_isMark s.toList with single | double
    · rw [single]
      rfl
    · rw [double]
      rfl
  | list _ => exact ⟨'[', _, rfl, rfl⟩
  | object _ _ => exact ⟨'\x7b', _, rfl, rfl⟩

theorem kindName_of_same {value other : Value} (json : value.IsJson) (json' : other.IsJson)
    (same : displayChars value ++ rest = displayChars other ++ more) :
    value.kindName = other.kindName := by
  obtain ⟨c, text, shape, kind⟩ := displayChars_lead json
  obtain ⟨d, text', shape', kind'⟩ := displayChars_lead json'
  rw [shape, shape', List.cons_append, List.cons_append] at same
  rw [← kind, ← kind', (List.cons.inj same).1]

/-- A closing bracket starts no form. -/
theorem displayChars_ne_close {value : Value} (json : value.IsJson) {close : Char}
    (closing : kindAt close = "none") : displayChars value ++ rest ≠ close :: more := by
  intro same
  obtain ⟨c, text, shape, kind⟩ := displayChars_lead json
  rw [shape, List.cons_append] at same
  rw [(List.cons.inj same).1, closing] at kind
  cases json <;> simp [kindName] at kind

section Join

variable {α : Type} {form : α → List Char} {close : Char} {items others : List α}

/-- The forms of some items with a comma and a blank between each two of them. -/
def joined (form : α → List Char) (items : List α) : List Char :=
  [',', ' '].intercalate (items.map form)

/-- What stands behind an item in such a row. -/
def trail (form : α → List Char) (items : List α) : List Char :=
  if items.isEmpty then [] else ',' :: ' ' :: joined form items

theorem joined_cons (item : α) (items : List α) :
    joined form (item :: items) = form item ++ trail form items := by
  cases items with
  | nil => simp [joined, trail]
  | cons next items => simp [joined, trail, List.intercalate_cons_cons]

theorem ends_trail (closing : close.isDigit = false) : Ends (trail form items ++ close :: rest) := by
  cases items with
  | nil => exact ends_cons closing
  | cons next items => exact ends_cons (by decide)

/-- A row of forms that can be told apart and end at a bracket is told apart from others. -/
theorem joined_cancel (digit : close.isDigit = false) (comma : close ≠ ',')
    (start : ∀ item ∈ items, ∀ rest more, form item ++ rest ≠ close :: more)
    (start' : ∀ item ∈ others, ∀ rest more, form item ++ rest ≠ close :: more)
    (cancel : ∀ item ∈ items, ∀ other ∈ others, ∀ rest more, Ends rest → Ends more →
      form item ++ rest = form other ++ more → item = other ∧ rest = more)
    (same : joined form items ++ close :: rest = joined form others ++ close :: more) :
    items = others ∧ rest = more := by
  induction items generalizing others with
  | nil =>
    cases others with
    | nil => exact ⟨rfl, (List.cons.inj same).2⟩
    | cons other others =>
      rw [joined_cons, List.append_assoc] at same
      exact absurd same.symm (start' other List.mem_cons_self _ _)
  | cons item items ih =>
    rw [joined_cons, List.append_assoc] at same
    cases others with
    | nil => exact absurd same (start item List.mem_cons_self _ _)
    | cons other others =>
      rw [joined_cons, List.append_assoc] at same
      obtain ⟨rfl, behind⟩ := cancel item List.mem_cons_self other List.mem_cons_self _ _
        (ends_trail digit) (ends_trail digit) same
      -- The two rows go on in the same way, with a comma or with the bracket.
      have later : joined form items ++ close :: rest = joined form others ++ close :: more := by
        cases items with
        | nil =>
          cases others with
          | nil => exact behind
          | cons next others => exact absurd (List.cons.inj behind).1 comma
        | cons next items =>
          cases others with
          | nil => exact absurd (List.cons.inj behind).1.symm comma
          | cons following others => exact (List.cons.inj (List.cons.inj behind).2).2
      obtain ⟨rfl, rfl⟩ := ih
        (fun next inside => start next (List.mem_cons_of_mem _ inside))
        (fun next inside => start' next (List.mem_cons_of_mem _ inside))
        (fun next inside other inside' => cancel next (List.mem_cons_of_mem _ inside) other
          (List.mem_cons_of_mem _ inside'))
        later
      exact ⟨rfl, rfl⟩

end Join

/-- The form of a field of an object. -/
def fieldChars (field : Key × Value) : List Char :=
  keyChars field.1 ++ ':' :: ' ' :: displayChars field.2

theorem displayItems_eq (items : List Value) : displayItems items = joined displayChars items := by
  induction items with
  | nil => simp [displayItems, joined]
  | cons item items ih =>
    cases items with
    | nil => simp [displayItems, joined]
    | cons next items =>
      rw [displayItems, ih, joined_cons item]
      rfl

theorem displayFields_eq (fields : Fields) : displayFields fields = joined fieldChars fields := by
  induction fields with
  | nil => simp [displayFields, joined]
  | cons field fields ih =>
    obtain ⟨key, value⟩ := field
    cases fields with
    | nil => simp [displayFields, joined, fieldChars]
    | cons next fields =>
      rw [displayFields, ih, joined_cons (key, value)]
      rfl

theorem keyChars_cancel {key other : Key} (text : ∃ name, key = .text name)
    (text' : ∃ name, other = .text name) (same : keyChars key ++ rest = keyChars other ++ more) :
    key = other ∧ rest = more := by
  obtain ⟨name, rfl⟩ := text
  obtain ⟨name', rfl⟩ := text'
  obtain ⟨names, rests⟩ := quotedChars_cancel same
  exact ⟨congrArg Key.text (String.toList_inj.mp names), rests⟩

theorem fieldChars_ne_close {field : Key × Value} (text : ∃ name, field.1 = .text name) :
    fieldChars field ++ rest ≠ '\x7d' :: more := by
  obtain ⟨name, key⟩ := text
  intro same
  rw [fieldChars, key, List.append_assoc] at same
  have first : quoteMark name.toList = '\x7d' := (List.cons.inj same).1
  rcases quoteMark_isMark name.toList with single | double
  · rw [single] at first
    contradiction
  · rw [double] at first
    contradiction

/-- The form of a value ends where it ends, and stands for one value only. -/
theorem displayChars_cancel {value other : Value} (json : value.IsJson) (json' : other.IsJson)
    (ends : Ends rest) (ends' : Ends more)
    (same : displayChars value ++ rest = displayChars other ++ more) :
    value = other ∧ rest = more := by
  have kinds := kindName_of_same json json' same
  induction json generalizing other rest more with
  | null =>
    cases json' with
    | null => exact ⟨rfl, List.append_cancel_left same⟩
    | _ => simp [kindName] at kinds
  | bool b =>
    cases json' with
    | bool c =>
      cases b <;> cases c
      · exact ⟨rfl, List.append_cancel_left same⟩
      · exact absurd (List.cons.inj same).1 (by decide)
      · exact absurd (List.cons.inj same).1 (by decide)
      · exact ⟨rfl, List.append_cancel_left same⟩
    | _ => simp [kindName] at kinds
  | int m =>
    cases json' with
    | int n =>
      obtain ⟨rfl, rests⟩ := intChars_cancel ends ends' same
      exact ⟨rfl, rests⟩
    | _ => simp [kindName] at kinds
  | text s =>
    cases json' with
    | text t =>
      obtain ⟨texts, rests⟩ := quotedChars_cancel same
      exact ⟨congrArg Value.text (String.toList_inj.mp texts), rests⟩
    | _ => simp [kindName] at kinds
  | @list items inner ih =>
    cases json' with
    | @list others inner' =>
      simp only [displayChars, displayItems_eq, List.cons_append, List.append_assoc,
        List.nil_append] at same
      obtain ⟨rfl, rests⟩ := joined_cancel (by decide) (by decide)
        (fun item inside _ _ => displayChars_ne_close (inner item inside) rfl)
        (fun item inside _ _ => displayChars_ne_close (inner' item inside) rfl)
        (fun item inside other inside' _ _ ends ends' same =>
          ih item inside (inner' other inside') ends ends' same
            (kindName_of_same (inner item inside) (inner' other inside') same))
        (List.cons.inj same).2
      exact ⟨rfl, rests⟩
    | _ => simp [kindName] at kinds
  | @object fields keys inner ih =>
    cases json' with
    | @object others keys' inner' =>
      simp only [displayChars, displayFields_eq, List.cons_append, List.append_assoc,
        List.nil_append] at same
      have cancel : ∀ field ∈ fields, ∀ other ∈ others, ∀ rest more, Ends rest → Ends more →
          fieldChars field ++ rest = fieldChars other ++ more → field = other ∧ rest = more := by
        intro field inside other inside' rest more ends ends' same
        simp only [fieldChars, List.append_assoc, List.cons_append] at same
        obtain ⟨key, behind⟩ := keyChars_cancel (keys field inside) (keys' other inside') same
        have values := (List.cons.inj (List.cons.inj behind).2).2
        obtain ⟨value, rests⟩ := ih field inside (inner' other inside') ends ends' values
          (kindName_of_same (inner field inside) (inner' other inside') values)
        exact ⟨Prod.ext key value, rests⟩
      obtain ⟨rfl, rests⟩ := joined_cancel (by decide) (by decide)
        (fun field inside _ _ => fieldChars_ne_close (keys field inside))
        (fun field inside _ _ => fieldChars_ne_close (keys' field inside)) cancel
        (List.cons.inj same).2
      exact ⟨rfl, rests⟩
    | _ => simp [kindName] at kinds

theorem IsSettings.isJson {config : Value} (settings : config.IsSettings) : config.IsJson := by
  rcases settings with rfl | ⟨fields, rfl, json⟩
  · exact .null
  · exact json

/-- Settings that are written the same are the same. -/
theorem plain_injective {config other : Value} (settings : config.IsSettings)
    (settings' : other.IsSettings) (same : config.plain = other.plain) : config = other := by
  have forms : ∀ value : Value, value.IsSettings → value.plain = value.display := by
    rintro value (rfl | ⟨fields, rfl, _⟩) <;> rfl
  rw [forms config settings, forms other settings', display, display] at same
  have chars := congrArg String.toList same
  rw [String.toList_ofList, String.toList_ofList] at chars
  exact (displayChars_cancel settings.isJson settings'.isJson ends_nil ends_nil
    (by simpa using chars)).1

end QueryLint.Value
