import QueryLint.Proofs.Json.Scalars

/-! JSON text is read back. The text of a value ends where the value ends, with and without an
indentation, so a list is read item by item and an object field by field, whatever stands behind
it. Nothing but printable ASCII and line ends is written. -/
namespace QueryLint

namespace Value

/-- Values that JSON holds as they are: no fractions, and objects whose keys are different
texts. -/
inductive Lossless : Value → Prop where
  | null : Lossless null
  | bool (b : Bool) : Lossless (bool b)
  | int (n : Int) : Lossless (int n)
  | text (s : String) : Lossless (text s)
  | list {items : List Value} : (∀ item ∈ items, Lossless item) → Lossless (list items)
  | object {fields : Fields} : (fields.map Prod.fst).Nodup →
      (∀ field ∈ fields, ∃ name, field.1 = .text name) → (∀ field ∈ fields, Lossless field.2) →
      Lossless (object fields)

end Value

/-- A key that is not there yet goes to the end. -/
theorem Fields.set_of_absent {fields : Fields} {name : String} {value : Value}
    (texts : ∀ field ∈ fields, ∃ name, field.1 = .text name)
    (absent : Key.text name ∉ fields.map Prod.fst) :
    fields.set (.text name) value = fields ++ [(.text name, value)] := by
  induction fields with
  | nil => rfl
  | cons field fields ih =>
    obtain ⟨known, old⟩ := field
    obtain ⟨other, rfl⟩ := texts _ List.mem_cons_self
    rw [List.map_cons, List.mem_cons, not_or] at absent
    have apart : other ≠ name := fun same => absent.1 (by rw [same])
    have later := ih (fun field inside => texts field (List.mem_cons_of_mem _ inside)) absent.2
    simp [Fields.set, Key.same, apart, later]

namespace Json

open Value

variable {indent : Option Nat} {level : Nat} {value : Value} {c : Char} {text rest : List Char}

section Spaces

theorem skipSpaces_cons (solid : isSpace c = false) : skipSpaces (c :: rest) = c :: rest := by
  simp [skipSpaces, solid]

theorem skipSpaces_append {gap : List Char} (spaces : ∀ d ∈ gap, isSpace d)
    (solid : isSpace c = false) : skipSpaces (gap ++ c :: rest) = c :: rest := by
  rw [skipSpaces, List.dropWhile_append_of_pos spaces]
  exact skipSpaces_cons solid

theorem isSpace_newline : ∀ d ∈ newline indent level, isSpace d := by
  intro d inside
  cases indent with
  | none => contradiction
  | some width =>
    rcases List.mem_cons.mp inside with rfl | inside
    · rfl
    · rw [List.eq_of_mem_replicate inside]
      rfl

/-- What separates two items, behind the comma. -/
def gap (indent : Option Nat) (level : Nat) : List Char :=
  match indent with
  | none => [' ']
  | some _ => newline indent level

theorem comma_newline : comma indent ++ newline indent level = ',' :: gap indent level := by
  cases indent <;> rfl

theorem isSpace_gap : ∀ d ∈ gap indent level, isSpace d := by
  cases indent with
  | none => exact List.forall_mem_singleton.mpr rfl
  | some width => exact @isSpace_newline (some width) level

end Spaces

/-- Integers are written with a digit or a minus sign first. -/
theorem intChars_lead (n : Int) : ∃ c text, intChars n = c :: text ∧
    (c.isDigit ∨ c = '-' ∧ ∃ d more, text = d :: more ∧ d.isDigit) := by
  obtain ⟨c, digits, shape⟩ := List.exists_cons_of_ne_nil (@Nat.toDigits_ne_nil n.natAbs 10)
  have first : c.isDigit :=
    Nat.isDigit_of_mem_toDigits (by omega) (by omega) (shape ▸ List.mem_cons_self)
  by_cases negative : n < 0
  · exact ⟨'-', c :: digits, by rw [intChars, if_pos negative, shape]; rfl, .inr ⟨rfl, c, _, rfl, first⟩⟩
  · exact ⟨c, digits, by rw [intChars, if_neg negative, shape]; rfl, .inl first⟩

theorem ne_of_isDigit {d : Char} (digit : c.isDigit) (solid : d.isDigit = false) : c ≠ d := by
  rintro rfl
  rw [digit] at solid
  contradiction

/-- A character that no value ends or goes on with. -/
structure Leads (c : Char) : Prop where
  solid : isSpace c = false
  square : c ≠ ']'
  brace : c ≠ '\x7d'

theorem leads_of_isDigit (digit : c.isDigit) : Leads c where
  solid := by
    simp [isSpace, ne_of_isDigit digit (show ' '.isDigit = false from rfl),
      ne_of_isDigit digit (show '\t'.isDigit = false from rfl),
      ne_of_isDigit digit (show '\n'.isDigit = false from rfl),
      ne_of_isDigit digit (show '\r'.isDigit = false from rfl)]
  square := ne_of_isDigit digit rfl
  brace := ne_of_isDigit digit rfl

theorem write_lead (lossless : value.Lossless) :
    ∃ c text, write indent level value = c :: text ∧ Leads c := by
  cases lossless with
  | null => exact ⟨'n', _, by rw [write], by decide, by decide, by decide⟩
  | bool b =>
    cases b with
    | false => exact ⟨'f', _, by rw [write], by decide, by decide, by decide⟩
    | true => exact ⟨'t', _, by rw [write], by decide, by decide, by decide⟩
  | int n =>
    obtain ⟨c, text, shape, lead⟩ := intChars_lead n
    refine ⟨c, text, by rw [write, shape], ?_⟩
    rcases lead with digit | ⟨rfl, _⟩
    · exact leads_of_isDigit digit
    · exact ⟨by decide, by decide, by decide⟩
  | text s => exact ⟨'\x22', _, by rw [write]; rfl, by decide, by decide, by decide⟩
  | @list items inner =>
    cases items with
    | nil => exact ⟨'[', _, by rw [write], by decide, by decide, by decide⟩
    | cons item items => exact ⟨'[', _, by rw [write]; rfl, by decide, by decide, by decide⟩
  | @object fields distinct keys inner =>
    cases fields with
    | nil => exact ⟨'\x7b', _, by rw [write], by decide, by decide, by decide⟩
    | cons field fields => exact ⟨'\x7b', _, by rw [write]; rfl, by decide, by decide, by decide⟩

/-- The value is read from its text, whatever the layout and whatever follows. -/
def ReadsBack (value : Value) : Prop :=
  ∀ indent level depth fuel rest, Stops rest → (write indent level value).length ≤ fuel →
    readValue {} fuel depth (write indent level value ++ rest) = .ok (value, rest)

theorem allowsDepth_unlimited (depth : Nat) : Limits.allowsDepth {} depth := rfl

theorem readValue_number {limits : Limits} {fuel depth : Nat}
    (lead : c.isDigit ∨ c = '-' ∧ ∃ d more, text = d :: more ∧ d.isDigit) :
    readValue limits (fuel + 1) depth (c :: text) = readNumber limits (c :: text) := by
  rcases lead with digit | ⟨rfl, d, more, rfl, digit⟩
  · rw [readValue.eq_11]
    all_goals
      intro rest same
      exact ne_of_isDigit digit rfl (List.cons.inj same).1
  · have unnamed : d ≠ 'I' := ne_of_isDigit digit rfl
    rw [readValue.eq_11] <;> simp [unnamed]

section Items

variable {fuel depth : Nat} {item : Value} {items : List Value} {found : List Value}

theorem writeItems_cons :
    writeItems indent level (item :: items) =
      ',' :: (gap indent (level + 1) ++
        (write indent (level + 1) item ++ writeItems indent level items)) := by
  rw [writeItems, comma_newline]
  simp

theorem write_list :
    write indent level (.list (item :: items)) = '[' :: (newline indent (level + 1) ++
      (write indent (level + 1) item ++ writeItems indent level items)) := by
  rw [write]
  simp

theorem stops_close (closing : Stops (c :: rest)) : Stops (newline indent level ++ c :: rest) := by
  cases indent with
  | none => exact closing
  | some width => exact stops_cons (by decide) (by decide) (by decide) (by decide)

theorem stops_writeItems : Stops (writeItems indent level items ++ rest) := by
  cases items with
  | nil =>
    rw [writeItems, List.append_assoc]
    exact stops_close (stops_cons (by decide) (by decide) (by decide) (by decide))
  | cons item items =>
    rw [writeItems_cons]
    exact stops_cons (by decide) (by decide) (by decide) (by decide)

theorem writeItems_pos : 0 < (writeItems indent level items).length := by
  cases items with
  | nil => simp [writeItems]
  | cons item items => simp [writeItems_cons]

theorem readItems_last (here : readValue {} fuel depth text = .ok (item, rest))
    {after : List Char} (closes : skipSpaces rest = ']' :: after) :
    readItems {} (fuel + 1) depth text = .ok ([item], after) := by
  rw [readItems, here]
  simp only [bind, Except.bind, closes]
  rfl

theorem readItems_next (here : readValue {} fuel depth text = .ok (item, rest))
    {more after : List Char} (goes : skipSpaces rest = ',' :: more)
    (later : readItems {} fuel depth (skipSpaces more) = .ok (found, after)) :
    readItems {} (fuel + 1) depth text = .ok (item :: found, after) := by
  rw [readItems, here]
  simp only [bind, Except.bind, goes, later]
  rfl

/-- The items of a list are read one after another up to the bracket. -/
theorem readItems_write (reads : ∀ other ∈ item :: items, ReadsBack other)
    (lossless : ∀ other ∈ items, other.Lossless)
    (enough : (write indent (level + 1) item).length + (writeItems indent level items).length ≤ fuel) :
    readItems {} fuel depth (write indent (level + 1) item ++ (writeItems indent level items ++ rest)) =
      .ok (item :: items, rest) := by
  induction items generalizing item fuel with
  | nil =>
    have some := @writeItems_pos indent level []
    obtain ⟨fuel, rfl⟩ := Nat.exists_eq_succ_of_ne_zero (show fuel ≠ 0 by omega)
    have here := reads item List.mem_cons_self indent (level + 1) depth fuel _
      (@stops_writeItems indent level rest []) (by omega)
    refine readItems_last here ?_
    rw [writeItems, List.append_assoc]
    exact skipSpaces_append isSpace_newline (by decide)
  | cons next items ih =>
    have some := @writeItems_pos indent level (next :: items)
    obtain ⟨fuel, rfl⟩ := Nat.exists_eq_succ_of_ne_zero (show fuel ≠ 0 by omega)
    have here := reads item List.mem_cons_self indent (level + 1) depth fuel _
      (@stops_writeItems indent level rest (next :: items)) (by omega)
    have room : (write indent (level + 1) next).length + (writeItems indent level items).length ≤
        fuel := by
      simp only [writeItems_cons, List.length_cons, List.length_append] at enough
      omega
    obtain ⟨c, text, shape, lead⟩ :=
      @write_lead indent (level + 1) next (lossless next List.mem_cons_self)
    have later := ih (fun other inside => reads other (List.mem_cons_of_mem _ inside))
      (fun other inside => lossless other (List.mem_cons_of_mem _ inside)) room
    have skipped := @skipSpaces_append c (text ++ (writeItems indent level items ++ rest)) _
      (@isSpace_gap indent (level + 1)) lead.solid
    rw [← List.cons_append, ← shape] at skipped
    rw [← skipped] at later
    refine readItems_next here ?_ later
    rw [writeItems_cons]
    simp only [List.cons_append, List.append_assoc]
    exact skipSpaces_cons (by decide)

end Items

theorem readsBack_list {items : List Value} (lossless : ∀ item ∈ items, item.Lossless)
    (reads : ∀ item ∈ items, ReadsBack item) : ReadsBack (.list items) := by
  intro indent level depth fuel rest _ enough
  cases items with
  | nil =>
    rw [write, List.length_cons] at enough
    obtain ⟨fuel, rfl⟩ := Nat.exists_eq_succ_of_ne_zero (show fuel ≠ 0 by omega)
    rw [write]
    rfl
  | cons item items =>
    rw [write_list] at enough ⊢
    simp only [List.length_cons, List.length_append] at enough
    obtain ⟨fuel, rfl⟩ := Nat.exists_eq_succ_of_ne_zero (show fuel ≠ 0 by omega)
    have inner := @readItems_write indent level rest fuel (depth + 1) item items reads
      (fun other inside => lossless other (List.mem_cons_of_mem _ inside)) (by omega)
    obtain ⟨c, text, lead, leads⟩ :=
      @write_lead indent (level + 1) item (lossless item List.mem_cons_self)
    rw [lead] at inner ⊢
    simp only [List.cons_append, List.append_assoc] at inner ⊢
    rw [readValue, if_pos (allowsDepth_unlimited _), skipSpaces_append isSpace_newline leads.solid]
    split
    · rename_i same
      exact absurd (List.cons.inj same).1 leads.square
    · simp only [bind, Except.bind, inner]
      rfl

section Fields

variable {fuel depth : Nat} {name : String} {fields seen found : Fields}

/-- The text of a field, with what follows it. -/
def fieldText (indent : Option Nat) (level : Nat) (name : String) (value : Value)
    (rest : List Char) : List Char :=
  string name.toList ++ ':' :: ' ' :: (write indent level value ++ rest)

theorem writeFields_cons :
    writeFields indent level ((.text name, value) :: fields) =
      ',' :: (gap indent (level + 1) ++
        fieldText indent (level + 1) name value (writeFields indent level fields)) := by
  rw [writeFields, comma_newline]
  simp [fieldText, key]

theorem write_object :
    write indent level (.object ((.text name, value) :: fields)) = '\x7b' ::
      (newline indent (level + 1) ++
        fieldText indent (level + 1) name value (writeFields indent level fields)) := by
  rw [write]
  simp [fieldText, key]

theorem fieldText_append (text rest : List Char) :
    fieldText indent level name value text ++ rest =
      fieldText indent level name value (text ++ rest) := by
  simp [fieldText]

theorem stops_writeFields (texts : ∀ field ∈ fields, ∃ name, field.1 = .text name) :
    Stops (writeFields indent level fields ++ rest) := by
  cases fields with
  | nil =>
    rw [writeFields, List.append_assoc]
    exact stops_close (stops_cons (by decide) (by decide) (by decide) (by decide))
  | cons field fields =>
    obtain ⟨key, value⟩ := field
    obtain ⟨name, rfl⟩ := texts _ List.mem_cons_self
    rw [writeFields_cons]
    exact stops_cons (by decide) (by decide) (by decide) (by decide)

/-- The key and the value of a field are read, and the field is set. -/
theorem readFields_field (lossless : value.Lossless)
    (here : readValue {} fuel depth (write indent level value ++ rest) = .ok (value, rest)) :
    readFields {} (fuel + 1) depth seen (fieldText indent level name value rest) =
      match skipSpaces rest with
      | '\x7d' :: after => .ok (seen.set (.text name) value, after)
      | ',' :: more => readFields {} fuel depth (seen.set (.text name) value) (skipSpaces more)
      | _ => .error .malformedJson := by
  obtain ⟨c, text, lead, leads⟩ := @write_lead indent level value lossless
  have colon := @skipSpaces_cons ':' (' ' :: (write indent level value ++ rest)) (by decide)
  have blank : skipSpaces (' ' :: (write indent level value ++ rest)) =
      write indent level value ++ rest := by
    have space : ∀ d ∈ [' '], isSpace d := List.forall_mem_singleton.mpr (by decide)
    rw [lead]
    exact skipSpaces_append space leads.solid
  rw [fieldText, string]
  simp only [List.cons_append, List.append_assoc, List.nil_append]
  rw [readFields, stringBody?_string]
  simp only [colon, blank, bind, Except.bind, here, String.ofList_toList]
  rfl

theorem length_fieldText :
    (fieldText indent level name value text).length =
      (string name.toList).length + (write indent level value).length + text.length + 2 := by
  simp only [fieldText, List.length_append, List.length_cons]
  omega

theorem set_next (texts : ∀ field ∈ seen ++ (.text name, value) :: fields, ∃ name, field.1 = .text name)
    (distinct : ((seen ++ (.text name, value) :: fields).map Prod.fst).Nodup) :
    seen.set (.text name) value = seen ++ [(.text name, value)] := by
  apply Fields.set_of_absent
  · intro field inside
    exact texts field (List.mem_append_left _ inside)
  · intro inside
    rw [List.map_append, List.nodup_append] at distinct
    exact distinct.2.2 _ inside _ List.mem_cons_self rfl

/-- The fields of an object are read one after another up to the brace, and each goes to the end
of those before it. -/
theorem readFields_write (reads : ∀ field ∈ (.text name, value) :: fields, ReadsBack field.2)
    (lossless : ∀ field ∈ (.text name, value) :: fields, field.2.Lossless)
    (texts : ∀ field ∈ seen ++ (.text name, value) :: fields, ∃ name, field.1 = .text name)
    (distinct : ((seen ++ (.text name, value) :: fields).map Prod.fst).Nodup)
    (enough : (fieldText indent (level + 1) name value (writeFields indent level fields)).length ≤
      fuel) :
    readFields {} fuel depth seen
        (fieldText indent (level + 1) name value (writeFields indent level fields ++ rest)) =
      .ok (seen ++ (.text name, value) :: fields, rest) := by
  induction fields generalizing seen name value fuel with
  | nil =>
    rw [length_fieldText] at enough
    obtain ⟨fuel, rfl⟩ := Nat.exists_eq_succ_of_ne_zero (show fuel ≠ 0 by omega)
    have here := reads _ List.mem_cons_self indent (level + 1) depth fuel _
      (@stops_writeFields indent level rest [] (by simp)) (by dsimp only; omega)
    have closes : skipSpaces (writeFields indent level [] ++ rest) = '\x7d' :: rest := by
      rw [writeFields, List.append_assoc]
      exact skipSpaces_append isSpace_newline (by decide)
    rw [readFields_field (lossless _ List.mem_cons_self) here, closes, set_next texts distinct]
    rfl
  | cons next fields ih =>
    obtain ⟨key, following⟩ := next
    have after : ∀ field ∈ (key, following) :: fields, ∃ name, field.1 = .text name := by
      intro field inside
      exact texts field (List.mem_append_right _ (List.mem_cons_of_mem _ inside))
    obtain ⟨other, rfl⟩ := after _ List.mem_cons_self
    rw [length_fieldText] at enough
    obtain ⟨fuel, rfl⟩ := Nat.exists_eq_succ_of_ne_zero (show fuel ≠ 0 by omega)
    have here := reads _ List.mem_cons_self indent (level + 1) depth fuel _
      (@stops_writeFields indent level rest _ after) (by dsimp only; omega)
    have goes : skipSpaces (writeFields indent level ((.text other, following) :: fields) ++ rest) =
        ',' :: (gap indent (level + 1) ++ fieldText indent (level + 1) other following
          (writeFields indent level fields ++ rest)) := by
      rw [writeFields_cons, List.cons_append, List.append_assoc, fieldText_append]
      exact skipSpaces_cons (by decide)
    have skipped : skipSpaces (gap indent (level + 1) ++ fieldText indent (level + 1) other following
        (writeFields indent level fields ++ rest)) =
        fieldText indent (level + 1) other following (writeFields indent level fields ++ rest) :=
      skipSpaces_append isSpace_gap (by decide)
    have room : (fieldText indent (level + 1) other following
        (writeFields indent level fields)).length ≤ fuel := by
      rw [writeFields_cons, List.length_cons, List.length_append] at enough
      omega
    rw [readFields_field (lossless _ List.mem_cons_self) here, goes]
    simp only [skipped, set_next texts distinct]
    rw [List.append_cons seen _ (_ :: fields)] at texts distinct ⊢
    exact ih (fun field inside => reads field (List.mem_cons_of_mem _ inside))
      (fun field inside => lossless field (List.mem_cons_of_mem _ inside)) texts distinct room

end Fields

theorem readsBack_object {fields : Fields} (distinct : (fields.map Prod.fst).Nodup)
    (texts : ∀ field ∈ fields, ∃ name, field.1 = .text name)
    (lossless : ∀ field ∈ fields, field.2.Lossless)
    (reads : ∀ field ∈ fields, ReadsBack field.2) : ReadsBack (.object fields) := by
  intro indent level depth fuel rest _ enough
  cases fields with
  | nil =>
    rw [write, List.length_cons] at enough
    obtain ⟨fuel, rfl⟩ := Nat.exists_eq_succ_of_ne_zero (show fuel ≠ 0 by omega)
    rw [write]
    rfl
  | cons field fields =>
    obtain ⟨label, value⟩ := field
    obtain ⟨name, rfl⟩ := texts _ List.mem_cons_self
    rw [write_object] at enough ⊢
    simp only [List.length_cons, List.length_append] at enough
    obtain ⟨fuel, rfl⟩ := Nat.exists_eq_succ_of_ne_zero (show fuel ≠ 0 by omega)
    have inner := @readFields_write indent level value rest fuel (depth + 1) name fields [] reads
      lossless texts distinct (by omega)
    have skipped : skipSpaces (newline indent (level + 1) ++ fieldText indent (level + 1) name value
        (writeFields indent level fields ++ rest)) =
        fieldText indent (level + 1) name value (writeFields indent level fields ++ rest) :=
      skipSpaces_append isSpace_newline (by decide)
    rw [List.cons_append, List.append_assoc, fieldText_append, readValue,
      if_pos (allowsDepth_unlimited _), skipped]
    split
    · rename_i same
      exact absurd (List.cons.inj same).1 (by decide)
    · simp only [bind, Except.bind, inner]
      rfl

/-- Every such value is read back from its text. -/
theorem readsBack_of_lossless (lossless : value.Lossless) : ReadsBack value := by
  induction lossless with
  | null =>
    intro indent level depth fuel rest _ enough
    rw [write, List.length_cons] at enough
    obtain ⟨fuel, rfl⟩ := Nat.exists_eq_succ_of_ne_zero (show fuel ≠ 0 by omega)
    rw [write]
    rfl
  | bool b =>
    intro indent level depth fuel rest _ enough
    cases b <;>
    · rw [write, List.length_cons] at enough
      obtain ⟨fuel, rfl⟩ := Nat.exists_eq_succ_of_ne_zero (show fuel ≠ 0 by omega)
      rw [write]
      rfl
  | int n =>
    intro indent level depth fuel rest stops enough
    obtain ⟨c, text, shape, lead⟩ := intChars_lead n
    have read := @readNumber_intChars rest n stops
    rw [write, shape] at enough ⊢
    rw [shape] at read
    rw [List.length_cons] at enough
    obtain ⟨fuel, rfl⟩ := Nat.exists_eq_succ_of_ne_zero (show fuel ≠ 0 by omega)
    refine (readValue_number ?_).trans read
    rcases lead with digit | ⟨rfl, d, more, rfl, digit⟩
    · exact .inl digit
    · exact .inr ⟨rfl, d, more ++ rest, rfl, digit⟩
  | text s =>
    intro indent level depth fuel rest _ enough
    rw [write, string, List.cons_append, List.length_cons] at enough
    obtain ⟨fuel, rfl⟩ := Nat.exists_eq_succ_of_ne_zero (show fuel ≠ 0 by omega)
    have body := stringBody?_string s.toList rest
    rw [write, string, List.cons_append, List.cons_append, List.append_assoc, readValue]
    simp only [List.cons_append, List.nil_append, body, String.ofList_toList]
  | list inner ih => exact readsBack_list inner ih
  | object distinct texts inner ih => exact readsBack_object distinct texts inner ih

theorem parse?_render (lossless : value.Lossless) (indent : Option Int) :
    parse? (render indent value) = some value := by
  obtain ⟨c, text, shape, lead⟩ := @write_lead (indent.map Int.toNat) 0 value lossless
  have read := readsBack_of_lossless lossless (indent.map Int.toNat) 0 0
    ((render indent value).length + 1) [] stops_nil (by simp [render])
  rw [List.append_nil] at read
  have front : skipSpaces (render indent value).toList = write (indent.map Int.toNat) 0 value := by
    rw [render, String.toList_ofList, shape]
    exact skipSpaces_cons lead.solid
  simp only [parse?, Json.read, front, read, bind, Except.bind]
  rfl

end Json

end QueryLint
