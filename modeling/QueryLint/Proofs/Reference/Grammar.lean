import Mathlib.Data.List.TakeWhile
import QueryLint.Reference.Extract

/-! The grammar of references: a sigil, an optional `$`, a name and any number of subscripts.
Whatever the search finds, also in a text from which other references were removed, is a word
of this grammar. -/
namespace QueryLint.Reference

/-- Word characters only, and at least one. -/
structure IsKey (key : List Char) : Prop where
  some : key ≠ []
  letters : ∀ c ∈ key, Text.isWord c

/-- Word characters and double colons, in any order. -/
inductive NameRun : List Char → Prop where
  | nil : NameRun []
  | letter {c : Char} {run : List Char} : Text.isWord c → NameRun run → NameRun (c :: run)
  | colons {run : List Char} : NameRun run → NameRun (':' :: ':' :: run)

inductive IsName : List Char → Prop where
  | braced {key : List Char} : IsKey key → IsName ('\x7b' :: (key ++ ['\x7d']))
  | bracedColons : IsName ['\x7b', ':', ':', '\x7d']
  | bare {run : List Char} : run ≠ [] → NameRun run → IsName run

/-- Nothing or one quote, of either form. -/
def IsQuoteOption (quote : List Char) : Prop := ∀ c rest, quote = c :: rest → isQuote c ∧ rest = []

/-- What stands between the brackets of a subscript. The two quotes need not match. -/
inductive IsIndex : List Char → Prop where
  | mk {left key right : List Char} : IsQuoteOption left → IsKey key → IsQuoteOption right →
      IsIndex (left ++ key ++ right)

inductive IsBracketed : List Char → Prop where
  | braces {index : List Char} : IsIndex index → IsBracketed ('\x7b' :: (index ++ ['\x7d']))
  | square {index : List Char} : IsIndex index → IsBracketed ('[' :: (index ++ [']']))

inductive IsSubscript : List Char → Prop where
  | plain {bracketed : List Char} : IsBracketed bracketed → IsSubscript bracketed
  | arrow {bracketed : List Char} : IsBracketed bracketed → IsSubscript ('-' :: '>' :: bracketed)

inductive Subscripts : List Char → Prop where
  | nil : Subscripts []
  | cons {first more : List Char} : IsSubscript first → Subscripts more →
      Subscripts (first ++ more)

/-- A reference as it is written. -/
inductive IsReference : List Char → Prop where
  | plain {sigil : Char} {name more : List Char} : isSigil sigil → IsName name → Subscripts more →
      IsReference (sigil :: (name ++ more))
  | dereference {sigil : Char} {name more : List Char} : isSigil sigil → IsName name →
      Subscripts more → IsReference (sigil :: '$' :: (name ++ more))

section Soundness

variable {text name index rest reference : List Char} {close : Char}

theorem word_isKey (text : List Char) (some : (word text).1 ≠ []) : IsKey (word text).1 :=
  ⟨some, fun _ inside => List.mem_takeWhile_imp inside⟩

theorem bareName_run (text : List Char) : NameRun (bareName text).1 := by
  fun_induction bareName text with
  | case1 => exact .nil
  | case2 text name rest found ih => exact .colons (by rwa [found] at ih)
  | case3 c text _ letter name rest found ih => exact .letter letter (by rwa [found] at ih)
  | case4 => exact .nil

theorem bracedName?_isName (found : bracedName? text = some (name, rest)) :
    IsName ('\x7b' :: name) := by
  have key := word_isKey text
  rw [bracedName?.eq_def] at found
  split at found
  · obtain ⟨rfl, rfl⟩ := Prod.mk.inj (Option.some.inj found)
    exact .bracedColons
  · cases shape : word text with
    | mk run after =>
      simp only [shape] at found key
      split at found
      · contradiction
      · rename_i some
        obtain ⟨rfl, rfl⟩ := Prod.mk.inj (Option.some.inj found)
        exact .braced (key some)
      · contradiction

theorem name?_isName (found : name? text = some (name, rest)) : IsName name := by
  have run := bareName_run text
  rw [name?.eq_def] at found
  split at found
  · obtain ⟨⟨inner, after⟩, inside, same⟩ := Option.map_eq_some_iff.mp found
    obtain ⟨rfl, rfl⟩ := Prod.mk.inj same
    exact bracedName?_isName inside
  · simp only at found
    split at found
    · contradiction
    · rename_i some
      obtain ⟨rfl, rfl⟩ := Prod.mk.inj (Option.some.inj found)
      exact .bare (by simpa using some) run

theorem quote_isQuoteOption (text : List Char) : IsQuoteOption (quote text).1 := by
  fun_cases quote text with
  | case1 c rest quoted =>
    rintro _ _ shape
    obtain ⟨rfl, rfl⟩ := List.cons.inj shape
    exact ⟨quoted, rfl⟩
  | case2 c rest plain => exact fun _ _ shape => absurd shape (by simp)
  | case3 => exact fun _ _ shape => absurd shape (by simp)

theorem index?_isIndex (found : index? close text = some (index, rest)) :
    ∃ inner, IsIndex inner ∧ index = inner ++ [close] := by
  have key := word_isKey (quote text).2
  have left := quote_isQuoteOption text
  have right := quote_isQuoteOption (word (quote text).2).2
  simp only [index?] at found
  split at found
  · split at found
    · rename_i ends
      obtain ⟨rfl, rfl⟩ := Prod.mk.inj (Option.some.inj found)
      have some : (word (quote text).2).1 ≠ [] := by simp_all
      exact ⟨_, .mk left (key some) right, rfl⟩
    · contradiction
  · contradiction

theorem bracketed?_isBracketed (found : bracketed? text = some (index, rest)) :
    IsBracketed index := by
  rw [bracketed?.eq_def] at found
  split at found
  · obtain ⟨⟨inner, after⟩, inside, same⟩ := Option.map_eq_some_iff.mp found
    obtain ⟨rfl, rfl⟩ := Prod.mk.inj same
    obtain ⟨key, isIndex, rfl⟩ := index?_isIndex inside
    exact .braces isIndex
  · obtain ⟨⟨inner, after⟩, inside, same⟩ := Option.map_eq_some_iff.mp found
    obtain ⟨rfl, rfl⟩ := Prod.mk.inj same
    obtain ⟨key, isIndex, rfl⟩ := index?_isIndex inside
    exact .square isIndex
  · contradiction

theorem subscript?_isSubscript (found : subscript? text = some (index, rest)) :
    IsSubscript index := by
  rw [subscript?.eq_def] at found
  split at found
  · obtain ⟨⟨inner, after⟩, inside, same⟩ := Option.map_eq_some_iff.mp found
    obtain ⟨rfl, rfl⟩ := Prod.mk.inj same
    exact .arrow (bracketed?_isBracketed inside)
  · exact .plain (bracketed?_isBracketed found)

theorem subscripts_sound (text : List Char) : Subscripts (subscripts text).1 := by
  fun_induction subscripts text with
  | case1 => exact .nil
  | case2 text index rest found more after shape ih =>
    exact .cons (subscript?_isSubscript found) (by rwa [shape] at ih)

/-- What stands at the start of a text and is taken for a reference is one. -/
theorem match?_isReference (found : match? text = some (reference, rest)) :
    IsReference reference := by
  cases text with
  | nil => simp [match?] at found
  | cons c text =>
    simp only [match?] at found
    split at found
    · rename_i sigil
      split at found
      · contradiction
      · rename_i name after named
        obtain ⟨rfl, rfl⟩ := Prod.mk.inj (Option.some.inj found)
        have more := subscripts_sound after
        have isName := name?_isName named
        fun_cases dereference text
        · simpa using IsReference.dereference sigil isName more
        · simpa using IsReference.plain sigil isName more
    · contradiction

theorem findFrom_isReference {escaped : Bool} {found : Occurrence}
    (search : findFrom escaped text = some found) : IsReference found.word := by
  induction text generalizing escaped found with
  | nil => simp [findFrom] at search
  | cons c text ih =>
    rw [findFrom] at search
    split at search
    · rename_i word after here
      split at here
      · contradiction
      · obtain rfl := Option.some.inj search
        exact match?_isReference here
    · obtain ⟨later, behind, rfl⟩ := Option.map_eq_some_iff.mp search
      exact (ih behind : IsReference later.word)

/-- Every extracted spelling is a reference, whatever the removals before it have joined. -/
theorem extract_isReference (member : reference ∈ extract text) : IsReference reference := by
  fun_induction extract text with
  | case1 => simp at member
  | case2 text found search ih =>
    rcases List.mem_cons.mp member with rfl | later
    · exact findFrom_isReference search
    · exact ih later

end Soundness

end QueryLint.Reference
