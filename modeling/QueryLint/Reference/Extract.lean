import QueryLint.Reference.Word
import QueryLint.Text.Erase

/-! The references in a text. A sigil after an odd number of backslashes starts none.
`extract` removes every copy of a reference it has found before it looks for the next one;
`references` looks on behind each reference and leaves the text as it is. -/
namespace QueryLint.Reference

structure Occurrence where
  before : List Char
  word : List Char
  after : List Char

/-- The leftmost reference. The text is escaped when an odd number of backslashes stands
right before it. -/
def findFrom (escaped : Bool) : List Char → Option Occurrence
  | [] => none
  | c :: text =>
    match if escaped then none else match? (c :: text) with
    | some (word, after) => some ⟨[], word, after⟩
    | none =>
      (findFrom (c == '\\' && !escaped) text).map fun found =>
        ⟨c :: found.before, found.word, found.after⟩

def find? (text : List Char) : Option Occurrence := findFrom false text

theorem findFrom_sound {escaped : Bool} {text : List Char} {found : Occurrence}
    (search : findFrom escaped text = some found) :
    text = found.before ++ found.word ++ found.after ∧ 2 ≤ found.word.length := by
  induction text generalizing escaped found with
  | nil => simp [findFrom] at search
  | cons c text ih =>
    rw [findFrom] at search
    split at search
    · rename_i word after here
      split at here
      · contradiction
      · injection search with same
        subst same
        exact ⟨(match?_append here).symm, two_le_length_match? here⟩
    · simp only [Option.map_eq_some_iff] at search
      obtain ⟨later, search, rfl⟩ := search
      have := ih search
      simp_all

theorem find?_append {text : List Char} {found : Occurrence} (search : find? text = some found) :
    text = found.before ++ found.word ++ found.after :=
  (findFrom_sound search).1

theorem find?_two_le {text : List Char} {found : Occurrence} (search : find? text = some found) :
    2 ≤ found.word.length :=
  (findFrom_sound search).2

theorem length_erase_find? {text : List Char} {found : Occurrence}
    (search : find? text = some found) :
    (Text.erase found.word text).length + found.word.length ≤ text.length := by
  have size := find?_two_le search
  exact Text.length_erase_add_le (by intro empty; simp [empty] at size) (find?_append search)

/-- The references of a text, each reported once its earlier ones are removed everywhere. -/
def extract (text : List Char) : List (List Char) :=
  match _search : find? text with
  | none => []
  | some found => found.word :: extract (Text.erase found.word text)
termination_by text.length
decreasing_by
  have := length_erase_find? _search
  have := find?_two_le _search
  omega

/-- The references of a text that do not overlap, from left to right. -/
def references (text : List Char) : List (List Char) :=
  match _search : find? text with
  | none => []
  | some found => found.word :: references found.after
termination_by text.length
decreasing_by
  have whole := congrArg List.length (find?_append _search)
  have := find?_two_le _search
  simp only [List.length_append] at whole
  omega

def spellings (text : String) : List String := (extract text.toList).map String.ofList

end QueryLint.Reference
