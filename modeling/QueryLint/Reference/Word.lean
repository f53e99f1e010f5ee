import QueryLint.Text.Word

/-! The longest variable reference at the start of a text: a sigil, an optional `$`, a name
in braces or a bare name, and any number of subscripts. Every reader answers with the
characters it takes and the text after them. -/
namespace QueryLint.Reference

def isSigil (c : Char) : Bool := c == '$' || c == '@'

def isQuote (c : Char) : Bool := c == '\x27' || c == '\x22'

def word (text : List Char) : List Char × List Char :=
  (text.takeWhile Text.isWord, text.dropWhile Text.isWord)

/-- A run of word characters and double colons; a single colon ends it. -/
def bareName : List Char → List Char × List Char
  | [] => ([], [])
  | ':' :: ':' :: text =>
    let (name, rest) := bareName text
    (':' :: ':' :: name, rest)
  | c :: text =>
    if Text.isWord c then
      let (name, rest) := bareName text
      (c :: name, rest)
    else ([], c :: text)

/-- The rest of a name in braces after the opening one: a word or a double colon. -/
def bracedName? (text : List Char) : Option (List Char × List Char) :=
  match text with
  | ':' :: ':' :: '\x7d' :: rest => some ([':', ':', '\x7d'], rest)
  | _ =>
    let (name, rest) := word text
    match name, rest with
    | [], _ => none
    | _, '\x7d' :: after => some (name ++ ['\x7d'], after)
    | _, _ => none

def name? (text : List Char) : Option (List Char × List Char) :=
  match text with
  | '\x7b' :: rest => (bracedName? rest).map fun (name, after) => ('\x7b' :: name, after)
  | _ =>
    let (name, rest) := bareName text
    if name.isEmpty then none else some (name, rest)

def quote (text : List Char) : List Char × List Char :=
  match text with
  | c :: rest => if isQuote c then ([c], rest) else ([], text)
  | [] => ([], [])

/-- The rest of a subscript after its opening bracket: a word with a quote allowed on
either side, then the closing bracket. The quotes need not be equal. -/
def index? (close : Char) (text : List Char) : Option (List Char × List Char) :=
  let (left, text) := quote text
  let (key, text) := word text
  let (right, text) := quote text
  match text with
  | c :: rest =>
    if !key.isEmpty && c == close then some (left ++ key ++ right ++ [close], rest) else none
  | [] => none

def bracketed? (text : List Char) : Option (List Char × List Char) :=
  match text with
  | '\x7b' :: rest => (index? '\x7d' rest).map fun (index, after) => ('\x7b' :: index, after)
  | '[' :: rest => (index? ']' rest).map fun (index, after) => ('[' :: index, after)
  | _ => none

def subscript? (text : List Char) : Option (List Char × List Char) :=
  match text with
  | '-' :: '>' :: rest => (bracketed? rest).map fun (index, after) => ('-' :: '>' :: index, after)
  | _ => bracketed? text

theorem word_append (text : List Char) : (word text).1 ++ (word text).2 = text :=
  List.takeWhile_append_dropWhile

theorem quote_append (text : List Char) : (quote text).1 ++ (quote text).2 = text := by
  fun_cases quote text <;> simp

theorem bareName_append (text : List Char) : (bareName text).1 ++ (bareName text).2 = text := by
  fun_induction bareName text <;> simp_all

theorem bracedName?_append {text name rest : List Char}
    (found : bracedName? text = some (name, rest)) : name ++ rest = text := by
  have whole := word_append text
  fun_cases bracedName? text <;> simp_all only [bracedName?] <;> grind

theorem name?_append {text name rest : List Char} (found : name? text = some (name, rest)) :
    name ++ rest = text := by
  have bare := bareName_append text
  rw [name?.eq_def] at found
  split at found
  · simp only [Option.map_eq_some_iff] at found
    obtain ⟨⟨inner, after⟩, inside, same⟩ := found
    have := bracedName?_append inside
    grind
  · simp only at found
    split at found <;> simp_all

theorem index?_append {close : Char} {text index rest : List Char}
    (found : index? close text = some (index, rest)) : index ++ rest = text := by
  have left := quote_append text
  have key := word_append (quote text).2
  have right := quote_append (word (quote text).2).2
  simp only [index?] at found
  split at found
  · split at found <;> simp_all
    obtain ⟨rfl, rfl⟩ := found
    simp_all
  · contradiction

theorem bracketed?_append {text index rest : List Char}
    (found : bracketed? text = some (index, rest)) : index ++ rest = text := by
  rw [bracketed?.eq_def] at found
  split at found
  · simp only [Option.map_eq_some_iff] at found
    obtain ⟨⟨inner, after⟩, inside, same⟩ := found
    have := index?_append inside
    grind
  · simp only [Option.map_eq_some_iff] at found
    obtain ⟨⟨inner, after⟩, inside, same⟩ := found
    have := index?_append inside
    grind
  · contradiction

theorem bracketed?_ne_nil {text index rest : List Char}
    (found : bracketed? text = some (index, rest)) : index ≠ [] := by
  rw [bracketed?.eq_def] at found
  split at found
  · simp only [Option.map_eq_some_iff] at found
    grind
  · simp only [Option.map_eq_some_iff] at found
    grind
  · contradiction

theorem subscript?_append {text index rest : List Char}
    (found : subscript? text = some (index, rest)) : index ++ rest = text := by
  rw [subscript?.eq_def] at found
  split at found
  · simp only [Option.map_eq_some_iff] at found
    obtain ⟨⟨inner, after⟩, inside, same⟩ := found
    have := bracketed?_append inside
    grind
  · exact bracketed?_append found

theorem subscript?_ne_nil {text index rest : List Char}
    (found : subscript? text = some (index, rest)) : index ≠ [] := by
  rw [subscript?.eq_def] at found
  split at found
  · simp only [Option.map_eq_some_iff] at found
    grind
  · exact bracketed?_ne_nil found

theorem subscript?_shorter {text index rest : List Char}
    (found : subscript? text = some (index, rest)) : rest.length < text.length := by
  have whole := congrArg List.length (subscript?_append found)
  have some := List.length_pos_iff.mpr (subscript?_ne_nil found)
  simp only [List.length_append] at whole
  omega

def subscripts (text : List Char) : List Char × List Char :=
  match _found : subscript? text with
  | none => ([], text)
  | some (index, rest) =>
    let (more, after) := subscripts rest
    (index ++ more, after)
termination_by text.length
decreasing_by exact subscript?_shorter _found

/-- An optional `$` between the sigil and the name. -/
def dereference : List Char → List Char × List Char
  | '$' :: text => (['$'], text)
  | text => ([], text)

/-- The longest reference at the start of the text. -/
def match? : List Char → Option (List Char × List Char)
  | [] => none
  | c :: text =>
    if isSigil c then
      let (mark, text) := dereference text
      match name? text with
      | none => none
      | some (name, rest) =>
        let (indexes, after) := subscripts rest
        some (c :: mark ++ name ++ indexes, after)
    else none

theorem subscripts_append (text : List Char) :
    (subscripts text).1 ++ (subscripts text).2 = text := by
  fun_induction subscripts text with
  | case1 => rfl
  | case2 text index rest found more after split ih =>
    have := subscript?_append found
    simp_all

theorem dereference_append (text : List Char) :
    (dereference text).1 ++ (dereference text).2 = text := by
  fun_cases dereference text <;> rfl

theorem name?_ne_nil {text name rest : List Char} (found : name? text = some (name, rest)) :
    name ≠ [] := by
  rw [name?.eq_def] at found
  split at found
  · simp only [Option.map_eq_some_iff] at found
    grind
  · simp only at found
    split at found <;> simp_all

theorem match?_append {text reference rest : List Char}
    (found : match? text = some (reference, rest)) : reference ++ rest = text := by
  cases text with
  | nil => simp [match?] at found
  | cons c text =>
    have mark := dereference_append text
    simp only [match?] at found
    split at found
    · split at found
      · contradiction
      · rename_i name after named
        have := name?_append named
        have := subscripts_append after
        grind
    · contradiction

theorem two_le_length_match? {text reference rest : List Char}
    (found : match? text = some (reference, rest)) : 2 ≤ reference.length := by
  cases text with
  | nil => simp [match?] at found
  | cons c text =>
    simp only [match?] at found
    split at found
    · split at found
      · contradiction
      · rename_i name after named
        have := List.length_pos_iff.mpr (name?_ne_nil named)
        simp only [Option.some.injEq, Prod.mk.injEq] at found
        obtain ⟨rfl, _⟩ := found
        simp only [List.cons_append, List.length_cons, List.length_append]
        omega
    · contradiction

end QueryLint.Reference
