import QueryLint.Proofs.Reference.Letters

/-! The pieces of a text. A character that is neither a backslash nor part of any reference cuts
a text in two: both sides are searched, and spellings are removed from them, as if each stood
alone. So the search for references goes piece by piece. -/
namespace QueryLint.Reference

/-- What a reader takes, with more text behind what it leaves. -/
def behind (tail : List Char) (read : List Char × List Char) : List Char × List Char :=
  (read.1, read.2 ++ tail)

section Readers

variable {c : Char} {rest : List Char}

theorem not_isWord_of_foreign (foreign : inReference c = false) : Text.isWord c = false := by
  refine Bool.eq_false_iff.mpr fun word => ?_
  rw [inReference_of_isWord word] at foreign
  contradiction

theorem ne_mark_of_foreign (foreign : inReference c = false) {mark : Char} (known : mark ∈ marks) :
    c ≠ mark := by
  rintro rfl
  rw [inReference_of_mark known] at foreign
  contradiction

theorem word_cut (foreign : inReference c = false) (text : List Char) :
    word (text ++ c :: rest) = behind (c :: rest) (word text) := by
  have apart := not_isWord_of_foreign foreign
  induction text with
  | nil => simp [word, behind, apart]
  | cons first text ih =>
    simp only [word, behind, Prod.mk.injEq] at ih
    by_cases letter : Text.isWord first
    · simp [word, behind, letter, ih]
    · simp [word, behind, letter]

theorem quote_cut (foreign : inReference c = false) (text : List Char) :
    quote (text ++ c :: rest) = behind (c :: rest) (quote text) := by
  cases text with
  | nil =>
    have single := ne_mark_of_foreign foreign (show '\x27' ∈ marks by decide)
    have double := ne_mark_of_foreign foreign (show '\x22' ∈ marks by decide)
    simp [quote, behind, isQuote, single, double]
  | cons first text =>
    by_cases quoted : isQuote first
    · simp [quote, behind, quoted]
    · simp [quote, behind, quoted]

theorem bareName_cut (foreign : inReference c = false) (text : List Char) :
    bareName (text ++ c :: rest) = behind (c :: rest) (bareName text) := by
  have apart := not_isWord_of_foreign foreign
  have colon := ne_mark_of_foreign foreign (show ':' ∈ marks by decide)
  fun_induction bareName text with
  | case1 => rw [List.nil_append, bareName] <;> simp_all [behind]
  | case2 text name left found ih => simp_all [bareName, behind]
  | case3 first text single letter name left found ih =>
    have plain : ∀ more, first = ':' → text ++ c :: rest = ':' :: more → False := by
      rintro more rfl _
      revert letter
      decide
    rw [List.cons_append, bareName.eq_3 _ _ plain, if_pos letter, ih, found]
    rfl
  | case4 first text single other =>
    have plain : ∀ more, first = ':' → text ++ c :: rest = ':' :: more → False := by
      rintro more rfl shape
      cases text with
      | nil => exact colon (List.cons.inj shape).1
      | cons second text => exact single text rfl (by rw [(List.cons.inj shape).1])
    rw [List.cons_append, bareName.eq_3 _ _ plain, if_neg other]
    rfl

theorem bracedName?_cut (foreign : inReference c = false) (text : List Char) :
    bracedName? (text ++ c :: rest) = (bracedName? text).map (behind (c :: rest)) := by
  have colon := ne_mark_of_foreign foreign (show ':' ∈ marks by decide)
  have brace := ne_mark_of_foreign foreign (show '\x7d' ∈ marks by decide)
  by_cases colons : ∃ more, text = ':' :: ':' :: '\x7d' :: more
  · obtain ⟨more, rfl⟩ := colons
    rfl
  · have other : ∀ more, text = ':' :: ':' :: '\x7d' :: more → False :=
      fun more shape => colons ⟨more, shape⟩
    have plain : ∀ more, text ++ c :: rest = ':' :: ':' :: '\x7d' :: more → False := by
      intro more shape
      match text with
      | [] => simp_all
      | [first] => simp_all
      | [first, second] => simp_all
      | first :: second :: third :: text => simp_all
    rw [bracedName?.eq_2 _ plain, bracedName?.eq_2 _ other, word_cut foreign]
    cases read : word text with
    | mk name left =>
      cases name with
      | nil => rfl
      | cons first name =>
        cases left with
        | nil => simp [behind, brace]
        | cons last left =>
          by_cases closed : last = '\x7d'
          · subst closed
            rfl
          · simp [behind, closed]

theorem name?_cut (foreign : inReference c = false) (text : List Char) :
    name? (text ++ c :: rest) = (name? text).map (behind (c :: rest)) := by
  have brace := ne_mark_of_foreign foreign (show '\x7b' ∈ marks by decide)
  have bare := @bareName_cut c rest foreign text
  by_cases braced : ∃ more, text = '\x7b' :: more
  · obtain ⟨more, rfl⟩ := braced
    simp only [List.cons_append, name?, bracedName?_cut foreign]
    cases bracedName? more <;> rfl
  · have plain : ∀ more, text ++ c :: rest = '\x7b' :: more → False := by
      intro more shape
      cases text with
      | nil => exact brace (List.cons.inj shape).1
      | cons first text => exact braced ⟨text, by rw [(List.cons.inj shape).1]⟩
    rw [name?.eq_2 _ plain, name?.eq_2 _ (fun more shape => braced ⟨more, shape⟩), bare]
    by_cases empty : (bareName text).1.isEmpty
    · simp [behind, empty]
    · simp [behind, empty]

theorem index?_cut (foreign : inReference c = false) {close : Char} (closes : close ∈ marks)
    (text : List Char) :
    index? close (text ++ c :: rest) = (index? close text).map (behind (c :: rest)) := by
  have apart := ne_mark_of_foreign foreign closes
  simp only [index?, quote_cut foreign, word_cut foreign, behind]
  cases shape : (quote (word (quote text).2).2).2 with
  | nil => simp [apart]
  | cons first left =>
    simp only [List.cons_append]
    split <;> rfl

theorem bracketed?_cut (foreign : inReference c = false) (text : List Char) :
    bracketed? (text ++ c :: rest) = (bracketed? text).map (behind (c :: rest)) := by
  cases text with
  | nil =>
    have brace := ne_mark_of_foreign foreign (show '\x7b' ∈ marks by decide)
    have square := ne_mark_of_foreign foreign (show '[' ∈ marks by decide)
    simp [bracketed?, brace, square]
  | cons first text =>
    by_cases brace : first = '\x7b'
    · subst brace
      simp only [List.cons_append, bracketed?, index?_cut foreign (show '\x7d' ∈ marks by decide)]
      cases index? '\x7d' text <;> rfl
    · by_cases square : first = '['
      · subst square
        simp only [List.cons_append, bracketed?, index?_cut foreign (show ']' ∈ marks by decide)]
        cases index? ']' text <;> rfl
      · simp [bracketed?, brace, square]

theorem subscript?_cut (foreign : inReference c = false) (text : List Char) :
    subscript? (text ++ c :: rest) = (subscript? text).map (behind (c :: rest)) := by
  have dash := ne_mark_of_foreign foreign (show '-' ∈ marks by decide)
  have angle := ne_mark_of_foreign foreign (show '>' ∈ marks by decide)
  by_cases arrow : ∃ more, text = '-' :: '>' :: more
  · obtain ⟨more, rfl⟩ := arrow
    simp only [List.cons_append, subscript?, bracketed?_cut foreign]
    cases bracketed? more <;> rfl
  · have other : ∀ more, text = '-' :: '>' :: more → False :=
      fun more shape => arrow ⟨more, shape⟩
    have plain : ∀ more, text ++ c :: rest = '-' :: '>' :: more → False := by
      intro more shape
      match text with
      | [] => simp_all
      | [first] => simp_all
      | first :: second :: text => simp_all
    rw [subscript?.eq_2 _ plain, subscript?.eq_2 _ other, bracketed?_cut foreign]

theorem subscripts_of_none {text : List Char} (none : subscript? text = none) :
    subscripts text = ([], text) := by
  rw [subscripts.eq_def]
  split <;> simp_all

theorem subscripts_of_some {text index left : List Char}
    (found : subscript? text = some (index, left)) :
    subscripts text = (index ++ (subscripts left).1, (subscripts left).2) := by
  rw [subscripts.eq_def]
  split <;> simp_all

theorem subscripts_cut (foreign : inReference c = false) (text : List Char) :
    subscripts (text ++ c :: rest) = behind (c :: rest) (subscripts text) := by
  fun_induction subscripts text with
  | case1 text none =>
    rw [subscripts_of_none (by rw [subscript?_cut foreign, none]; rfl)]
    rfl
  | case2 text index left found more after read ih =>
    rw [subscripts_of_some (by rw [subscript?_cut foreign, found]; rfl), behind, ih, read]
    simp [behind]

theorem dereference_cut (foreign : inReference c = false) (text : List Char) :
    dereference (text ++ c :: rest) = behind (c :: rest) (dereference text) := by
  cases text with
  | nil =>
    have dollar := ne_mark_of_foreign foreign (show '$' ∈ marks by decide)
    simp [dereference, behind, dollar]
  | cons first text =>
    by_cases dollar : first = '$'
    · subst dollar
      rfl
    · simp [dereference, behind, dollar]

theorem match?_cut (foreign : inReference c = false) (text : List Char) :
    match? (text ++ c :: rest) = (match? text).map (behind (c :: rest)) := by
  cases text with
  | nil =>
    have plain : isSigil c = false := by
      refine Bool.eq_false_iff.mpr fun sigil => ?_
      rw [inReference_of_isSigil sigil] at foreign
      contradiction
    simp [match?, plain]
  | cons first text =>
    by_cases sigil : isSigil first
    · simp only [List.cons_append, match?, sigil, if_true, dereference_cut foreign, behind]
      cases read : dereference text with
      | mk mark left =>
        simp only [name?_cut foreign]
        cases name? left with
        | none => rfl
        | some found => simp [behind, subscripts_cut foreign]
    · simp [match?, sigil]

end Readers

/-- A character that stands in no reference and escapes nothing. -/
def isInert (c : Char) : Bool := !inReference c && c != '\\'

theorem foreign_of_isInert {c : Char} (inert : isInert c) : inReference c = false := by
  simp only [isInert, Bool.and_eq_true, Bool.not_eq_true'] at inert
  exact inert.1

theorem findFrom_cut {c : Char} (inert : isInert c) (rest text : List Char) (escaped : Bool) :
    findFrom escaped (text ++ c :: rest) =
      match findFrom escaped text with
      | some found => some { found with after := found.after ++ c :: rest }
      | none => (find? rest).map fun found => { found with before := text ++ c :: found.before } := by
  have foreign := foreign_of_isInert inert
  have plain : (c == '\\') = false := by simp_all [isInert]
  induction text generalizing escaped with
  | nil =>
    have apart : (if escaped then none else match? (c :: rest)) = none := by
      have unread : match? (c :: rest) = none := match?_cut foreign []
      simp [unread]
    simp only [List.nil_append, findFrom, apart, plain, Bool.false_and]
    rfl
  | cons first text ih =>
    have here : (if escaped then none else match? (first :: (text ++ c :: rest))) =
        (if escaped then none else match? (first :: text)).map (behind (c :: rest)) := by
      cases escaped with
      | true => rfl
      | false => exact match?_cut foreign (first :: text)
    simp only [List.cons_append, findFrom, here]
    cases if escaped then none else match? (first :: text) with
    | some read => rfl
    | none =>
      simp only [Option.map_none, ih]
      cases findFrom (first == '\\' && !escaped) text with
      | some found => rfl
      | none => simp [Option.map_map, Function.comp_def]

theorem references_of_none {text : List Char} (none : find? text = none) :
    references text = [] := by
  rw [references.eq_def]
  split <;> simp_all

theorem references_of_some {text : List Char} {found : Occurrence}
    (search : find? text = some found) :
    references text = found.word :: references found.after := by
  rw [references.eq_def]
  split <;> simp_all

theorem references_cut {c : Char} (inert : isInert c) (text rest : List Char) :
    references (text ++ c :: rest) = references text ++ references rest := by
  fun_induction references text with
  | case1 text none =>
    have search := findFrom_cut inert rest text false
    rw [show findFrom false text = Option.none from none] at search
    cases later : find? rest with
    | none =>
      rw [later] at search
      rw [references_of_none search, references_of_none later, List.append_nil]
    | some found =>
      rw [later] at search
      rw [references_of_some search, references_of_some later, List.nil_append]
  | case2 text found here ih =>
    have search := findFrom_cut inert rest text false
    rw [show findFrom false text = some found from here] at search
    rw [references_of_some search, ih, List.cons_append]

section Erase

variable {c : Char} {word : List Char}

theorem erase_cut (some : word ≠ []) (apart : c ∉ word) (text rest : List Char) :
    Text.erase word (text ++ c :: rest) = Text.erase word text ++ c :: Text.erase word rest := by
  fun_induction Text.erase word text with
  | case1 =>
    have start : ¬ word.isPrefixOf (c :: rest) := by
      cases word with
      | nil => contradiction
      | cons first word =>
        rw [List.isPrefixOf_iff_prefix, List.cons_prefix_cons]
        rintro ⟨rfl, _⟩
        exact apart List.mem_cons_self
    rw [List.nil_append, Text.erase.eq_2, if_neg start, List.nil_append]
  | case2 first text start ih =>
    have leads := List.isPrefixOf_iff_prefix.mp start
    have longer : word.isPrefixOf (first :: (text ++ c :: rest)) :=
      List.isPrefixOf_iff_prefix.mpr (leads.trans (List.prefix_append (first :: text) (c :: rest)))
    have fits : word.length - 1 ≤ text.length := by
      have := leads.length_le
      simp only [List.length_cons] at this
      omega
    rw [List.cons_append, Text.erase.eq_2, if_pos longer, List.drop_append_of_le_length fits, ih]
  | case3 first text start ih =>
    have longer : ¬ word.isPrefixOf (first :: (text ++ c :: rest)) := by
      intro leads
      have closed : first :: text ++ [c] <+: first :: (text ++ c :: rest) := ⟨rest, by simp⟩
      -- A copy that is not in the text already would reach over the cut.
      rcases List.prefix_or_prefix_of_prefix (List.isPrefixOf_iff_prefix.mp leads) closed with
        inside | beyond
      · rcases List.prefix_concat_iff.mp inside with rfl | inside
        · exact apart (by simp)
        · exact start (List.isPrefixOf_iff_prefix.mpr inside)
      · exact apart (beyond.subset (by simp))
    rw [List.cons_append, Text.erase.eq_2, if_neg longer, ih, List.cons_append]

theorem erase_subset (word text : List Char) : Text.erase word text ⊆ text := by
  fun_induction Text.erase word text with
  | case1 => exact List.Subset.refl _
  | case2 first text start ih =>
    have dropped := List.Subset.trans ih (List.drop_subset _ _)
    exact List.Subset.trans dropped (List.subset_cons_self _ _)
  | case3 first text start ih => exact List.cons_subset_cons first ih

theorem erase_of_absent {text : List Char} (absent : ¬ word <:+: text) :
    Text.erase word text = text := by
  fun_induction Text.erase word text with
  | case1 => rfl
  | case2 first text start ih =>
    exact absurd (List.isPrefixOf_iff_prefix.mp start).isInfix absent
  | case3 first text start ih =>
    rw [ih fun inside => absent (inside.trans (List.suffix_cons first text).isInfix)]

end Erase

/-- The stretches of a text between its inert characters. -/
def pieces (text : List Char) : List (List Char) := text.splitOnP isInert

theorem pieces_cut {c : Char} (inert : isInert c) (text rest : List Char) :
    pieces (text ++ c :: rest) = pieces text ++ pieces rest :=
  List.splitOnP_append_cons text rest inert

theorem pieces_whole {text : List Char} (whole : ∀ c ∈ text, isInert c = false) :
    pieces text = [text] :=
  List.splitOnP_eq_singleton whole

/-- Induction over a text piece by piece. -/
theorem pieces_induction {motive : List Char → Prop}
    (whole : ∀ text, (∀ c ∈ text, isInert c = false) → motive text)
    (cut : ∀ text c rest, isInert c → motive text → motive rest → motive (text ++ c :: rest))
    (text : List Char) : motive text := by
  suffices extended : ∀ front, (∀ c ∈ front, isInert c = false) → motive (front ++ text) by
    exact extended [] (by simp)
  induction text with
  | nil =>
    intro front plain
    rw [List.append_nil]
    exact whole front plain
  | cons c text ih =>
    intro front plain
    by_cases inert : isInert c
    · exact cut front c text inert (whole front plain) (ih [] (by simp))
    · rw [List.append_cons]
      refine ih (front ++ [c]) fun d member => ?_
      rcases List.mem_append.mp member with member | member
      · exact plain d member
      · rw [List.mem_singleton.mp member]
        exact Bool.eq_false_iff.mpr inert

theorem references_pieces (text : List Char) :
    references text = (pieces text).flatMap references := by
  induction text using pieces_induction with
  | whole text whole => rw [pieces_whole whole, List.flatMap_singleton]
  | cut text c rest inert first second =>
    rw [references_cut inert, pieces_cut inert, List.flatMap_append, ← first, ← second]

theorem pieces_erase {word : List Char} (some : word ≠ []) (letters : ∀ c ∈ word, inReference c)
    (text : List Char) : pieces (Text.erase word text) = (pieces text).map (Text.erase word) := by
  induction text using pieces_induction with
  | whole text whole =>
    have kept : ∀ c ∈ Text.erase word text, isInert c = false :=
      fun c member => whole c (erase_subset word text member)
    rw [pieces_whole whole, pieces_whole kept, List.map_singleton]
  | cut text c rest inert first second =>
    have apart : c ∉ word := by
      intro inside
      have foreign := foreign_of_isInert inert
      rw [letters c inside] at foreign
      contradiction
    rw [erase_cut some apart, pieces_cut inert, pieces_cut inert, List.map_append, first, second]

/-- Removing a spelling disturbs only the pieces in which it stands. -/
theorem exists_piece_of_gone {word lost text : List Char} (some : word ≠ [])
    (letters : ∀ c ∈ word, inReference c) (read : lost ∈ references text)
    (gone : lost ∉ references (Text.erase word text)) :
    ∃ piece ∈ pieces text, lost ∈ references piece ∧ word <:+: piece := by
  rw [references_pieces] at read gone
  obtain ⟨piece, member, read⟩ := List.mem_flatMap.mp read
  refine ⟨piece, member, read, ?_⟩
  by_contra absent
  refine gone (List.mem_flatMap.mpr ⟨piece, ?_, read⟩)
  rw [pieces_erase some letters]
  exact List.mem_map.mpr ⟨piece, member, erase_of_absent absent⟩

end QueryLint.Reference
