import QueryLint.Proofs.Reference.Letters
import QueryLint.Proofs.Reference.Pieces

/-! The readers take as much as they can. Where a word of the grammar leads a text, the reader
takes this word at least, whatever follows it; so of all references that lead a text the one that
is read is the longest. -/
namespace QueryLint.Reference

section Marks

variable {c : Char}

/-- No mark is a word character. -/
theorem not_isWord_of_mark (mark : c ∈ marks) : Text.isWord c = false := by
  have apart : marks.all fun c => !Text.isWord c := by decide
  simpa using List.all_eq_true.mp apart c mark

theorem ne_mark_of_isWord (word : Text.isWord c) {mark : Char} (known : mark ∈ marks) :
    c ≠ mark := by
  rintro rfl
  rw [not_isWord_of_mark known] at word
  contradiction

theorem not_isQuote_of_isWord (word : Text.isWord c) : isQuote c = false := by
  simp [isQuote, ne_mark_of_isWord word (show '\x27' ∈ marks by decide),
    ne_mark_of_isWord word (show '\x22' ∈ marks by decide)]

theorem mem_marks_of_isQuote (quoted : isQuote c) : c ∈ marks := by
  rcases Bool.or_eq_true _ _ ▸ quoted with single | double
  · rw [beq_iff_eq.mp single]
    decide
  · rw [beq_iff_eq.mp double]
    decide

end Marks

section Subscripts

variable {key left right inner index more rest : List Char} {c close : Char}

theorem word_key (isKey : IsKey key) (stops : Text.isWord c = false) :
    word (key ++ c :: rest) = (key, c :: rest) := by
  simp only [word, List.takeWhile_append_of_pos isKey.letters,
    List.dropWhile_append_of_pos isKey.letters]
  simp [stops]

theorem quote_option (isOption : IsQuoteOption left) (plain : isQuote c = false) :
    quote (left ++ c :: rest) = (left, c :: rest) := by
  cases left with
  | nil => simp [quote, plain]
  | cons first others =>
    obtain ⟨quoted, rfl⟩ := isOption first others rfl
    simp [quote, quoted]

/-- Behind a key stands a mark: a quote or the closing bracket. -/
theorem exists_mark_behind_key (isOption : IsQuoteOption right) (closes : close ∈ marks) :
    ∃ c others, right ++ close :: rest = c :: others ∧ c ∈ marks := by
  cases right with
  | nil => exact ⟨close, rest, rfl, closes⟩
  | cons first others =>
    obtain ⟨quoted, rfl⟩ := isOption first others rfl
    exact ⟨first, close :: rest, rfl, mem_marks_of_isQuote quoted⟩

theorem index?_isIndex_append (isIndex : IsIndex inner) (closes : close ∈ marks)
    (unquoted : isQuote close = false) :
    index? close (inner ++ close :: rest) = some (inner ++ [close], rest) := by
  obtain ⟨isLeft, isKey, isRight⟩ := isIndex
  rename_i left key right
  obtain ⟨first, others, rfl⟩ := List.exists_cons_of_ne_nil isKey.some
  have letter := isKey.letters first List.mem_cons_self
  have opened : quote (left ++ (first :: others) ++ right ++ close :: rest) =
      (left, (first :: others) ++ (right ++ close :: rest)) := by
    simpa using quote_option isLeft (not_isQuote_of_isWord letter)
  have named : word ((first :: others) ++ (right ++ close :: rest)) =
      (first :: others, right ++ close :: rest) := by
    obtain ⟨c, behind, shape, mark⟩ := @exists_mark_behind_key right rest close isRight closes
    rw [shape]
    exact word_key isKey (not_isWord_of_mark mark)
  have ended : quote (right ++ close :: rest) = (right, close :: rest) :=
    quote_option isRight unquoted
  simp only [index?, opened, named, ended]
  simp

theorem bracketed?_append_rest (isBracketed : IsBracketed index) :
    bracketed? (index ++ rest) = some (index, rest) := by
  cases isBracketed with
  | @braces inner isIndex =>
    have read := @index?_isIndex_append inner rest '\x7d' isIndex (by decide) (by decide)
    simp [bracketed?, read]
  | @square inner isIndex =>
    have read := @index?_isIndex_append inner rest ']' isIndex (by decide) (by decide)
    simp [bracketed?, read]

/-- A subscript is read to its end and no further. -/
theorem subscript?_append_rest (isSubscript : IsSubscript index) :
    subscript? (index ++ rest) = some (index, rest) := by
  cases isSubscript with
  | plain isBracketed =>
    have read := @bracketed?_append_rest index rest isBracketed
    cases isBracketed <;> exact read
  | arrow isBracketed => simp [subscript?, bracketed?_append_rest isBracketed]

theorem subscripts_append_rest (isSubscripts : Subscripts more) :
    subscripts (more ++ rest) = (more ++ (subscripts rest).1, (subscripts rest).2) := by
  induction isSubscripts with
  | nil => rfl
  | @cons first more isSubscript _ ih =>
    rw [List.append_assoc, subscripts_of_some (subscript?_append_rest isSubscript), ih,
      List.append_assoc]

/-- Subscripts start with a mark that no bare name holds. -/
theorem Subscripts.first_mark (isSubscripts : Subscripts more) (some : more ≠ []) :
    ∃ first others, more = first :: others ∧ (first = '\x7b' ∨ first = '[' ∨ first = '-') := by
  cases isSubscripts with
  | nil => contradiction
  | cons isSubscript _ =>
    rcases isSubscript with (isIndex | isIndex) | isBracketed
    · exact ⟨_, _, rfl, .inl rfl⟩
    · exact ⟨_, _, rfl, .inr (.inl rfl)⟩
    · exact ⟨_, _, rfl, .inr (.inr rfl)⟩

end Subscripts

section Names

variable {key run name more rest : List Char}

theorem bareName_run_append (isRun : NameRun run) :
    bareName (run ++ rest) = (run ++ (bareName rest).1, (bareName rest).2) := by
  induction isRun with
  | nil => rfl
  | @letter c run letter _ ih =>
    have plain : ∀ others, c = ':' → run ++ rest = ':' :: others → False :=
      fun _ colon _ => ne_mark_of_isWord letter (by decide) colon
    rw [List.cons_append, bareName.eq_3 _ _ plain, if_pos letter, ih]
    rfl
  | colons _ ih => simp [bareName, ih]

theorem bareName_subscripts (isSubscripts : Subscripts more) (some : more ≠ []) :
    bareName (more ++ rest) = ([], more ++ rest) := by
  obtain ⟨first, others, rfl, mark⟩ := isSubscripts.first_mark some
  rcases mark with rfl | rfl | rfl <;> rfl

theorem bracedName?_key (isKey : IsKey key) :
    bracedName? (key ++ '\x7d' :: rest) = some (key ++ ['\x7d'], rest) := by
  obtain ⟨first, others, rfl⟩ := List.exists_cons_of_ne_nil isKey.some
  have letter := isKey.letters first List.mem_cons_self
  have other : ∀ left, first :: others ++ '\x7d' :: rest = ':' :: ':' :: '\x7d' :: left → False :=
    fun left shape => ne_mark_of_isWord letter (by decide) (List.cons.inj shape).1
  rw [bracedName?.eq_2 _ other, word_key isKey (not_isWord_of_mark (by decide))]
  rfl

/-- Only a bare name can go on behind a name that leads the text. -/
theorem name?_append_rest (isName : IsName name) (rest : List Char) :
    ∃ further left, name? (name ++ rest) = some (name ++ further, left) ∧
      ((bareName rest).1 = [] → further = []) := by
  cases isName with
  | braced isKey =>
    refine ⟨[], rest, ?_, fun _ => rfl⟩
    simp [name?, bracedName?_key isKey]
  | bracedColons => exact ⟨[], rest, rfl, fun _ => rfl⟩
  | bare some isRun =>
    refine ⟨(bareName rest).1, (bareName rest).2, ?_, id⟩
    obtain ⟨first, others, rfl⟩ := List.exists_cons_of_ne_nil some
    have unbraced : ∀ left, first :: others ++ rest = '\x7b' :: left → False := by
      intro left shape
      cases (List.cons.inj shape).1
      rcases isRun with _ | letter
      exact ne_mark_of_isWord letter (by decide) rfl
    rw [name?.eq_2 _ unbraced, bareName_run_append isRun]
    rfl

theorem IsName.ne_nil (isName : IsName name) : name ≠ [] := by
  cases isName with
  | braced => simp
  | bracedColons => simp
  | bare some => exact some

/-- No `$` starts a name. -/
theorem IsName.dereference_append (isName : IsName name) (rest : List Char) :
    dereference (name ++ rest) = ([], name ++ rest) := by
  refine dereference.eq_2 _ fun others shape => ?_
  obtain ⟨first, name, rfl⟩ := List.exists_cons_of_ne_nil isName.ne_nil
  have inner := isName.isInner first List.mem_cons_self
  rw [(List.cons.inj shape).1] at inner
  exact absurd inner (by decide)

/-- A name and subscripts that lead the text are read, with what continues them. -/
theorem name?_subscripts_append_rest (isName : IsName name) (isSubscripts : Subscripts more)
    (rest : List Char) :
    ∃ named left further, name? (name ++ more ++ rest) = some (named, left) ∧
      named ++ (subscripts left).1 = name ++ more ++ further := by
  rw [List.append_assoc]
  obtain ⟨further, left, read, ends⟩ := name?_append_rest isName (more ++ rest)
  by_cases none : more = []
  · subst none
    exact ⟨_, left, further ++ (subscripts left).1, read, by simp⟩
  · -- A subscript ends the name, so the subscripts are read from their own first character.
    obtain rfl := ends (by rw [bareName_subscripts isSubscripts none])
    have whole := name?_append read
    rw [List.append_nil, List.append_cancel_left_eq] at whole
    subst whole
    exact ⟨_, _, (subscripts rest).1, read, by simp [subscripts_append_rest isSubscripts]⟩

end Names

section Longest

variable {reference word text rest : List Char}

theorem match?_sigil {sigil : Char} (leads : isSigil sigil) (text : List Char) :
    match? (sigil :: text) = (name? (dereference text).2).map fun read =>
      (sigil :: (dereference text).1 ++ (read.1 ++ (subscripts read.2).1), (subscripts read.2).2) := by
  simp only [match?, leads, if_true]
  cases name? (dereference text).2 <;> simp

/-- A reference that leads the text is read, with what continues it. -/
theorem match?_append_rest (isReference : IsReference reference) (rest : List Char) :
    ∃ further left, match? (reference ++ rest) = some (reference ++ further, left) := by
  cases isReference with
  | @plain sigil name more leads isName isSubscripts =>
    obtain ⟨named, left, further, read, whole⟩ :=
      name?_subscripts_append_rest isName isSubscripts rest
    have direct := isName.dereference_append (more ++ rest)
    rw [← List.append_assoc] at direct
    refine ⟨further, (subscripts left).2, ?_⟩
    rw [List.cons_append, match?_sigil leads, direct, read, Option.map_some, whole]
    rfl
  | @dereference sigil name more leads isName isSubscripts =>
    obtain ⟨named, left, further, read, whole⟩ :=
      name?_subscripts_append_rest isName isSubscripts rest
    refine ⟨further, (subscripts left).2, ?_⟩
    rw [List.cons_append, List.cons_append, match?_sigil leads, dereference, read, Option.map_some,
      whole]
    rfl

/-- Of the references that lead a text the longest is read. -/
theorem prefix_of_match? (isReference : IsReference word) (leads : word <+: text)
    (found : match? text = some (reference, rest)) : word <+: reference := by
  obtain ⟨tail, rfl⟩ := leads
  obtain ⟨further, left, read⟩ := match?_append_rest isReference tail
  rw [read] at found
  obtain ⟨rfl, rfl⟩ := Prod.mk.inj (Option.some.inj found)
  exact List.prefix_append word further

/-- No sigil stands in a name or a subscript. -/
theorem not_isSigil_of_split {name more front back : List Char} {c : Char} (isName : IsName name)
    (isSubscripts : Subscripts more) (shape : name ++ more = front ++ c :: back) :
    isSigil c = false := by
  have inner := List.forall_mem_append.mpr ⟨isName.isInner, isSubscripts.isInner⟩
  exact not_isSigil_of_isInner (inner c (by simp [shape]))

/-- A sigil inside a reference is the `$` behind the first one, and starts a reference too. -/
theorem IsReference.inner_sigil {front back : List Char} {c : Char}
    (isReference : IsReference reference) (shape : reference = front ++ c :: back)
    (inside : front ≠ []) (sigil : isSigil c) :
    ∃ outer, isSigil outer ∧ front = [outer] ∧ c = '$' ∧ IsReference ('$' :: back) := by
  obtain ⟨outer, others, rfl⟩ := List.exists_cons_of_ne_nil inside
  cases isReference with
  | @plain first name more leads isName isSubscripts =>
    have plain := not_isSigil_of_split isName isSubscripts (List.cons.inj shape).2
    rw [sigil] at plain
    contradiction
  | @dereference first name more leads isName isSubscripts =>
    injection shape with same shape
    subst same
    cases others with
    | nil =>
      obtain ⟨rfl, rfl⟩ := List.cons.inj shape
      exact ⟨first, leads, rfl, rfl, .plain (by decide) isName isSubscripts⟩
    | cons second others =>
      have plain := not_isSigil_of_split isName isSubscripts (List.cons.inj shape).2
      rw [sigil] at plain
      contradiction

/-- Behind the sigil of a reference with `$` the rest of it is read. -/
theorem match?_behind_sigil {sigil : Char} (leads : isSigil sigil)
    (found : match? (sigil :: '$' :: text) = some (reference, rest)) :
    ∃ inner, reference = sigil :: inner ∧ match? ('$' :: text) = some (inner, rest) := by
  rw [match?_sigil leads, dereference] at found
  obtain ⟨⟨name, left⟩, named, same⟩ := Option.map_eq_some_iff.mp found
  obtain ⟨rfl, rfl⟩ := Prod.mk.inj same
  have direct := (name?_isName named).dereference_append left
  rw [name?_append named] at direct
  refine ⟨_, rfl, ?_⟩
  rw [match?_sigil (by decide), direct, named]
  rfl

theorem IsReference.exists_sigil (isReference : IsReference reference) :
    ∃ sigil others, reference = sigil :: others ∧ isSigil sigil := by
  obtain ⟨sigil, mark, tail, rfl, leads, _⟩ := isReference.shape
  exact ⟨sigil, mark ++ tail, rfl, leads⟩

/-- A reference that starts where another one is being read ends there too. -/
theorem exists_prefix_of_match? {front : List Char}
    (found : match? (front ++ text) = some (reference, rest))
    (inside : front.length < reference.length) (isReference : IsReference word)
    (leads : word <+: text) : ∃ back, reference = front ++ back ∧ word <+: back := by
  by_cases start : front = []
  · subst start
    exact ⟨reference, rfl, prefix_of_match? isReference leads found⟩
  · obtain ⟨sigil, others, rfl, isSigil⟩ := isReference.exists_sigil
    obtain ⟨tail, rfl⟩ := leads
    have whole := match?_append found
    obtain ⟨back, rfl⟩ : front <+: reference := by
      refine List.prefix_of_prefix_length_le ⟨_, whole.symm⟩ ?_ inside.le
      exact List.prefix_append reference rest
    rw [List.append_assoc, List.append_cancel_left_eq] at whole
    cases back with
    | nil => simp at inside
    | cons first back =>
      obtain ⟨rfl, _⟩ := List.cons.inj whole
      obtain ⟨outer, outerSigil, rfl, rfl, _⟩ :=
        (match?_isReference found).inner_sigil rfl start isSigil
      obtain ⟨inner, same, read⟩ := match?_behind_sigil outerSigil found
      obtain rfl := List.append_cancel_left same
      exact ⟨_, rfl, prefix_of_match? isReference (List.prefix_append _ tail) read⟩

end Longest

end QueryLint.Reference
