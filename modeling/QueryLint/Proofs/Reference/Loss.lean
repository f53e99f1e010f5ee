import Mathlib.Data.List.DropRight
import QueryLint.Proofs.Reference.Longest
import QueryLint.Proofs.Whitelisting

/-! How the extraction can miss a reference. A removal takes every copy of a spelling out of the
text, and what stood around a copy is joined. A reference that holds no extracted spelling is
missed in one of three ways only: a backslash comes to stand before it, it is read as part of a
longer one, or a copy that starts one character before it takes its beginning along. -/
namespace QueryLint.Reference

/-- An odd number of backslashes ends the text, so a sigil behind it is escaped. -/
def isEscaped (before : List Char) : Bool := (before.rtakeWhile (· == '\\')).length % 2 == 1

section Escapes

variable {word : List Char}

theorem isEscaped_concat (before : List Char) (c : Char) :
    isEscaped (before ++ [c]) = (c == '\\' && !isEscaped before) := by
  by_cases slash : c = '\\'
  · subst slash
    rw [isEscaped, List.rtakeWhile_concat_pos _ _ _ (by decide), List.length_append,
      List.length_singleton, isEscaped]
    rcases Nat.mod_two_eq_zero_or_one (before.rtakeWhile (· == '\\')).length with even | odd
    · simp [Nat.add_mod, even]
    · simp [Nat.add_mod, odd]
  · have other : (c == '\\') = false := beq_false_of_ne slash
    simp [isEscaped, other]

theorem isEscaped_behind (isReference : IsReference word) (before between : List Char) :
    isEscaped (before ++ word ++ between) = isEscaped between := by
  induction between using List.reverseRecOn with
  | nil =>
    obtain ⟨front, last, rfl⟩ := (List.eq_nil_or_concat word).resolve_left isReference.ne_nil
    have inside := isReference.inReference last (by simp)
    have plain : last ≠ '\\' := by
      rintro rfl
      exact absurd inside (by decide)
    rw [List.append_nil, List.concat_eq_append, ← List.append_assoc, isEscaped_concat,
      beq_false_of_ne plain]
    rfl
  | append_singleton between c ih =>
    rw [← List.append_assoc, isEscaped_concat, isEscaped_concat, ih]

end Escapes

section Reading

variable {reference before after : List Char}

/-- The search finds a reference that is not escaped, or a longer one in its place, unless
another one is found before it. -/
theorem findFrom_covers (isReference : IsReference reference) (front : List Char)
    (free : isEscaped (front ++ before) = false) :
    ∃ found, findFrom (isEscaped front) (before ++ reference ++ after) = some found ∧
      (reference <:+: found.word ∨
        ∃ between, before = found.before ++ found.word ++ between ∧
          found.after = between ++ reference ++ after) := by
  induction before generalizing front with
  | nil =>
    obtain ⟨further, left, read⟩ := match?_append_rest isReference after
    obtain ⟨sigil, others, rfl, _⟩ := isReference.exists_sigil
    rw [List.append_nil] at free
    refine ⟨⟨[], _, left⟩, ?_, .inl (List.prefix_append _ further).isInfix⟩
    rw [List.nil_append, List.cons_append, findFrom, free, ← List.cons_append, if_neg (by simp), read]
  | cons c before ih =>
    simp only [List.cons_append, findFrom]
    cases here : if isEscaped front then none else match? (c :: (before ++ reference ++ after)) with
    | some read =>
      obtain ⟨word, rest⟩ := read
      have found : match? (c :: before ++ (reference ++ after)) = some (word, rest) := by
        split at here
        · contradiction
        · simpa using here
      refine ⟨⟨[], word, rest⟩, rfl, ?_⟩
      by_cases inside : (c :: before).length < word.length
      · obtain ⟨back, rfl, leads⟩ :=
          exists_prefix_of_match? found inside isReference (List.prefix_append reference after)
        exact .inl (leads.isInfix.trans (List.suffix_append _ back).isInfix)
      · have whole := match?_append found
        obtain ⟨between, shape⟩ : word <+: c :: before := by
          refine List.prefix_of_prefix_length_le ⟨rest, whole⟩ ?_ (Nat.le_of_not_lt inside)
          exact List.prefix_append _ _
        rw [← shape, List.append_assoc, List.append_cancel_left_eq] at whole
        exact .inr ⟨between, shape.symm, by simp [whole]⟩
    | none =>
      have next : isEscaped (front ++ [c] ++ before) = false := by simpa using free
      obtain ⟨found, search, place⟩ := ih (front ++ [c]) next
      rw [isEscaped_concat] at search
      refine ⟨_, by rw [search]; rfl, ?_⟩
      rcases place with longer | ⟨between, rfl, rest⟩
      · exact .inl longer
      · exact .inr ⟨between, rfl, rest⟩

/-- A reference that is not escaped is read, alone or as part of a longer one. -/
theorem exists_mem_references (isReference : IsReference reference)
    (free : isEscaped before = false) :
    ∃ longer ∈ references (before ++ reference ++ after), reference <:+: longer := by
  induction sized : before.length using Nat.strong_induction_on generalizing before with
  | _ size ih =>
    obtain ⟨found, search, place⟩ := @findFrom_covers reference before after isReference [] free
    rw [references_of_some search]
    rcases place with longer | ⟨between, rfl, rest⟩
    · exact ⟨found.word, List.mem_cons_self, longer⟩
    · have isWord := findFrom_isReference search
      rw [isEscaped_behind isWord] at free
      have shorter : between.length < size := by
        have := List.length_pos_iff.mpr isWord.ne_nil
        simp only [List.length_append] at sized
        omega
      obtain ⟨longer, member, inside⟩ := ih _ shorter free rfl
      exact ⟨longer, List.mem_cons_of_mem _ (rest ▸ member), inside⟩

theorem findFrom_match? {escaped : Bool} {text : List Char} {found : Occurrence}
    (search : findFrom escaped text = some found) :
    match? (found.word ++ found.after) = some (found.word, found.after) := by
  induction text generalizing escaped found with
  | nil => simp [findFrom] at search
  | cons c text ih =>
    rw [findFrom] at search
    split at search
    · rename_i word after here
      split at here
      · contradiction
      · obtain rfl := Option.some.inj search
        rw [match?_append here]
        exact here
    · obtain ⟨later, behind, rfl⟩ := Option.map_eq_some_iff.mp search
      exact (ih behind : match? (later.word ++ later.after) = _)

theorem exists_place_of_mem {text : List Char} (read : reference ∈ references text) :
    ∃ before after, text = before ++ (reference ++ after) ∧
      match? (reference ++ after) = some (reference, after) := by
  fun_induction references text with
  | case1 => simp at read
  | case2 text found search ih =>
    have whole := find?_append search
    rcases List.mem_cons.mp read with rfl | later
    · exact ⟨found.before, found.after, by simpa using whole, findFrom_match? search⟩
    · obtain ⟨before, after, shape, here⟩ := ih later
      exact ⟨found.before ++ found.word ++ before, after, by rw [whole, shape]; simp, here⟩

end Reading

section Removal

variable {word : List Char}

theorem erase_leading (some : word ≠ []) (text : List Char) :
    Text.erase word (word ++ text) = Text.erase word text := by
  obtain ⟨first, others, rfl⟩ := List.exists_cons_of_ne_nil some
  have leads : (first :: others).isPrefixOf (first :: (others ++ text)) :=
    List.isPrefixOf_iff_prefix.mpr (List.prefix_append _ text)
  rw [List.cons_append, Text.erase.eq_2, if_pos leads]
  simp

/-- Both sides of a cut are treated alone, unless a copy lies across it. -/
theorem erase_append_cases (some : word ≠ []) (text rest : List Char) :
    Text.erase word (text ++ rest) = Text.erase word text ++ Text.erase word rest ∨
    ∃ before head tail after, text = before ++ head ∧ rest = tail ++ after ∧
      word = head ++ tail ∧ head ≠ [] ∧ tail ≠ [] := by
  fun_induction Text.erase word text with
  | case1 => exact .inl rfl
  | case2 first text start ih =>
    obtain ⟨left, shape⟩ := List.isPrefixOf_iff_prefix.mp start
    have behind : text.drop (word.length - 1) = left := by
      obtain ⟨head, others, rfl⟩ := List.exists_cons_of_ne_nil some
      simp [← (List.cons.inj shape).2]
    rw [behind] at ih ⊢
    rw [← shape]
    rcases ih with same | ⟨before, head, tail, after, rfl, rest⟩
    · exact .inl (by rw [List.append_assoc, erase_leading some, same])
    · exact .inr ⟨word ++ before, head, tail, after, by simp, rest⟩
  | case3 first text start ih =>
    by_cases across : word <+: first :: text ++ rest
    · refine .inr ?_
      -- The copy is longer than the first side, for this side alone has none at its start.
      obtain ⟨tail, rfl⟩ : first :: text <+: word := by
        rcases List.prefix_or_prefix_of_prefix across (List.prefix_append _ rest) with inside | longer
        · exact absurd (List.isPrefixOf_iff_prefix.mpr inside) start
        · exact longer
      obtain ⟨after, shape⟩ := across
      rw [List.append_assoc, List.append_cancel_left_eq] at shape
      refine ⟨[], first :: text, tail, after, rfl, shape.symm, rfl, by simp, ?_⟩
      rintro rfl
      exact start (by simp)
    · have unlike : ¬ word.isPrefixOf (first :: (text ++ rest)) :=
        fun leads => across (List.isPrefixOf_iff_prefix.mp leads)
      rcases ih with same | ⟨before, head, tail, after, rfl, rest⟩
      · refine .inl ?_
        rw [List.cons_append, Text.erase.eq_2, if_neg unlike, same, List.cons_append]
      · exact .inr ⟨first :: before, head, tail, after, rfl, rest⟩

/-- A stretch of the text in which no copy starts is kept. -/
theorem erase_unstarted {text rest : List Char}
    (unstarted : ∀ front back, text = front ++ back → back ≠ [] → ¬ word <+: back ++ rest) :
    Text.erase word (text ++ rest) = text ++ Text.erase word rest := by
  induction text with
  | nil => rfl
  | cons first text ih =>
    have unlike : ¬ word.isPrefixOf (first :: (text ++ rest)) :=
      fun leads => unstarted [] (first :: text) rfl (by simp) (List.isPrefixOf_iff_prefix.mp leads)
    rw [List.cons_append, Text.erase.eq_2, if_neg unlike, List.cons_append, ih]
    exact fun front back shape => unstarted (first :: front) back (by simp [shape])

end Removal

/-- What a removal does to a reference that it loses: an odd number of backslashes comes to stand
before it, it is read as part of a longer one, or a copy that starts one character earlier takes
its beginning along. -/
inductive Disturbs (working removed lost : List Char) : Prop
  | escaped {before after : List Char} :
      Text.erase removed working = before ++ lost ++ after → isEscaped before →
      Disturbs working removed lost
  | absorbed {longer : List Char} :
      longer ∈ references (Text.erase removed working) → lost <:+: longer → longer ≠ lost →
      Disturbs working removed lost
  | cut {before head after : List Char} {sigil : Char} :
      working = before ++ sigil :: lost ++ after → removed = sigil :: head → head <+: lost →
      Disturbs working removed lost

/-- No copy of a reference starts inside another one that does not hold it. -/
theorem unstarted_of_match? {word reference after : List Char} (isWord : IsReference word)
    (here : match? (reference ++ after) = some (reference, after)) (apart : ¬ word <:+: reference) :
    ∀ front back, reference = front ++ back → back ≠ [] → ¬ word <+: back ++ after := by
  rintro front back rfl some leads
  rw [List.append_assoc] at here
  have inside : front.length < (front ++ back).length := by
    have := List.length_pos_iff.mpr some
    simp only [List.length_append]
    omega
  obtain ⟨tail, same, within⟩ := exists_prefix_of_match? here inside isWord leads
  obtain rfl := List.append_cancel_left same
  exact apart (within.isInfix.trans (List.suffix_append front _).isInfix)

theorem disturbs_of_gone {working removed lost : List Char} (isRemoved : IsReference removed)
    (read : lost ∈ references working) (gone : lost ∉ references (Text.erase removed working))
    (apart : ¬ removed <:+: lost) : Disturbs working removed lost := by
  obtain ⟨before, after, shape, here⟩ := exists_place_of_mem read
  have isLost := match?_isReference here
  have kept := erase_unstarted (unstarted_of_match? isRemoved here apart)
  rcases erase_append_cases isRemoved.ne_nil before (lost ++ after) with
    same | ⟨front, head, tail, left, rfl, across, rfl, some, ends⟩
  · rw [kept, ← shape, ← List.append_assoc] at same
    by_cases escapes : isEscaped (Text.erase removed before)
    · exact .escaped same escapes
    · obtain ⟨longer, member, inside⟩ := exists_mem_references isLost (Bool.eq_false_iff.mpr escapes)
      rw [← same] at member
      refine .absorbed member inside ?_
      rintro rfl
      exact gone member
  · -- The sigil of the reference stands inside the copy, so the copy starts right before it.
    obtain ⟨sigil, others, rfl, isSigil⟩ := isLost.exists_sigil
    obtain ⟨first, tail, rfl⟩ := List.exists_cons_of_ne_nil ends
    obtain ⟨rfl, _⟩ := List.cons.inj across
    obtain ⟨outer, _, rfl, rfl, isTail⟩ := isRemoved.inner_sigil rfl some isSigil
    have placed : working = front ++ outer :: ('$' :: others) ++ after := by simp [shape]
    exact .cut placed rfl (prefix_of_match? isTail ⟨left, across.symm⟩ here)

/-- Every reference of a text holds an extracted one, unless a removal of one that it does not
hold disturbs it. -/
theorem extract_covers_or_disturbs {text reference : List Char}
    (read : reference ∈ references text) :
    (∃ word ∈ extract text, word <:+: reference) ∨
    ∃ removed ∈ extract text, ¬ removed <:+: reference ∧
      ∃ working, Working text working ∧ LosesAt working removed reference ∧
        Disturbs working removed reference := by
  rcases mem_extract_or_loses read with listed | ⟨removed, listed, working, reached, loses⟩
  · exact .inl ⟨reference, listed, List.infix_rfl⟩
  · by_cases held : removed <:+: reference
    · exact .inl ⟨removed, listed, held⟩
    · have isRemoved := extract_isReference listed
      exact .inr ⟨removed, listed, held, working, reached, loses,
        disturbs_of_gone isRemoved loses.read loses.gone held⟩

/-- The removal of `$x` joins the backslash and `$y`. -/
def joiningText : List Char := "$x \\$x$y".toList

theorem joiningText_read : references joiningText = ["$x".toList, "$y".toList] := by
  decide +kernel

theorem joiningText_extract : extract joiningText = ["$x".toList] := by
  decide +kernel

theorem joiningText_uncovered :
    ¬ ∃ word ∈ extract joiningText, word <:+: "$y".toList := by
  rw [joiningText_extract]
  decide

theorem joiningText_disturbs :
    "$y".toList ∈ references joiningText ∧
    ∃ working, Working joiningText working ∧ LosesAt working "$x".toList "$y".toList ∧
      Disturbs working "$x".toList "$y".toList := by
  have read : "$y".toList ∈ references joiningText := by
    rw [joiningText_read]
    decide
  obtain ⟨removed, listed, _, working, reached, loses, disturbs⟩ :=
    (extract_covers_or_disturbs read).resolve_left joiningText_uncovered
  rw [joiningText_extract, List.mem_singleton] at listed
  subst listed
  exact ⟨read, working, reached, loses, disturbs⟩

/-- A reference can hold none of the extracted spellings. -/
theorem extract_overlooks_joined :
    ¬ ∀ text, ∀ reference ∈ references text, ∃ word ∈ extract text, word <:+: reference := by
  intro covers
  refine joiningText_uncovered (covers joiningText _ ?_)
  rw [joiningText_read]
  decide

end QueryLint.Reference
