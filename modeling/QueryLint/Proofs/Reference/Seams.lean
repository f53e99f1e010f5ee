import Mathlib.Data.List.Infix
import QueryLint.Proofs.Reference.Leftmost

/-! What the removals join. Taking out the copies of a spelling brings together what stood around
each of them. Where no reference comes to stand across such a seam and no backslash before it
escapes what is behind it, the rest of the text is read as before: just the references that hold the
spelling are gone. -/
namespace QueryLint.Reference

section Sigils

variable {word reference further : List Char} {first second third sigil : Char}

theorem IsReference.not_third_sigil {rest : List Char}
    (isReference : IsReference (first :: second :: third :: rest)) : isSigil third = false := by
  by_contra sigil
  obtain ⟨outer, _, shape, _⟩ :=
    @IsReference.inner_sigil _ [first, second] rest third isReference rfl (by simp) (by simpa using sigil)
  simp at shape

theorem IsReference.exists_cons_cons (isReference : IsReference word) :
    ∃ first second rest, word = first :: second :: rest := by
  have size := two_le_length_match? (isReference_iff.mp isReference)
  match word with
  | first :: second :: rest => exact ⟨first, second, rest, rfl⟩

/-- What continues a reference starts no other one and escapes none. -/
theorem IsReference.plain_further (isWord : IsReference word)
    (longer : IsReference (word ++ further)) : ∀ c ∈ further, isPlain c := by
  intro c inside
  obtain ⟨front, back, rfl⟩ := List.append_of_mem inside
  have loose : c ≠ '\\' := by
    rintro rfl
    exact absurd (longer.inReference '\\' (by simp)) (by decide)
  have unsigned : isSigil c = false := by
    by_contra sigil
    obtain ⟨outer, _, shape, _⟩ := @IsReference.inner_sigil _ (word ++ front) back c longer
      (by simp) (by simp [isWord.ne_nil]) (by simpa using sigil)
    obtain ⟨first, second, rest, rfl⟩ := isWord.exists_cons_cons
    simp at shape
  simp [isPlain, unsigned, loose]

/-- A reference that runs on over a sigil has just one sigil before it. -/
theorem IsReference.across_sigil {head tail rest : List Char} (isReference : IsReference (head ++ tail))
    (before : head ≠ []) (behind : tail ≠ []) (leads : tail <+: sigil :: rest)
    (isSigil : isSigil sigil) :
    ∃ outer, Reference.isSigil outer ∧ head = [outer] ∧ sigil = '$' := by
  obtain ⟨first, tail, rfl⟩ := List.exists_cons_of_ne_nil behind
  obtain ⟨rfl, _⟩ := List.cons_prefix_cons.mp leads
  obtain ⟨outer, outerSigil, alone, dollar, _⟩ := isReference.inner_sigil rfl before isSigil
  exact ⟨outer, outerSigil, alone, dollar⟩

end Sigils

/-- No reference stands across the place where the two texts meet. -/
def Unjoined (left right : List Char) : Prop :=
  ∀ head tail, head <:+ left → tail <+: right → head ≠ [] → tail ≠ [] → ¬ IsReference (head ++ tail)

theorem unjoined_iff {left right : List Char} :
    Unjoined left right ↔ ∀ head ∈ left.tails, ∀ tail ∈ right.inits, head ≠ [] → tail ≠ [] →
      ¬ IsReference (head ++ tail) := by
  simp only [List.mem_tails, List.mem_inits]
  exact ⟨fun unjoined head ends tail => unjoined head tail ends,
    fun unjoined head tail ends => unjoined head ends tail⟩

instance (left right : List Char) : Decidable (Unjoined left right) :=
  decidable_of_iff _ unjoined_iff.symm

/-- The references of a text that an odd number of backslashes may stand before. -/
def referencesFrom (escaped : Bool) (text : List Char) : List (List Char) :=
  match findFrom escaped text with
  | none => []
  | some found => found.word :: references found.after

section Meeting

variable {left right front : List Char}

theorem Unjoined.of_suffix {back : List Char} (unjoined : Unjoined left right)
    (suffix : back <:+ left) : Unjoined back right := by
  intro head tail ends
  exact unjoined head tail (ends.trans suffix)

theorem Unjoined.of_append {more : List Char} (unjoined : Unjoined left (right ++ more)) :
    Unjoined left right := by
  intro head tail ends leads
  exact unjoined head tail ends (leads.trans (List.prefix_append right more))

theorem match?_of_append {reference more rest : List Char}
    (read : match? (reference ++ more ++ right) = some (reference, rest)) :
    match? (reference ++ more) = some (reference, more) := by
  obtain ⟨further, left, alone⟩ := match?_append_rest (match?_isReference read) more
  -- What the reader takes from the shorter text leads the longer one too, so it takes no more.
  have leads : reference ++ further <+: reference ++ more := ⟨left, match?_append alone⟩
  have short := prefix_of_match? (match?_isReference alone)
    (leads.trans (List.prefix_append _ right)) read
  obtain rfl : further = [] := by
    have size := short.length_le
    rw [List.length_append] at size
    exact List.length_eq_zero_iff.mp (by omega)
  rw [List.append_nil] at alone
  rw [alone, List.append_cancel_left (match?_append alone)]

/-- The reader stops at the seam, if not before. -/
theorem match?_unjoined (unjoined : Unjoined left right) (some : left ≠ []) :
    match? (left ++ right) = (match? left).map (behind right) := by
  cases read : match? (left ++ right) with
  | none =>
    have unread : match? left = none := match?_eq_none_iff.mpr fun word isReference leads =>
      match?_eq_none_iff.mp read word isReference (leads.trans (List.prefix_append left right))
    rw [unread]
    rfl
  | some found =>
    obtain ⟨reference, rest⟩ := found
    have isReference := match?_isReference read
    have whole := match?_append read
    rcases List.append_eq_append_iff.mp whole with ⟨more, rfl, rfl⟩ | ⟨tail, rfl, rfl⟩
    · rw [match?_of_append read]
      rfl
    · by_cases none : tail = []
      · subst none
        simp only [List.append_nil] at isReference ⊢
        rw [isReference_iff.mp isReference]
        rfl
      · have leads := List.prefix_append tail rest
        exact absurd isReference (unjoined left tail List.suffix_rfl leads some none)

theorem findFrom_unjoined (unjoined : Unjoined left right) (front : List Char) :
    findFrom (isEscaped front) (left ++ right) =
      match findFrom (isEscaped front) left with
      | some found => some { found with after := found.after ++ right }
      | none => (findFrom (isEscaped (front ++ left)) right).map fun found =>
          { found with before := left ++ found.before } := by
  induction left generalizing front with
  | nil => simp [findFrom]
  | cons c left ih =>
    have here : (if isEscaped front then none else match? (c :: (left ++ right))) =
        (if isEscaped front then none else match? (c :: left)).map (behind right) := by
      split
      · rfl
      · exact match?_unjoined unjoined (by simp)
    have later := ih (unjoined.of_suffix (List.suffix_cons c left)) (front ++ [c])
    rw [isEscaped_concat, List.append_assoc, List.singleton_append] at later
    simp only [List.cons_append, findFrom, here]
    cases if isEscaped front then none else match? (c :: left) with
    | some read => rfl
    | none =>
      simp only [Option.map_none, later]
      cases findFrom (c == '\\' && !isEscaped front) left with
      | some found => rfl
      | none => simp [Option.map_map, Function.comp_def]

theorem referencesFrom_false (text : List Char) : referencesFrom false text = references text := by
  rw [referencesFrom]
  cases search : find? text with
  | none => rw [references_of_none search, show findFrom false text = none from search]
  | some found => rw [references_of_some search, show findFrom false text = some found from search]

theorem referencesFrom_escaped {c : Char} (loose : c ≠ '\\') (text : List Char) :
    referencesFrom true (c :: text) = references text := by
  rw [← referencesFrom_false, referencesFrom, referencesFrom, findFrom, if_pos rfl,
    beq_false_of_ne loose, Bool.false_and]
  cases findFrom false text <;> rfl

theorem references_plain_append {lead : List Char} (plain : ∀ c ∈ lead, isPlain c)
    (rest : List Char) : references (lead ++ rest) = references rest := by
  have search := find?_plain_append plain rest
  cases found : find? rest with
  | none => rw [references_of_none (by rw [search, found]; rfl), references_of_none found]
  | some later => rw [references_of_some (by rw [search, found]; rfl), references_of_some found]

/-- Texts that do not join are read one after the other. -/
theorem references_unjoined (unjoined : Unjoined left right) :
    references (left ++ right) = references left ++ referencesFrom (isEscaped left) right := by
  fun_induction references left with
  | case1 left unread =>
    have search := findFrom_unjoined unjoined []
    rw [show findFrom (isEscaped []) left = none from unread, List.nil_append] at search
    rw [List.nil_append, referencesFrom]
    cases later : findFrom (isEscaped left) right with
    | none =>
      rw [later] at search
      rw [references_of_none search]
    | some found =>
      rw [later] at search
      rw [references_of_some search]
  | case2 left found here ih =>
    have search := findFrom_unjoined unjoined []
    rw [show findFrom (isEscaped []) left = some found from here] at search
    have whole := find?_append here
    have suffix : found.after <:+ left := ⟨_, whole.symm⟩
    have escapes : isEscaped found.after = isEscaped left := by
      conv_rhs => rw [whole, isEscaped_behind (findFrom_isReference here)]
    rw [references_of_some search, ih (unjoined.of_suffix suffix), escapes, List.cons_append]

end Meeting

/-- Two texts that are read alike together and apart: no reference stands across the seam, and no
backslash before it escapes what is behind it. -/
structure Apart (left right : List Char) : Prop where
  unjoined : Unjoined left right
  loose : isEscaped left → right.head?.all isPlain

section Apart

variable {left right : List Char}

instance : Decidable (Apart left right) :=
  decidable_of_iff (Unjoined left right ∧ (isEscaped left → right.head?.all isPlain))
    ⟨fun both => ⟨both.1, both.2⟩, fun apart => ⟨apart.unjoined, apart.loose⟩⟩

theorem Apart.of_append {more : List Char} (apart : Apart left (right ++ more)) :
    Apart left right := by
  refine ⟨apart.unjoined.of_append, fun escaped => ?_⟩
  have plain := apart.loose escaped
  cases right with
  | nil => rfl
  | cons c right => exact plain

theorem references_apart (apart : Apart left right) :
    references (left ++ right) = references left ++ references right := by
  rw [references_unjoined apart.unjoined]
  cases escaped : isEscaped left with
  | false => rw [referencesFrom_false]
  | true =>
    cases right with
    | nil => rw [references_of_none (show find? [] = none from rfl), referencesFrom, findFrom]
    | cons c right =>
      have plain : isPlain c := apart.loose escaped
      have loose : c ≠ '\\' := by
        rintro rfl
        exact absurd plain (by decide)
      rw [referencesFrom_escaped loose]
      have same := @references_plain_append [c] (List.forall_mem_singleton.mpr plain) right
      rw [← same, List.singleton_append]

end Apart

section Copies

variable {word before after : List Char}

/-- The text behind a reference is read alike whether or not the reference stands before it. -/
theorem exists_references_leading (isWord : IsReference word) (after : List Char) :
    ∃ longer, word <+: longer ∧ references (word ++ after) = longer :: references after := by
  obtain ⟨further, left, read⟩ := match?_append_rest isWord after
  have whole := match?_append read
  rw [List.append_assoc, List.append_cancel_left_eq] at whole
  refine ⟨word ++ further, List.prefix_append word further, ?_⟩
  rw [references_of_some (find?_of_match? read), ← whole,
    references_plain_append (isWord.plain_further (match?_isReference read))]

theorem referencesFrom_escaped_copy (isWord : IsReference word)
    (single : word.tail.all (!isSigil ·)) (after : List Char) :
    referencesFrom true (word ++ after) = references after := by
  have letters := isWord.inReference
  obtain ⟨sigil, others, rfl, _⟩ := isWord.exists_sigil
  have loose : ∀ c ∈ sigil :: others, c ≠ '\\' := by
    rintro c inside rfl
    exact absurd (letters '\\' inside) (by decide)
  rw [List.cons_append, referencesFrom_escaped (loose sigil List.mem_cons_self)]
  apply references_plain_append
  intro c inside
  have unsigned : isSigil c = false := by simpa using List.all_eq_true.mp single c inside
  simp [isPlain, unsigned, loose c (List.mem_cons_of_mem _ inside)]

theorem unjoined_of_escaped {sigil : Char} {rest : List Char} (escaped : isEscaped before)
    (isSigil : isSigil sigil) : Unjoined before (sigil :: rest) := by
  rintro head tail ⟨front, rfl⟩ leads some behind isReference
  obtain ⟨outer, outerSigil, rfl, _⟩ := isReference.across_sigil some behind leads isSigil
  rw [isEscaped_concat] at escaped
  have slash : outer = '\\' := by simp_all
  exact absurd (slash ▸ outerSigil) (by decide)

theorem unjoined_sigils {outer : Char} {rest : List Char} (isSigil : isSigil outer)
    (front : List Char) : Unjoined front (outer :: '$' :: rest) := by
  intro head tail _ leads some behind isReference
  obtain ⟨first, _, rfl, _⟩ := isReference.across_sigil some behind leads isSigil
  obtain ⟨second, tail, rfl⟩ := List.exists_cons_of_ne_nil behind
  obtain ⟨rfl, prefixed⟩ := List.cons_prefix_cons.mp leads
  obtain ⟨_, _, _, _, ends⟩ := @IsReference.inner_sigil _ [first] tail _ isReference rfl (by simp) isSigil
  obtain ⟨_, third, tail, shape⟩ := ends.exists_cons_cons
  obtain rfl := (List.cons.inj shape).2
  obtain ⟨rfl, _⟩ := List.cons_prefix_cons.mp prefixed
  exact absurd isReference.not_third_sigil (by decide)

theorem referencesFrom_single (escaped : Bool) (c : Char) : referencesFrom escaped [c] = [] := by
  have unread : match? [c] = none := by
    refine match?_eq_none_iff.mpr fun word isReference leads => ?_
    obtain ⟨first, second, rest, rfl⟩ := isReference.exists_cons_cons
    simpa using leads.length_le
  cases escaped <;> simp [referencesFrom, findFrom, unread]

/-- A sigil before a reference that it can lead is read as part of it. -/
theorem references_sigil_append {outer : Char} {tail longer rest : List Char}
    (isSigil : isSigil outer) (isReference : IsReference (outer :: tail)) (leads : tail <+: '$' :: rest)
    (read : references ('$' :: rest) = longer :: references after) :
    references (outer :: '$' :: rest) = (outer :: longer) :: references after := by
  cases found : match? (outer :: '$' :: rest) with
  | none =>
    have longer : outer :: tail <+: outer :: '$' :: rest := List.cons_prefix_cons.mpr ⟨rfl, leads⟩
    exact absurd longer (match?_eq_none_iff.mp found _ isReference)
  | some reference =>
    obtain ⟨reference, left⟩ := reference
    obtain ⟨inner, rfl, here⟩ := match?_behind_sigil isSigil found
    rw [references_of_some (find?_of_match? here)] at read
    obtain ⟨rfl, same⟩ := List.cons.inj read
    rw [references_of_some (find?_of_match? found), same]

/-- A sigil before a reference that it can lead goes into it, unless the sigil is escaped. -/
theorem exists_references_joined {outer : Char} {tail longer rest : List Char} (front : List Char)
    (isSigil : isSigil outer) (isReference : IsReference (outer :: tail)) (leads : tail <+: '$' :: rest)
    (read : references ('$' :: rest) = longer :: references after) :
    ∃ reference, longer <:+ reference ∧ references (front ++ outer :: '$' :: rest) =
      references (front ++ [outer]) ++ reference :: references after := by
  have apart := @unjoined_sigils outer rest isSigil front
  have alone : references (front ++ [outer]) = references front := by
    have lone := @Unjoined.of_append front [outer] ('$' :: rest) apart
    rw [references_unjoined lone, referencesFrom_single, List.append_nil]
  rw [references_unjoined apart, alone]
  cases isEscaped front with
  | true =>
    have loose : outer ≠ '\\' := by
      rintro rfl
      exact absurd isSigil (by decide)
    exact ⟨longer, List.suffix_rfl, by rw [referencesFrom_escaped loose, read]⟩
  | false =>
    refine ⟨outer :: longer, List.suffix_cons outer longer, ?_⟩
    rw [referencesFrom_false, references_sigil_append isSigil isReference leads read]

/-- A copy of a reference stands in one reference of the text or, escaped, in none. On both sides of
it the text is read as it is read alone. -/
theorem exists_references_around (isWord : IsReference word)
    (single : isEscaped before → word.tail.all (!isSigil ·)) :
    ∃ middle, references (before ++ (word ++ after)) =
        references before ++ (middle ++ references after) ∧
      ∀ reference ∈ middle, word <:+: reference := by
  obtain ⟨sigil, others, shape, isSigil⟩ := isWord.exists_sigil
  cases escaped : isEscaped before with
  | true =>
    have unjoined : Unjoined before (word ++ after) := by
      rw [shape, List.cons_append]
      exact unjoined_of_escaped escaped isSigil
    refine ⟨[], ?_, by simp⟩
    rw [references_unjoined unjoined, escaped, referencesFrom_escaped_copy isWord (single escaped),
      List.nil_append]
  | false =>
    obtain ⟨longer, leads, read⟩ := exists_references_leading isWord after
    by_cases unjoined : Unjoined before (word ++ after)
    · refine ⟨[longer], ?_, List.forall_mem_singleton.mpr leads.isInfix⟩
      rw [references_unjoined unjoined, escaped, referencesFrom_false, read, List.singleton_append]
    · -- Only a sigil right before the copy can take it into a reference that starts earlier.
      simp only [Unjoined, not_forall, not_not] at unjoined
      obtain ⟨head, tail, ⟨front, rfl⟩, across, some, behind, isReference⟩ := unjoined
      rw [shape, List.cons_append] at across
      obtain ⟨outer, outerSigil, rfl, rfl⟩ := isReference.across_sigil some behind across isSigil
      rw [shape, List.cons_append] at read
      obtain ⟨reference, holds, joined⟩ :=
        exists_references_joined front outerSigil isReference across read
      have inside := leads.isInfix.trans holds.isInfix
      refine ⟨[reference], ?_, List.forall_mem_singleton.mpr inside⟩
      rw [shape, List.append_assoc, List.singleton_append, List.cons_append, joined,
        List.singleton_append]

end Copies

section Removal

variable {word before after text : List Char}

/-- No copy of a reference starts inside another copy. -/
theorem IsReference.not_overlaps (isWord : IsReference word) {head tail : List Char}
    (shape : word = head ++ tail) (some : head ≠ []) (ends : tail ≠ []) :
    ¬ tail <+: word ++ after := by
  intro leads
  obtain ⟨sigil, others, lead, isSigil⟩ := isWord.exists_sigil
  have isReference : IsReference (head ++ tail) := shape ▸ isWord
  have start : tail <+: sigil :: (others ++ after) := by rwa [lead] at leads
  obtain ⟨outer, outerSigil, rfl, rfl⟩ := isReference.across_sigil some ends start isSigil
  obtain ⟨first, tail, rfl⟩ := List.exists_cons_of_ne_nil ends
  obtain ⟨rfl, _⟩ := List.cons_prefix_cons.mp start
  rw [shape] at leads
  exact unjoined_sigils outerSigil [outer] [outer] _ List.suffix_rfl leads some ends isReference

theorem erase_around (isWord : IsReference word) (before after : List Char) :
    Text.erase word (before ++ (word ++ after)) = Text.erase word before ++ Text.erase word after := by
  rcases erase_append_cases isWord.ne_nil before (word ++ after) with
    same | ⟨front, head, tail, left, _, across, shape, some, ends⟩
  · rw [same, erase_leading isWord.ne_nil]
  · exact absurd ⟨left, across.symm⟩ (isWord.not_overlaps shape some ends)

theorem exists_last_copy (some : word ≠ []) (inside : word <:+: text) :
    ∃ before after, text = before ++ (word ++ after) ∧ ¬ word <:+: after := by
  induction text with
  | nil => exact absurd (List.infix_nil.mp inside) some
  | cons c text ih =>
    by_cases later : word <:+: text
    · obtain ⟨before, after, rfl, last⟩ := ih later
      exact ⟨c :: before, after, rfl, last⟩
    · obtain ⟨after, shape⟩ := (List.infix_cons_iff.mp inside).resolve_right later
      refine ⟨[], after, shape.symm, fun further => later (further.trans ?_)⟩
      obtain ⟨first, others, rfl⟩ := List.exists_cons_of_ne_nil some
      exact ⟨others, [], by simp [← (List.cons.inj shape).2]⟩

/-- Induction over a text copy by copy, from its end. -/
theorem copies_induction {motive : List Char → Prop} (some : word ≠ [])
    (absent : ∀ text, ¬ word <:+: text → motive text)
    (copy : ∀ before after, ¬ word <:+: after → motive before → motive (before ++ (word ++ after)))
    (text : List Char) : motive text := by
  induction sized : text.length using Nat.strong_induction_on generalizing text with
  | _ size ih =>
    by_cases inside : word <:+: text
    · obtain ⟨before, after, rfl, last⟩ := exists_last_copy some inside
      have shorter : before.length < size := by
        have := List.length_pos_iff.mpr some
        simp only [List.length_append] at sized
        omega
      exact copy before after last (ih _ shorter before rfl)
    · exact absent text inside

end Removal

/-- The removal of a spelling changes nothing in how the rest of the text is read: what comes
together at its copies is apart, and no reference starts inside an escaped copy. -/
structure Quiet (text word : List Char) : Prop where
  apart : ∀ before after, text = before ++ (word ++ after) →
    Apart (Text.erase word before) (Text.erase word after)
  single : ∀ before after, text = before ++ (word ++ after) → isEscaped before →
    word.tail.all (!isSigil ·)

theorem quiet_iff {text word : List Char} :
    Quiet text word ↔ ∀ before ∈ text.inits, ∀ after ∈ text.tails, text = before ++ (word ++ after) →
      Apart (Text.erase word before) (Text.erase word after) ∧
        (isEscaped before → word.tail.all (!isSigil ·)) := by
  constructor
  · intro quiet before _ after _ shape
    exact ⟨quiet.apart before after shape, quiet.single before after shape⟩
  · intro every
    have copy : ∀ before after, text = before ++ (word ++ after) →
        before ∈ text.inits ∧ after ∈ text.tails := by
      rintro before after rfl
      rw [List.mem_inits, List.mem_tails]
      exact ⟨List.prefix_append _ _, by simp [← List.append_assoc]⟩
    constructor
    · intro before after shape
      exact (every before (copy _ _ shape).1 after (copy _ _ shape).2 shape).1
    · intro before after shape
      exact (every before (copy _ _ shape).1 after (copy _ _ shape).2 shape).2

instance (text word : List Char) : Decidable (Quiet text word) := decidable_of_iff _ quiet_iff.symm

/-- The spellings in which a word does not stand. -/
def lacking (word : List Char) (listed : List (List Char)) : List (List Char) :=
  listed.filter fun other => ¬ word <:+: other

section Quiet

variable {word before after text : List Char} {one two : List (List Char)}

theorem lacking_append : lacking word (one ++ two) = lacking word one ++ lacking word two :=
  List.filter_append ..

theorem lacking_eq_nil (held : ∀ other ∈ one, word <:+: other) : lacking word one = [] :=
  List.filter_eq_nil_iff.mpr fun other member => by simp [held other member]

theorem lacking_eq_self (free : ∀ other ∈ one, ¬ word <:+: other) : lacking word one = one :=
  List.filter_eq_self.mpr fun other member => by simp [free other member]

theorem infix_of_mem_references {reference : List Char} (read : reference ∈ references text) :
    reference <:+: text := by
  obtain ⟨before, after, rfl, _⟩ := exists_place_of_mem read
  exact ⟨before, after, by simp⟩

theorem lacking_references (absent : ¬ word <:+: text) :
    lacking word (references text) = references text :=
  lacking_eq_self fun _ read held => absent (held.trans (infix_of_mem_references read))

theorem Quiet.of_append (isWord : IsReference word) (quiet : Quiet (before ++ (word ++ after)) word) :
    Quiet before word := by
  constructor
  · rintro front back rfl
    have apart := quiet.apart front (back ++ (word ++ after)) (by simp)
    rw [erase_around isWord] at apart
    exact apart.of_append
  · rintro front back rfl
    exact quiet.single front (back ++ (word ++ after)) (by simp)

/-- A quiet removal takes away just the references that hold the removed spelling. -/
theorem references_erase (isWord : IsReference word) (quiet : Quiet text word) :
    references (Text.erase word text) = lacking word (references text) := by
  induction text using copies_induction isWord.ne_nil with
  | absent text absent => rw [erase_of_absent absent, lacking_references absent]
  | copy before after last ih =>
    have apart := quiet.apart before after rfl
    obtain ⟨middle, read, held⟩ :=
      @exists_references_around word before after isWord (quiet.single before after rfl)
    rw [erase_of_absent last] at apart
    rw [erase_around isWord, erase_of_absent last, references_apart apart, ih (quiet.of_append isWord),
      read, lacking_append, lacking_append, lacking_eq_nil held, lacking_references last,
      List.nil_append]

end Quiet

end QueryLint.Reference
