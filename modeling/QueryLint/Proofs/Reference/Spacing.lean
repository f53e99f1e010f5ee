import QueryLint.Proofs.Reference.Leftmost

/-! Texts whose references stand apart. Between two of them is text without sigils and backslashes
that starts with a character no reference goes on with. Taking a reference out of such a text
everywhere joins the gaps around its copies and leaves a text of the same kind, so the extraction
lists every reference once, in order. -/
namespace QueryLint.Reference

/-- A character that ends any reference before it. -/
def endsReference (c : Char) : Bool := !Text.isWord c && !List.contains [':', '-', '\x7b', '['] c

section Ends

variable {name more reference rest : List Char}

theorem endsReference_iff {c : Char} : endsReference c ↔
    Text.isWord c = false ∧ c ≠ ':' ∧ c ≠ '-' ∧ c ≠ '\x7b' ∧ c ≠ '[' := by
  simp [endsReference]

theorem bareName_of_ends (ends : ∀ c ∈ rest.head?, endsReference c) :
    bareName rest = ([], rest) := by
  cases rest with
  | nil => rfl
  | cons c rest =>
    obtain ⟨plain, colon, _⟩ := endsReference_iff.mp (ends c rfl)
    rw [bareName.eq_3 _ _ (fun _ same _ => colon same), plain, if_neg (by simp)]

theorem subscripts_of_ends (ends : ∀ c ∈ rest.head?, endsReference c) :
    subscripts rest = ([], rest) := by
  apply subscripts_of_none
  cases rest with
  | nil => rfl
  | cons c rest =>
    obtain ⟨_, _, dash, brace, bracket⟩ := endsReference_iff.mp (ends c rfl)
    simp [subscript?, bracketed?, dash, brace, bracket]

theorem name?_of_ends (isName : IsName name) (isSubscripts : Subscripts more)
    (ends : ∀ c ∈ rest.head?, endsReference c) :
    name? (name ++ more ++ rest) = some (name, more ++ rest) := by
  rw [List.append_assoc]
  obtain ⟨further, left, read, stops⟩ := name?_append_rest isName (more ++ rest)
  have closed : (bareName (more ++ rest)).1 = [] := by
    by_cases none : more = []
    · rw [none, List.nil_append, bareName_of_ends ends]
    · rw [bareName_subscripts isSubscripts none]
  obtain rfl := stops closed
  rw [List.append_nil] at read
  rw [read, List.append_cancel_left (name?_append read)]

/-- A reference is read to its end where the text behind it cannot continue it. -/
theorem match?_of_ends (isReference : IsReference reference)
    (ends : ∀ c ∈ rest.head?, endsReference c) :
    match? (reference ++ rest) = some (reference, rest) := by
  have last := subscripts_of_ends ends
  cases isReference with
  | @plain sigil name more leads isName isSubscripts =>
    have direct := isName.dereference_append (more ++ rest)
    rw [← List.append_assoc] at direct
    rw [List.cons_append, match?_sigil leads, direct, name?_of_ends isName isSubscripts ends]
    simp [subscripts_append_rest isSubscripts, last]
  | @dereference sigil name more leads isName isSubscripts =>
    rw [List.cons_append, List.cons_append, match?_sigil leads, dereference,
      name?_of_ends isName isSubscripts ends]
    simp [subscripts_append_rest isSubscripts, last]

end Ends

/-- A reference and the text behind it, up to the next one. -/
structure Segment where
  word : List Char
  gap : List Char

def assemble (lead : List Char) : List Segment → List Char
  | [] => lead
  | segment :: segments => lead ++ (segment.word ++ assemble segment.gap segments)

structure IsGap (gap : List Char) : Prop where
  plain : ∀ c ∈ gap, isPlain c
  ends : ∀ c ∈ gap.head?, endsReference c

/-- The references stand apart: only the last gap may be empty. -/
inductive Spaced : List Segment → Prop where
  | nil : Spaced []
  | cons {segment : Segment} {segments : List Segment} : IsReference segment.word →
      IsGap segment.gap → (segment.gap = [] → segments = []) → Spaced segments →
      Spaced (segment :: segments)

/-- The segments without those of one word. The gap behind a dropped one goes to the text before
it. -/
def without (word lead : List Char) : List Segment → List Char × List Segment
  | [] => (lead, [])
  | segment :: segments =>
    let (gap, kept) := without word segment.gap segments
    if segment.word = word then (lead ++ gap, kept) else (lead, ⟨segment.word, gap⟩ :: kept)

section Without

variable {word lead : List Char} {segment : Segment} {segments : List Segment}

theorem without_same (same : segment.word = word) :
    without word lead (segment :: segments) =
      (lead ++ (without word segment.gap segments).1, (without word segment.gap segments).2) := by
  simp [without, same]

theorem without_other (other : segment.word ≠ word) :
    without word lead (segment :: segments) =
      (lead, ⟨segment.word, (without word segment.gap segments).1⟩ ::
        (without word segment.gap segments).2) := by
  simp [without, other]

theorem prefix_without (word lead : List Char) (segments : List Segment) :
    lead <+: (without word lead segments).1 := by
  cases segments with
  | nil => exact List.prefix_rfl
  | cons segment segments =>
    by_cases same : segment.word = word
    · rw [without_same same]
      exact List.prefix_append lead _
    · simp [without_other same]

theorem words_without (word lead : List Char) (segments : List Segment) :
    (without word lead segments).2.map Segment.word =
      (segments.map Segment.word).filter fun other => !other == word := by
  induction segments generalizing lead with
  | nil => rfl
  | cons segment segments ih =>
    by_cases same : segment.word = word
    · rw [without_same same, ih, List.map_cons, List.filter_cons_of_neg (by simp [same])]
    · rw [without_other same, List.map_cons, ih, List.map_cons,
        List.filter_cons_of_pos (by simp [same])]

theorem exists_of_mem_without (member : segment ∈ (without word lead segments).2) :
    ∃ other ∈ segments, other.word = segment.word := by
  have listed : segment.word ∈ (without word lead segments).2.map Segment.word :=
    List.mem_map_of_mem member
  rw [words_without] at listed
  exact List.mem_map.mp (List.mem_filter.mp listed).1

theorem plain_without (plain : ∀ c ∈ lead, isPlain c) (spaced : Spaced segments) :
    ∀ c ∈ (without word lead segments).1, isPlain c := by
  induction spaced generalizing lead with
  | nil => exact plain
  | @cons segment segments _ isGap _ _ ih =>
    by_cases same : segment.word = word
    · rw [without_same same]
      exact List.forall_mem_append.mpr ⟨plain, ih isGap.plain⟩
    · rw [without_other same]
      exact plain

theorem spaced_without (spaced : Spaced segments) : Spaced (without word lead segments).2 := by
  induction spaced generalizing lead with
  | nil => exact .nil
  | @cons segment segments isReference isGap wide spaced ih =>
    by_cases same : segment.word = word
    · rw [without_same same]
      exact ih
    · rw [without_other same]
      -- The gap grows at its end only, and not at all behind the last reference.
      obtain ⟨more, grown⟩ := prefix_without word segment.gap segments
      have ends : ∀ c ∈ (without word segment.gap segments).1.head?, endsReference c := by
        cases shape : segment.gap with
        | nil =>
          rw [wide shape]
          simp [without]
        | cons first gap =>
          rw [← shape, ← grown, shape, List.cons_append]
          exact fun c here => isGap.ends c (by rw [shape]; exact here)
      refine .cons isReference ⟨plain_without isGap.plain spaced, ends⟩ (fun empty => ?_) ih
      have last : segment.gap = [] := List.prefix_nil.mp (empty ▸ prefix_without _ _ _)
      rw [wide last]
      rfl

end Without

section Extraction

variable {word lead gap : List Char} {segments : List Segment}

/-- A reference that stands apart is read as it is. -/
theorem match?_assemble (isReference : IsReference word) (isGap : IsGap gap)
    (wide : gap = [] → segments = []) :
    match? (word ++ assemble gap segments) = some (word, assemble gap segments) := by
  refine match?_of_ends isReference fun c here => isGap.ends c ?_
  cases gap with
  | nil =>
    rw [wide rfl] at here
    exact here
  | cons first gap =>
    cases segments with
    | nil => exact here
    | cons segment segments => exact here

theorem find?_assemble {segment : Segment} (plain : ∀ c ∈ lead, isPlain c)
    (spaced : Spaced (segment :: segments)) :
    find? (assemble lead (segment :: segments)) =
      some ⟨lead, segment.word, assemble segment.gap segments⟩ := by
  obtain _ | ⟨isReference, isGap, wide, _⟩ := spaced
  have search := find?_of_match? (match?_assemble isReference isGap wide)
  rw [assemble, find?_plain_append plain, search]
  simp

theorem find?_assemble_nil (plain : ∀ c ∈ lead, isPlain c) : find? (assemble lead []) = none := by
  have search := find?_plain_append plain []
  rwa [List.append_nil] at search

/-- No copy of a reference starts in plain text. -/
theorem erase_plain_append (isWord : IsReference word) (plain : ∀ c ∈ lead, isPlain c)
    (rest : List Char) : Text.erase word (lead ++ rest) = lead ++ Text.erase word rest := by
  apply erase_unstarted
  rintro front back rfl some ⟨tail, leads⟩
  obtain ⟨first, back, rfl⟩ := List.exists_cons_of_ne_nil some
  obtain ⟨sigil, others, rfl, isSigil⟩ := isWord.exists_sigil
  obtain ⟨rfl, _⟩ := List.cons.inj leads
  have here := plain sigil (by simp)
  simp [isPlain, isSigil] at here

/-- Taking a reference out everywhere drops its segments and changes no other one. -/
theorem erase_assemble (isWord : IsReference word) (plain : ∀ c ∈ lead, isPlain c)
    (spaced : Spaced segments)
    (apart : ∀ segment ∈ segments, word <:+: segment.word → word = segment.word) :
    Text.erase word (assemble lead segments) =
      assemble (without word lead segments).1 (without word lead segments).2 := by
  induction spaced generalizing lead with
  | nil =>
    have alone := erase_plain_append isWord plain []
    simpa [assemble, without, Text.erase] using alone
  | @cons segment segments isReference isGap wide _ ih =>
    obtain ⟨here, later⟩ := List.forall_mem_cons.mp apart
    have rest := ih isGap.plain later
    rw [assemble, erase_plain_append isWord plain]
    by_cases same : segment.word = word
    · rw [without_same same, same, erase_leading isWord.ne_nil, rest]
      cases (without word segment.gap segments).2 <;> simp [assemble]
    · have read := match?_assemble isReference isGap wide
      have absent : ¬ word <:+: segment.word := fun inside => same (here inside).symm
      rw [without_other same, erase_unstarted (unstarted_of_match? isWord read absent), rest]
      rfl

end Extraction

/-- Of references that stand apart, none a proper part of another, each is extracted once, in the
order of their first copies. -/
theorem extract_assemble {lead : List Char} {segments : List Segment}
    (plain : ∀ c ∈ lead, isPlain c) (spaced : Spaced segments)
    (apart : ∀ one ∈ segments, ∀ other ∈ segments, one.word <:+: other.word →
      one.word = other.word) :
    extract (assemble lead segments) = (segments.map Segment.word).eraseDups := by
  induction sized : segments.length using Nat.strong_induction_on generalizing lead segments with
  | _ size ih =>
    cases segments with
    | nil => rw [extract_of_none (find?_assemble_nil plain)]; rfl
    | cons segment segments =>
      have isWord : IsReference segment.word := by
        obtain _ | ⟨isReference⟩ := spaced
        exact isReference
      have words := words_without segment.word lead (segment :: segments)
      rw [List.map_cons, List.filter_cons_of_neg (by simp)] at words
      rw [extract_of_some (find?_assemble plain spaced),
        erase_assemble isWord plain spaced (apart segment List.mem_cons_self),
        List.map_cons, List.eraseDups_cons, ← words]
      have fewer : (without segment.word lead (segment :: segments)).2.length < size := by
        have counted := congrArg List.length words
        have bound := List.length_filter_le (fun other => !other == segment.word)
          (segments.map Segment.word)
        simp only [List.length_map, List.length_cons] at counted bound sized
        omega
      rw [ih _ fewer (plain_without plain spaced) (spaced_without spaced) ?_ rfl]
      intro one first other second inside
      obtain ⟨one, first, same⟩ := exists_of_mem_without first
      obtain ⟨other, second, alike⟩ := exists_of_mem_without second
      rw [← same, ← alike] at inside ⊢
      exact apart one first other second inside

/-- A quoted reference, one with two sigils and one that is repeated at the end of the text. -/
def spacedSegments : List Segment :=
  [⟨"$$h->\x7b\x27k\x27\x7d[0]".toList, "\x27, ".toList⟩, ⟨"@::ids".toList, ") ".toList⟩,
    ⟨"$$h->\x7b\x27k\x27\x7d[0]".toList, "\x7d\x7d".toList⟩, ⟨"$\x7bx\x7d".toList, []⟩]

theorem spacedSegments_spaced : Spaced spacedSegments := by
  have isGap : ∀ gap : List Char, (gap.all isPlain && gap.head?.all endsReference) = true →
      IsGap gap := by
    intro gap both
    obtain ⟨plain, ends⟩ := Bool.and_eq_true_iff.mp both
    exact ⟨List.all_eq_true.mp plain, fun c here => by simpa [Option.mem_def.mp here] using ends⟩
  refine .cons ?_ (isGap _ ?_) ?_ (.cons ?_ (isGap _ ?_) ?_ (.cons ?_ (isGap _ ?_) ?_
    (.cons ?_ (isGap _ ?_) ?_ .nil))) <;> decide +kernel

theorem spacedSegments_extract :
    Spaced spacedSegments ∧
    (∀ one ∈ spacedSegments, ∀ other ∈ spacedSegments, one.word <:+: other.word →
      one.word = other.word) ∧
    extract (assemble "IN (\x27".toList spacedSegments) =
      ["$$h->\x7b\x27k\x27\x7d[0]".toList, "@::ids".toList, "$\x7bx\x7d".toList] := by
  have plain : ("IN (\x27".toList.all isPlain) = true := by decide
  have apart : ∀ one ∈ spacedSegments, ∀ other ∈ spacedSegments, one.word <:+: other.word →
      one.word = other.word := by
    decide +kernel
  refine ⟨spacedSegments_spaced, apart, ?_⟩
  rw [extract_assemble (List.all_eq_true.mp plain) spacedSegments_spaced apart]
  decide +kernel

end QueryLint.Reference
