import QueryLint.Proofs.Reference.Loss

/-! Where the search stops. A reference starts at every sigil that is not escaped and leads a word
of the grammar. The search passes over no start, stops at the first one, and takes the longest
word there. A reference that stands alone is taken whole. -/
namespace QueryLint.Reference

section Reader

variable {text word : List Char}

/-- The reader fails just where no reference leads the text. -/
theorem match?_eq_none_iff :
    match? text = none ↔ ∀ word, IsReference word → ¬ word <+: text := by
  constructor
  · rintro unread word isReference ⟨rest, rfl⟩
    obtain ⟨further, left, read⟩ := match?_append_rest isReference rest
    rw [unread] at read
    contradiction
  · intro absent
    cases read : match? text with
    | none => rfl
    | some found =>
      have leads : found.1 <+: text := ⟨found.2, match?_append read⟩
      exact absurd leads (absent found.1 (match?_isReference read))

theorem isReference_iff : IsReference word ↔ match? word = some (word, []) := by
  constructor
  · intro isReference
    obtain ⟨further, left, read⟩ := match?_append_rest isReference []
    have whole := match?_append read
    obtain ⟨rfl, rfl⟩ : further = [] ∧ left = [] := by simpa using whole
    simpa using read
  · exact match?_isReference

instance : DecidablePred IsReference := fun word =>
  decidable_of_iff (match? word = some (word, [])) isReference_iff.symm

end Reader

section Search

variable {front text : List Char} {found : Occurrence}

/-- Nothing can be read at a place that the search has passed and that is not escaped. -/
theorem findFrom_passes {i : Nat}
    (passed : ∀ found ∈ findFrom (isEscaped front) text, i < found.before.length)
    (free : isEscaped (front ++ text.take i) = false) : match? (text.drop i) = none := by
  induction text generalizing front i with
  | nil =>
    rw [List.drop_nil]
    rfl
  | cons c text ih =>
    rw [findFrom] at passed
    cases i with
    | zero =>
      rw [List.take_zero, List.append_nil] at free
      rw [free, if_neg (by simp)] at passed
      cases read : match? (c :: text) with
      | none => exact read
      | some word =>
        rw [read] at passed
        exact absurd (passed _ rfl) (Nat.not_lt_zero 0)
    | succ i =>
      rw [List.drop_succ_cons]
      refine @ih (front ++ [c]) i (fun found later => ?_) (by simpa using free)
      rw [isEscaped_concat] at later
      split at passed
      · exact absurd (passed _ rfl) (Nat.not_lt_zero _)
      · have behind := passed _ (Option.mem_map_of_mem _ later)
        exact Nat.lt_of_succ_lt_succ behind

theorem findFrom_free (search : findFrom (isEscaped front) text = some found) :
    isEscaped (front ++ found.before) = false := by
  induction text generalizing front found with
  | nil => simp [findFrom] at search
  | cons c text ih =>
    rw [findFrom] at search
    split at search
    · rename_i word after here
      obtain rfl := Option.some.inj search
      rw [List.append_nil]
      by_contra escaped
      simp [escaped] at here
    · obtain ⟨later, behind, rfl⟩ := Option.map_eq_some_iff.mp search
      rw [← isEscaped_concat] at behind
      simpa using ih behind

theorem find?_of_match? {word after : List Char} (read : match? text = some (word, after)) :
    find? text = some ⟨[], word, after⟩ := by
  cases text with
  | nil => simp [match?] at read
  | cons c text => rw [find?, findFrom, if_neg (by simp), read]

end Search

/-- A character that starts no reference and escapes none. -/
def isPlain (c : Char) : Bool := !isSigil c && c != '\\'

/-- The search goes on behind plain characters as if they were not there. -/
theorem find?_plain_append {lead : List Char} (plain : ∀ c ∈ lead, isPlain c) (rest : List Char) :
    find? (lead ++ rest) =
      (find? rest).map fun found => { found with before := lead ++ found.before } := by
  induction lead with
  | nil => simp
  | cons c lead ih =>
    obtain ⟨here, later⟩ := List.forall_mem_cons.mp plain
    have ⟨unsigned, loose⟩ : isSigil c = false ∧ (c == '\\') = false := by
      simpa [isPlain] using here
    have unread : match? (c :: (lead ++ rest)) = none := by simp [match?, unsigned]
    rw [find?, List.cons_append, findFrom, if_neg (by simp), unread, loose, Bool.false_and]
    rw [show findFrom false (lead ++ rest) = find? (lead ++ rest) from rfl, ih later]
    simp [Option.map_map, Function.comp_def]

/-- A place of the text where a reference starts: a sigil behind an even number of backslashes
that leads a word of the grammar. -/
structure IsStart (text : List Char) (place : Nat) : Prop where
  sigil : ∃ c, text[place]? = some c ∧ isSigil c
  free : isEscaped (text.take place) = false
  leads : ∃ word, IsReference word ∧ word <+: text.drop place

section Starts

variable {text : List Char} {place : Nat} {found : Occurrence}

theorem isStart_iff :
    IsStart text place ↔ isEscaped (text.take place) = false ∧ (match? (text.drop place)).isSome := by
  constructor
  · rintro ⟨_, free, word, isReference, leads⟩
    refine ⟨free, Option.isSome_iff_ne_none.mpr fun unread => ?_⟩
    exact match?_eq_none_iff.mp unread word isReference leads
  · rintro ⟨free, read⟩
    obtain ⟨⟨word, rest⟩, read⟩ := Option.isSome_iff_exists.mp read
    have isReference := match?_isReference read
    obtain ⟨sigil, others, rfl, isSigil⟩ := isReference.exists_sigil
    have whole := match?_append read
    refine ⟨⟨sigil, ?_, isSigil⟩, free, _, isReference, rest, whole⟩
    rw [← Nat.add_zero place, ← List.getElem?_drop, ← whole]
    rfl

instance : Decidable (IsStart text place) := decidable_of_iff _ isStart_iff.symm

/-- The search stops at a start. -/
theorem find?_isStart (search : find? text = some found) : IsStart text found.before.length := by
  have whole := find?_append search
  rw [List.append_assoc] at whole
  have free := @findFrom_free [] text found search
  rw [isStart_iff, whole, List.take_left, List.drop_left, findFrom_match? search]
  exact ⟨free, rfl⟩

/-- The search passes over no start. -/
theorem not_isStart_of_passed (passed : ∀ found ∈ find? text, place < found.before.length) :
    ¬ IsStart text place := by
  intro start
  obtain ⟨free, read⟩ := isStart_iff.mp start
  have unread := @findFrom_passes [] text place passed (by simpa using free)
  rw [unread] at read
  contradiction

theorem find?_eq_none_iff : find? text = none ↔ ∀ place, ¬ IsStart text place := by
  constructor
  · intro absent place
    exact not_isStart_of_passed (by simp [absent])
  · intro startless
    cases search : find? text with
    | none => rfl
    | some found => exact absurd (find?_isStart search) (startless _)

end Starts

theorem extract_of_none {text : List Char} (none : find? text = none) : extract text = [] := by
  rw [extract.eq_def]
  split <;> simp_all

theorem extract_of_some {text : List Char} {found : Occurrence} (search : find? text = some found) :
    extract text = found.word :: extract (Text.erase found.word text) := by
  rw [extract.eq_def]
  split <;> simp_all

/-- Nothing is extracted just where no reference starts; otherwise the first spelling is the
longest reference at the first start. -/
theorem extract_leftmost_longest (text : List Char) :
    (extract text = [] ↔ ∀ place, ¬ IsStart text place) ∧
    ∀ place, IsStart text place → (∀ earlier < place, ¬ IsStart text earlier) →
      ∃ word others, extract text = word :: others ∧
        IsReference word ∧ word <+: text.drop place ∧
        ∀ other, IsReference other → other <+: text.drop place → other.length ≤ word.length := by
  constructor
  · rw [← find?_eq_none_iff]
    constructor
    · intro empty
      cases search : find? text with
      | none => rfl
      | some found => simp [extract_of_some search] at empty
    · exact extract_of_none
  · intro place start least
    cases search : find? text with
    | none => exact absurd start (find?_eq_none_iff.mp search place)
    | some found =>
      have here : place = found.before.length := by
        rcases Nat.lt_trichotomy place found.before.length with before | same | behind
        · refine absurd start (not_isStart_of_passed ?_)
          simpa [search] using before
        · exact same
        · exact absurd (find?_isStart search) (least _ behind)
      have rest : text.drop place = found.word ++ found.after := by
        rw [here, find?_append search, List.append_assoc, List.drop_left]
      have read := findFrom_match? search
      refine ⟨_, _, extract_of_some search, match?_isReference read, ?_, ?_⟩
      · exact ⟨found.after, rest.symm⟩
      · intro other isReference leads
        exact (prefix_of_match? isReference (rest ▸ leads) read).length_le

/-- An escaped sigil, a sigil too many, three colons and a broken subscript. -/
def brokenText : List Char := "\\$b $$$x:::[k\x7d".toList

theorem brokenText_leads :
    IsStart brokenText 5 ∧ (∀ earlier < 5, ¬ IsStart brokenText earlier) ∧
    ∃ others, extract brokenText = "$$x::".toList :: others := by
  have start : IsStart brokenText 5 := by decide +kernel
  have least : ∀ earlier < 5, ¬ IsStart brokenText earlier := by decide +kernel
  obtain ⟨word, others, first, isReference, leads, longest⟩ :=
    (extract_leftmost_longest brokenText).2 5 start least
  have rest : brokenText.drop 5 = "$$x::".toList ++ ":[k\x7d".toList := by decide
  have read : match? (brokenText.drop 5) = some ("$$x::".toList, ":[k\x7d".toList) := by
    decide +kernel
  have known := longest "$$x::".toList (by decide +kernel) ⟨_, rest.symm⟩
  have short := prefix_of_match? isReference leads read
  refine ⟨start, least, others, ?_⟩
  rw [first, short.eq_of_length_le known]

section Alone

variable {word : List Char}

/-- The references are the texts that are extracted whole and leave nothing behind. -/
theorem extract_eq_singleton_iff : extract word = [word] ↔ IsReference word := by
  constructor
  · intro whole
    have listed : word ∈ extract word := by simp [whole]
    exact extract_isReference listed
  · intro isReference
    have search := find?_of_match? (isReference_iff.mp isReference)
    have gone : Text.erase word word = [] := by
      have leading := erase_leading isReference.ne_nil []
      rwa [List.append_nil, Text.erase] at leading
    rw [extract_of_some search, gone, extract_of_none rfl]

/-- An extracted spelling is extracted again from a text that consists of nothing else, whatever
stood around it or was removed before it. -/
theorem spellings_stable (text : String) :
    ∀ spelling ∈ spellings text, spellings spelling = [spelling] := by
  intro spelling listed
  obtain ⟨word, extracted, rfl⟩ := List.mem_map.mp listed
  have whole := extract_eq_singleton_iff.mpr (extract_isReference extracted)
  simp [spellings, whole]

/-- The second reference comes about by the removal of the first one. -/
def splitText : String := "$x @$x$h::k->\x7b\x27a\x22\x7d[0]:$x[]"

theorem splitText_stable :
    "@$h::k->\x7b\x27a\x22\x7d[0]" ∈ spellings splitText ∧
    spellings "@$h::k->\x7b\x27a\x22\x7d[0]" = ["@$h::k->\x7b\x27a\x22\x7d[0]"] := by
  have listed : "@$h::k->\x7b\x27a\x22\x7d[0]" ∈ spellings splitText := by decide +kernel
  exact ⟨listed, spellings_stable splitText _ listed⟩

end Alone

end QueryLint.Reference
