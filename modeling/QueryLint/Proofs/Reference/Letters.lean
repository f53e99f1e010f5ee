import QueryLint.Proofs.Reference.Grammar
import QueryLint.Text.Blank

/-! The characters of references: word characters and a few marks. No separator of a list and
no parenthesis is among them. -/
namespace QueryLint

namespace Text

/-- The numbers of the blank characters. -/
def blanks : List Nat :=
  List.range' 0x9 5 ++ List.range' 0x1C 5 ++ List.range' 0x2000 11 ++
    [0x85, 0xA0, 0x1680, 0x2028, 0x2029, 0x202F, 0x205F, 0x3000]

theorem mem_blanks {c : Char} (blank : isBlank c) : c.toNat ∈ blanks := by
  simp only [isBlank, Bool.or_eq_true, Bool.and_eq_true, decide_eq_true_eq, beq_iff_eq] at blank
  simp only [blanks, List.mem_append, List.mem_range'_1, List.mem_cons, List.not_mem_nil, or_false]
  rcases blank with (((((((((control | separator) | next) | fixed) | ogham) | spaces) | line) |
    paragraph) | narrow) | mathematical) | ideographic <;> omega

theorem isWord_ofNat_blank : ∀ n ∈ blanks, isWord (Char.ofNat n) = false := by
  decide +kernel

theorem isWord_of_isBlank {c : Char} (blank : isBlank c) : isWord c = false := by
  have known := isWord_ofNat_blank c.toNat (mem_blanks blank)
  rwa [Char.ofNat_toNat] at known

theorem isWord_of_isSeparator {c : Char} (separator : isSeparator c) : isWord c = false := by
  rcases Bool.or_eq_true _ _ ▸ separator with blank | comma
  · exact isWord_of_isBlank blank
  · rw [beq_iff_eq.mp comma]
    decide

end Text

namespace Reference

/-- The marks that references are written with, besides word characters. -/
def marks : List Char := ['$', '@', ':', '-', '>', '\x7b', '\x7d', '[', ']', '\x27', '\x22']

def inReference (c : Char) : Bool := Text.isWord c || marks.contains c

theorem inReference_of_isWord {c : Char} (word : Text.isWord c) : inReference c := by
  simp [inReference, word]

theorem inReference_of_mark {c : Char} (mark : c ∈ marks) : inReference c := by
  simp [inReference, mark]

theorem isSeparator_of_inReference {c : Char} (inside : inReference c) :
    Text.isSeparator c = false := by
  rcases Bool.or_eq_true _ _ ▸ inside with word | mark
  · refine Bool.eq_false_iff.mpr fun separator => ?_
    simp [Text.isWord_of_isSeparator separator] at word
  · have plain : marks.all fun c => !Text.isSeparator c := by decide
    simpa using List.all_eq_true.mp plain c (List.contains_iff_mem.mp mark)

theorem ne_parenthesis_of_inReference {c : Char} (inside : inReference c) : c ≠ ')' := by
  rintro rfl
  revert inside
  decide

/-- The marks that can stand behind the sigils of a reference. -/
def innerMarks : List Char := [':', '-', '>', '\x7b', '\x7d', '[', ']', '\x27', '\x22']

/-- A character of the name or of a subscript. -/
def isInner (c : Char) : Bool := Text.isWord c || innerMarks.contains c

theorem isInner_of_isWord {c : Char} (word : Text.isWord c) : isInner c := by
  simp [isInner, word]

theorem isInner_of_mark {c : Char} (mark : c ∈ innerMarks) : isInner c := by
  simp [isInner, mark]

theorem inReference_of_isInner {c : Char} (inner : isInner c) : inReference c := by
  rcases Bool.or_eq_true _ _ ▸ inner with word | mark
  · exact inReference_of_isWord word
  · have known : innerMarks ⊆ marks := by decide
    exact inReference_of_mark (known (List.contains_iff_mem.mp mark))

theorem not_isSigil_of_isInner {c : Char} (inner : isInner c) : isSigil c = false := by
  refine Bool.eq_false_iff.mpr fun sigil => ?_
  rcases Bool.or_eq_true _ _ ▸ sigil with dollar | snail
  · exact absurd (beq_iff_eq.mp dollar ▸ inner) (by decide)
  · exact absurd (beq_iff_eq.mp snail ▸ inner) (by decide)

section Grammar

variable {text key run name quote index more reference : List Char}

theorem IsKey.isInner (isKey : IsKey key) : ∀ c ∈ key, isInner c :=
  fun c inside => isInner_of_isWord (isKey.letters c inside)

theorem NameRun.isInner (isRun : NameRun run) : ∀ c ∈ run, isInner c := by
  induction isRun with
  | nil => simp
  | letter word _ ih => exact List.forall_mem_cons.mpr ⟨isInner_of_isWord word, ih⟩
  | colons _ ih =>
    have colon : Reference.isInner ':' := isInner_of_mark (by decide)
    exact List.forall_mem_cons.mpr ⟨colon, List.forall_mem_cons.mpr ⟨colon, ih⟩⟩

/-- A pair of marks around inner characters. -/
theorem isInner_enclosed {first last : Char} (opening : first ∈ innerMarks)
    (closing : last ∈ innerMarks) (inner : ∀ c ∈ key, isInner c) :
    ∀ c ∈ first :: (key ++ [last]), isInner c := by
  intro c inside
  rcases List.mem_cons.mp inside with rfl | inside
  · exact isInner_of_mark opening
  · rcases List.mem_append.mp inside with inside | inside
    · exact inner c inside
    · rw [List.mem_singleton.mp inside]
      exact isInner_of_mark closing

theorem IsName.isInner (isName : IsName name) : ∀ c ∈ name, isInner c := by
  cases isName with
  | braced isKey => exact isInner_enclosed (by decide) (by decide) isKey.isInner
  | bracedColons =>
    have inner := (NameRun.colons .nil).isInner
    exact isInner_enclosed (by decide) (by decide) inner
  | bare _ isRun => exact isRun.isInner

theorem IsQuoteOption.isInner (isQuote : IsQuoteOption quote) : ∀ c ∈ quote, isInner c := by
  intro c inside
  cases quote with
  | nil => simp at inside
  | cons first rest =>
    obtain ⟨mark, rfl⟩ := isQuote first rest rfl
    rw [List.mem_singleton.mp inside]
    rcases Bool.or_eq_true _ _ ▸ mark with single | double
    · exact isInner_of_mark (by rw [beq_iff_eq.mp single]; decide)
    · exact isInner_of_mark (by rw [beq_iff_eq.mp double]; decide)

theorem IsIndex.isInner (isIndex : IsIndex index) : ∀ c ∈ index, isInner c := by
  obtain ⟨left, isKey, right⟩ := isIndex
  intro c inside
  simp only [List.mem_append] at inside
  rcases inside with (inside | inside) | inside
  · exact left.isInner c inside
  · exact isKey.isInner c inside
  · exact right.isInner c inside

theorem IsBracketed.isInner (isBracketed : IsBracketed index) : ∀ c ∈ index, isInner c := by
  cases isBracketed with
  | braces isIndex => exact isInner_enclosed (by decide) (by decide) isIndex.isInner
  | square isIndex => exact isInner_enclosed (by decide) (by decide) isIndex.isInner

theorem IsSubscript.isInner (isSubscript : IsSubscript index) : ∀ c ∈ index, isInner c := by
  cases isSubscript with
  | plain isBracketed => exact isBracketed.isInner
  | arrow isBracketed =>
    exact List.forall_mem_cons.mpr ⟨isInner_of_mark (by decide),
      List.forall_mem_cons.mpr ⟨isInner_of_mark (by decide), isBracketed.isInner⟩⟩

theorem Subscripts.isInner (subscripts : Subscripts more) : ∀ c ∈ more, isInner c := by
  induction subscripts with
  | nil => simp
  | cons isSubscript _ ih =>
    exact List.forall_mem_append.mpr ⟨isSubscript.isInner, ih⟩

theorem inReference_of_isSigil {c : Char} (sigil : isSigil c) : inReference c := by
  rcases Bool.or_eq_true _ _ ▸ sigil with dollar | snail
  · exact inReference_of_mark (by rw [beq_iff_eq.mp dollar]; decide)
  · exact inReference_of_mark (by rw [beq_iff_eq.mp snail]; decide)

/-- Behind its sigils a reference holds inner characters only. -/
theorem IsReference.shape (isReference : IsReference reference) :
    ∃ sigil mark tail, reference = sigil :: (mark ++ tail) ∧ isSigil sigil ∧
      (mark = [] ∨ mark = ['$']) ∧ ∀ c ∈ tail, isInner c := by
  cases isReference with
  | @plain sigil name more leads isName subscripts =>
    have inner := List.forall_mem_append.mpr ⟨isName.isInner, subscripts.isInner⟩
    exact ⟨sigil, [], name ++ more, rfl, leads, .inl rfl, inner⟩
  | @dereference sigil name more leads isName subscripts =>
    have inner := List.forall_mem_append.mpr ⟨isName.isInner, subscripts.isInner⟩
    exact ⟨sigil, ['$'], name ++ more, rfl, leads, .inr rfl, inner⟩

/-- A reference holds word characters and marks only. -/
theorem IsReference.inReference (isReference : IsReference reference) :
    ∀ c ∈ reference, inReference c := by
  obtain ⟨sigil, mark, tail, rfl, leads, marked, inner⟩ := isReference.shape
  refine List.forall_mem_cons.mpr ⟨inReference_of_isSigil leads, List.forall_mem_append.mpr ⟨?_, ?_⟩⟩
  · rcases marked with rfl | rfl
    · simp
    · exact List.forall_mem_singleton.mpr (inReference_of_mark (by decide))
  · exact fun c inside => inReference_of_isInner (inner c inside)

theorem IsReference.ne_nil (isReference : IsReference reference) : reference ≠ [] := by
  cases isReference <;> simp

end Grammar

end Reference

end QueryLint
