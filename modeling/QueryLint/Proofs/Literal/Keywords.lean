import Mathlib.Data.List.Forall2
import QueryLint.Literal
import QueryLint.Proofs.Text.Readers

/-! Which tokens start the scan of a statement: the literals in whose text a keyword of a query
stands as a word of its own. The lines of a block literal are joined before the search, so a
keyword may run across them, and the start of the next line may make it part of a longer word. -/
namespace QueryLint

namespace Text

/-- The forms of a small letter that count as the same letter in any case. Two letters have forms
beyond the usual two: the long s, and the dotted capital and the dotless small i. -/
inductive CaseForm : Char → Char → Prop where
  | small {letter : Char} : CaseForm letter letter
  | capital {letter : Char} : CaseForm letter letter.toUpper
  | longS : CaseForm 's' 'ſ'
  | dottedI : CaseForm 'i' 'İ'
  | dotlessI : CaseForm 'i' 'ı'

section Case

variable {letter c : Char} {word text : List Char}

theorem toNat_toLower (c : Char) :
    c.toLower.toNat = if 65 ≤ c.toNat ∧ c.toNat ≤ 90 then c.toNat + 32 else c.toNat := by
  have capital : (c.val ≥ 'A'.val ∧ c.val ≤ 'Z'.val) ↔ 65 ≤ c.toNat ∧ c.toNat ≤ 90 :=
    and_congr UInt32.le_iff_toNat_le UInt32.le_iff_toNat_le
  delta Char.toLower
  by_cases inside : 65 ≤ c.toNat ∧ c.toNat ≤ 90
  · have shifted : (c.val + ('a'.val - 'A'.val)).toNat = (c.toNat + 32) % 2 ^ 32 :=
      UInt32.toNat_add _ _
    rw [if_pos inside, dif_pos (capital.mpr inside), Char.toNat_mk, shifted]
    omega
  · rw [if_neg inside, dif_neg (mt capital.mp inside)]

theorem toNat_toUpper (small : 97 ≤ letter.toNat ∧ letter.toNat ≤ 122) :
    letter.toUpper.toNat = letter.toNat - 32 := by
  have inside : 'a'.val ≤ letter.val ∧ letter.val ≤ 'z'.val :=
    ⟨UInt32.le_iff_toNat_le.mpr small.1, UInt32.le_iff_toNat_le.mpr small.2⟩
  have shifted : (letter.val + ('A'.val - 'a'.val)).toNat =
      (letter.toNat + (2 ^ 32 - 32)) % 2 ^ 32 :=
    UInt32.toNat_add _ _
  delta Char.toUpper
  rw [dif_pos inside, Char.toNat_mk, shifted]
  omega

theorem toLower_eq_iff (small : letter.isLower) :
    c.toLower = letter ↔ c = letter ∨ c = letter.toUpper := by
  have bounds : 97 ≤ letter.toNat ∧ letter.toNat ≤ 122 := by
    delta Char.isLower at small
    simpa [UInt32.le_iff_toNat_le] using small
  rw [← Char.toNat_inj, ← Char.toNat_inj, ← Char.toNat_inj, toNat_toLower, toNat_toUpper bounds]
  split <;> omega

/-- No keyword has a `k`, whose third form is the Kelvin sign. -/
theorem spells_iff (small : letter.isLower) (other : letter ≠ 'k') :
    spells letter c ↔ CaseForm letter c := by
  simp only [spells, Bool.or_eq_true, Bool.and_eq_true, beq_iff_eq, toLower_eq_iff small, other,
    false_and, or_false]
  constructor
  · rintro (((rfl | rfl) | ⟨rfl, rfl⟩) | ⟨rfl, rfl | rfl⟩)
    · exact .small
    · exact .capital
    · exact .longS
    · exact .dottedI
    · exact .dotlessI
  · rintro (_ | _ | _ | _ | _) <;> simp

theorem spells_word_iff (letters : ∀ letter ∈ word, letter.isLower ∧ letter ≠ 'k') :
    Spells word text ↔ List.Forall₂ CaseForm word text := by
  induction word generalizing text with
  | nil =>
    rw [List.forall₂_nil_left_iff]
    constructor
    · rintro ⟨⟩
      rfl
    · rintro rfl
      exact .nil
  | cons letter word ih =>
    obtain ⟨⟨small, other⟩, later⟩ := List.forall_mem_cons.mp letters
    constructor
    · rintro (_ | ⟨first, others⟩)
      exact .cons ((spells_iff small other).mp first) ((ih later).mp others)
    · rintro (_ | ⟨first, others⟩)
      exact .cons ((spells_iff small other).mpr first) ((ih later).mpr others)

end Case

end Text

open Text

/-- A keyword stands at the start of the text, in any case, and ends where a word ends. -/
def LeadsQuery (text : List Char) : Prop :=
  ∃ keyword ∈ queryKeywords, ∃ spelled after, text = spelled ++ after ∧
    List.Forall₂ CaseForm keyword spelled ∧ ∀ c ∈ after.head?, isWord c = false

section Keywords

variable {front text : List Char}

theorem queryKeywords_letters {keyword : List Char} (known : keyword ∈ queryKeywords) :
    keyword ≠ [] ∧ ∀ letter ∈ keyword, letter.isLower ∧ letter ≠ 'k' := by
  have all : ∀ keyword ∈ queryKeywords,
      keyword ≠ [] ∧ keyword.all fun letter => letter.isLower && letter != 'k' := by
    decide
  obtain ⟨some, letters⟩ := all keyword known
  exact ⟨some, by simpa using letters⟩

theorem startsWithKeyword_iff : startsWithKeyword text ↔ LeadsQuery text := by
  simp only [startsWithKeyword, List.any_eq_true, Option.any_eq_true]
  constructor
  · rintro ⟨keyword, known, after, read, ends⟩
    obtain ⟨spelled, letters, rfl⟩ := exists_spelling read
    have forms := (spells_word_iff (queryKeywords_letters known).2).mp letters
    exact ⟨keyword, known, spelled, after, rfl, forms, atWordEnd_iff.mp ends⟩
  · rintro ⟨keyword, known, spelled, after, rfl, forms, ends⟩
    have letters := (spells_word_iff (queryKeywords_letters known).2).mpr forms
    exact ⟨keyword, known, after, stripSpelling?_append letters, atWordEnd_iff.mpr ends⟩

theorem not_leadsQuery_nil : ¬ LeadsQuery [] := by
  rintro ⟨keyword, known, spelled, after, split, forms, _⟩
  obtain ⟨rfl, _⟩ := List.append_eq_nil_iff.mp split.symm
  exact (queryKeywords_letters known).1 (List.forall₂_nil_right_iff.mp forms)

/-- The search behind a text that was passed already finds every keyword whose two ends are ends
of a word. -/
theorem holdsKeywordFrom_iff :
    holdsKeywordFrom (front.getLast?.any isWord) text ↔
      ∃ before rest, text = before ++ rest ∧ LeadsQuery rest ∧
        ∀ c ∈ (front ++ before).getLast?, isWord c = false := by
  induction text generalizing front with
  | nil =>
    refine ⟨fun found => absurd found (by simp [holdsKeywordFrom]), ?_⟩
    rintro ⟨before, rest, split, leads, _⟩
    obtain ⟨_, rfl⟩ := List.append_eq_nil_iff.mp split.symm
    exact absurd leads not_leadsQuery_nil
  | cons c text ih =>
    have here : (!front.getLast?.any isWord) ↔ ∀ c ∈ front.getLast?, isWord c = false := by
      cases front.getLast? <;> simp
    have next : (front ++ [c]).getLast?.any isWord = isWord c := by simp
    rw [holdsKeywordFrom, Bool.or_eq_true, Bool.and_eq_true, startsWithKeyword_iff, here, ← next, ih]
    constructor
    · rintro (⟨free, leads⟩ | ⟨before, rest, rfl, leads, free⟩)
      · exact ⟨[], c :: text, rfl, leads, by rwa [List.append_nil]⟩
      · exact ⟨c :: before, rest, rfl, leads, by simpa using free⟩
    · rintro ⟨before, rest, split, leads, free⟩
      cases before with
      | nil =>
        obtain rfl := split
        rw [List.append_nil] at free
        exact .inl ⟨free, leads⟩
      | cons d before =>
        obtain ⟨rfl, rfl⟩ := List.cons.inj split
        exact .inr ⟨before, rest, rfl, leads, by simpa using free⟩

end Keywords

namespace Token

/-- The characters of a literal: those of its content, or those of all the lines of its body but
the closing one. -/
def characters (token : Token) : List Char :=
  match token.kind with
  | .blockLiteral => token.heredoc.dropLast.flatMap String.toList
  | _ => token.content.toList

theorem toList_literalText (token : Token) : token.literalText.toList = token.characters := by
  rw [literalText, characters]
  split
  · rename_i block
    rw [block, String.toList_join]
  · split
    · contradiction
    · rfl

/-- A token starts the scan of a statement exactly if it is a literal of one of the four kinds and
its characters have a keyword among them, in any case, with no word character on either side. -/
theorem isEntry_iff (token : Token) :
    token.isEntry ↔
      token.kind ∈ [.literalSingle, .literalDouble, .literalInterpolate, .blockLiteral] ∧
      ∃ before spelled after, token.characters = before ++ (spelled ++ after) ∧
        (∃ keyword ∈ ["select", "insert", "update", "delete"],
          List.Forall₂ CaseForm keyword.toList spelled) ∧
        (∀ c ∈ before.getLast?, isWord c = false) ∧ ∀ c ∈ after.head?, isWord c = false := by
  have holds : token.isCandidate ↔ ∃ before rest, token.characters = before ++ rest ∧
      LeadsQuery rest ∧ ∀ c ∈ before.getLast?, isWord c = false := by
    rw [isCandidate, holdsKeyword, toList_literalText]
    exact @holdsKeywordFrom_iff [] token.characters
  rw [isEntry, Bool.and_eq_true, holds]
  refine and_congr (by simp [TokenKind.isLiteral, TokenKind.literals]) ?_
  constructor
  · rintro ⟨before, _, split, ⟨keyword, known, spelled, after, rfl, forms, ends⟩, free⟩
    obtain ⟨named, listed, rfl⟩ := List.mem_map.mp known
    exact ⟨before, spelled, after, split, ⟨named, listed, forms⟩, free, ends⟩
  · rintro ⟨before, spelled, after, split, ⟨named, listed, forms⟩, free, ends⟩
    have known := List.mem_map_of_mem (f := String.toList) listed
    exact ⟨before, _, split, ⟨_, known, spelled, after, rfl, forms, ends⟩, free⟩

/-- A keyword across two lines counts, one that the next line goes on with does not, and neither
does one that the closing line holds. -/
example :
    let block (lines : List String) : Token :=
      { kind := .blockLiteral, content := "<<E", line := 1, heredoc := lines }
    (block ["(\u017fel", "ECT) ", "E\n"]).isEntry ∧ ¬ (block ["(select", "ed)", "E\n"]).isEntry ∧
      ¬ (block ["1\n", "select\n"]).isEntry := by
  decide +kernel

end Token

end QueryLint
