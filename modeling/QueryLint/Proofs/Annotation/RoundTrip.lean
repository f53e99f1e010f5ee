import QueryLint.Proofs.Reference.Letters
import QueryLint.Proofs.SafeVariables
import QueryLint.Proofs.Statement.Reading

/-! References written into an annotation are read back from it. The extracted spellings of a
literal, listed on its line with any separators between them, silence the literal. -/
namespace QueryLint

namespace Text

section Fields

variable {word gap text rest : List Char}

theorem fields_gap (separators : ∀ c ∈ gap, isSeparator c) : fields (gap ++ text) = fields text := by
  induction gap with
  | nil => rfl
  | cons c gap ih =>
    rw [List.cons_append, fields_cons, if_pos (separators c List.mem_cons_self)]
    exact ih fun other inside => separators other (List.mem_cons_of_mem _ inside)

/-- A word ends at a separator or at the end of the text. -/
theorem fields_word (some : word ≠ []) (plain : ∀ c ∈ word, isSeparator c = false)
    (ends : ∀ c ∈ rest.head?, isSeparator c) : fields (word ++ rest) = word :: fields rest := by
  cases word with
  | nil => exact absurd rfl some
  | cons first word =>
    have letters : ∀ c ∈ word, (!isSeparator c) = true := by
      intro c inside
      simp [plain c (List.mem_cons_of_mem _ inside)]
    rw [List.cons_append, fields_cons, if_neg (by simp [plain first List.mem_cons_self]),
      List.takeWhile_append_of_pos letters, List.dropWhile_append_of_pos letters]
    cases rest with
    | nil => simp
    | cons c rest =>
      have separator := ends c (by simp)
      simp [separator]

end Fields

/-- The words stand in the text one after another, with at least one separator between each
two of them. -/
inductive Separated : List String → String → Prop where
  | nil : Separated [] ""
  | one {word : String} : Separated [word] word
  | cons {word gap next rest : String} {words : List String} : gap ≠ "" →
      (∀ c ∈ gap.toList, isSeparator c) → Separated (next :: words) rest →
      Separated (word :: next :: words) (word ++ gap ++ rest)

theorem fields_separated {words : List String} {text : String} (separated : Separated words text)
    (plain : ∀ word ∈ words, word.toList ≠ [] ∧ ∀ c ∈ word.toList, isSeparator c = false) :
    fields text.toList = words.map String.toList := by
  induction separated with
  | nil => simp [fields_nil]
  | @one word =>
    obtain ⟨some, letters⟩ := plain word List.mem_cons_self
    have alone := @fields_word word.toList [] some letters (by simp)
    simpa [fields_nil] using alone
  | @cons word gap next rest words wide separators _ ih =>
    obtain ⟨some, letters⟩ := plain word List.mem_cons_self
    have later := ih fun other member => plain other (List.mem_cons_of_mem _ member)
    have ends : ∀ c ∈ (gap.toList ++ rest.toList).head?, isSeparator c := by
      cases shape : gap.toList with
      | nil => exact absurd (String.toList_eq_nil_iff.mp shape) wide
      | cons first gap =>
        intro c here
        have same : first = c := by simpa using here
        subst same
        exact separators first (by simp [shape])
    rw [String.toList_append, String.toList_append, List.append_assoc,
      fields_word some letters ends, fields_gap separators, later]
    rfl

end Text

namespace Annotation

/-- The annotation with a given list of names. -/
def write (body : String) : String := "## SQL safe (" ++ body ++ ")"

theorem listed?_closed {body : List Char} (closed : ∀ c ∈ body, c ≠ ')') :
    listed? (body ++ [')']) = some body := by
  have inside : ∀ c ∈ body, (c != ')') = true := by
    intro c member
    simp [closed c member]
  simp [listed?, List.takeWhile_append_of_pos inside]

/-- Nothing before the opening parenthesis depends on the list. -/
theorem commentBody?_lead (list : List Char) :
    commentBody? ("## SQL safe (".toList ++ list) = listed? list := by
  have lead : "## SQL safe (".toList =
      ['#', '#', ' ', 'S', 'Q', 'L', ' ', 's', 'a', 'f', 'e', ' ', '('] := by
    decide
  rw [lead]
  rfl

/-- The list ends at the last parenthesis if it holds none itself. -/
theorem names?_write {body : String} (closed : ∀ c ∈ body.toList, c ≠ ')') :
    names? (write body) = some ((Text.fields body.toList).map String.ofList) := by
  have whole : (write body).toList = "## SQL safe (".toList ++ (body.toList ++ [')']) := by
    simp [write]
  rw [names?, whole, commentBody?_lead, listed?_closed closed]
  rfl

end Annotation

namespace Text

theorem Separated.letters {words : List String} {text : String} (separated : Separated words text)
    {c : Char} (inside : c ∈ text.toList) :
    isSeparator c ∨ ∃ word ∈ words, c ∈ word.toList := by
  induction separated with
  | nil => simp at inside
  | @one word => exact .inr ⟨word, List.mem_cons_self, inside⟩
  | @cons word gap next rest words _ separators _ ih =>
    simp only [String.toList_append, List.mem_append] at inside
    rcases inside with (inside | inside) | inside
    · exact .inr ⟨word, List.mem_cons_self, inside⟩
    · exact .inl (separators c inside)
    · rcases ih inside with separator | ⟨other, member, inside⟩
      · exact .inl separator
      · exact .inr ⟨other, List.mem_cons_of_mem _ member, inside⟩

end Text

namespace Reference

/-- An extracted spelling is not empty and holds characters of references only. -/
theorem spellings_letters {text spelling : String} (member : spelling ∈ spellings text) :
    spelling.toList ≠ [] ∧ ∀ c ∈ spelling.toList, inReference c := by
  obtain ⟨reference, found, rfl⟩ := List.mem_map.mp member
  have isReference := extract_isReference found
  rw [String.toList_ofList]
  exact ⟨isReference.ne_nil, isReference.inReference⟩

end Reference

namespace Annotation

theorem names?_spellings {text body : String}
    (separated : Text.Separated (Reference.spellings text) body) :
    names? (write body) = some (Reference.spellings text) := by
  have plain : ∀ word ∈ Reference.spellings text,
      word.toList ≠ [] ∧ ∀ c ∈ word.toList, Text.isSeparator c = false := by
    intro word member
    obtain ⟨some, letters⟩ := Reference.spellings_letters member
    exact ⟨some, fun c inside => Reference.isSeparator_of_inReference (letters c inside)⟩
  have closed : ∀ c ∈ body.toList, c ≠ ')' := by
    intro c inside
    rcases separated.letters inside with separator | ⟨word, member, inside⟩
    · rintro rfl
      revert separator
      decide
    · exact Reference.ne_parenthesis_of_inReference
        ((Reference.spellings_letters member).2 c inside)
  rw [names?_write closed, Text.fields_separated separated plain]
  simp [Function.comp_def]

end Annotation

namespace Document

/-- The document with one more token before the member at a place, its annotations not yet
read. -/
def withToken (document : Document) (place : Nat) (token : Token) : Document :=
  { document with
    pool := document.pool.push { token }
    members := document.members.take place ++ document.pool.size :: document.members.drop place
    safe := {} }

theorem mem_comments_withToken (document : Document) (place : Nat) {comment : Token}
    (kind : comment.kind = .comment) : comment ∈ (document.withToken place comment).comments := by
  have here : (document.withToken place comment).pool.token? document.pool.size =
      some comment := by
    simp [withToken, Pool.token?]
  refine List.mem_map.mpr ⟨(document.pool.size, comment), List.mem_filter.mpr ⟨?_, ?_⟩, rfl⟩
  · refine List.mem_filterMap.mpr ⟨document.pool.size, ?_, by simp [here]⟩
    simp [withToken]
  · simp [kind]

theorem safe_readAnnotations_withToken (document : Document) (place : Nat) (token : Token) :
    (document.withToken place token).readAnnotations.1.safe =
      ⟨some (annotationTable (document.withToken place token).comments)⟩ :=
  rfl

end Document

open Annotation (names? write)

/-- References and annotations are of one language. What is extracted from a text is read back
from an annotation that lists it, and such an annotation on its line silences a literal. -/
theorem spellings_annotated :
    (∀ text body : String, Text.Separated (Reference.spellings text) body →
      names? (write body) = some (Reference.spellings text)) ∧
    ∀ (document : Document) (place : Nat) (token comment : Token) (body : String),
      token.isInterpolated = .ok true → 1 ≤ token.effectiveLine →
      Text.Separated (Reference.spellings token.literalText) body →
      comment.kind = .comment → comment.line = token.effectiveLine →
      comment.content = write body →
      unsafeVariables (document.withToken place comment).readAnnotations.1.safe token = .ok [] := by
  constructor
  · intro text body separated
    exact Annotation.names?_spellings separated
  · intro document place token comment body inside positive separated kind line content
    rw [document.safe_readAnnotations_withToken,
      unsafeVariables_eq_nil (Token.isInterpolated_iff.mp inside)]
    refine ⟨_, onLine_built _ positive, fun spelling member => ?_⟩
    have names := Annotation.names?_spellings separated
    rw [← content] at names
    exact mem_annotationTable.mpr
      ⟨comment, document.mem_comments_withToken place kind, line, _, names, member⟩

def markedLiteral : Token :=
  { kind := .literalDouble, content := "SELECT $h->\x7bk\x7d[0]\nFROM @::t", line := 2 }

def markedBody : String := "$h->\x7bk\x7d[0]" ++ ",\t " ++ "@::t"

theorem markedLiteral_silent :
    Text.Separated (Reference.spellings markedLiteral.literalText) markedBody ∧
    names? (write markedBody) = some ["$h->\x7bk\x7d[0]", "@::t"] ∧
    unsafeVariables (Document.withToken ⟨#[], [], "a.pl", none, {}⟩ 0
      { kind := .comment, content := write markedBody, line := 3 }).readAnnotations.1.safe
      markedLiteral = .ok [] := by
  have spelled : Reference.spellings markedLiteral.literalText = ["$h->\x7bk\x7d[0]", "@::t"] := by
    decide +kernel
  have separated : Text.Separated (Reference.spellings markedLiteral.literalText) markedBody := by
    rw [spelled]
    have gap : ",\t ".toList.all Text.isSeparator := by decide
    exact .cons (by decide) (List.all_eq_true.mp gap) .one
  refine ⟨separated, spelled ▸ spellings_annotated.1 _ _ separated, ?_⟩
  exact spellings_annotated.2 _ 0 _ _ _ rfl (by decide) separated rfl (by decide) rfl

end QueryLint
