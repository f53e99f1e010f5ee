import QueryLint.Proofs.Annotation.RoundTrip
import QueryLint.Proofs.Text.Readers

/-! Which comments are annotations, and what they list. An annotation is its mark, two words and a
list in parentheses; before the mark stand blanks only, or anything behind a `#!`. Of several marks
that a comment can be read from, the first one counts. -/
namespace QueryLint

namespace Text

/-- The maximal runs of characters other than separators, in order. -/
inductive Runs : List Char → List (List Char) → Prop where
  | nil {gap : List Char} : (∀ c ∈ gap, isSeparator c) → Runs gap []
  | cons {gap name rest : List Char} {names : List (List Char)} : (∀ c ∈ gap, isSeparator c) →
      name ≠ [] → (∀ c ∈ name, isSeparator c = false) → (∀ c ∈ rest.head?, isSeparator c) →
      Runs rest names → Runs (gap ++ (name ++ rest)) (name :: names)

section Runs

variable {text : List Char} {names : List (List Char)} {c : Char}

theorem fields_of_runs (runs : Runs text names) : fields text = names := by
  induction runs with
  | @nil gap separators =>
    have only := @fields_gap gap [] separators
    rwa [List.append_nil, fields_nil] at only
  | cons separators filled plain ends _ ih =>
    rw [fields_gap separators, fields_word filled plain ends, ih]

theorem Runs.cons_separator (separator : isSeparator c) (runs : Runs text names) :
    Runs (c :: text) names := by
  cases runs with
  | nil separators => exact .nil (List.forall_mem_cons.mpr ⟨separator, separators⟩)
  | @cons gap name rest names separators filled plain ends runs =>
    rw [← List.cons_append]
    exact .cons (List.forall_mem_cons.mpr ⟨separator, separators⟩) filled plain ends runs

theorem runs_fields (text : List Char) : Runs text (fields text) := by
  fun_induction fields text with
  | case1 => exact .nil (by simp)
  | case2 c text separator ih => exact ih.cons_separator separator
  | case3 c text letter ih =>
    have plain := plain_run (Bool.eq_false_iff.mpr letter) text
    have whole := @Runs.cons [] _ _ _ (by simp) (by simp) plain (separator_behind_run text) ih
    rwa [List.nil_append, List.cons_append, List.takeWhile_append_dropWhile] at whole

theorem fields_eq_iff : fields text = names ↔ Runs text names :=
  ⟨fun same => same ▸ runs_fields text, fields_of_runs⟩

end Runs

end Text

namespace Annotation

open Text

/-- The text is an annotation from its mark on: the two words in any case, apart from each other,
and a body up to the first closing parenthesis. -/
def Marks (text body : List Char) : Prop :=
  ∃ gap sql wide safe space rest, Blank gap ∧ Spells ['s', 'q', 'l'] sql ∧ wide ≠ [] ∧ Blank wide ∧
    Spells ['s', 'a', 'f', 'e'] safe ∧ Blank space ∧ ')' ∉ body ∧
    text = '#' :: '#' ::
      (gap ++ (sql ++ (wide ++ (safe ++ (space ++ '(' :: (body ++ ')' :: rest))))))

/-- The comment can be read as an annotation with its mark at a place. -/
def Annotates (comment : List Char) (place : Nat) (body : List Char) : Prop :=
  ∃ lead blanks text, (lead = [] ∨ ['#', '!'] <+: lead) ∧ Blank blanks ∧ Marks text body ∧
    comment = lead ++ (blanks ++ text) ∧ place = (lead ++ blanks).length

section Marks

variable {text body blanks : List Char}

theorem Marks.solid (marks : Marks text body) : Solid text := by
  obtain ⟨_, _, _, _, _, _, _, _, _, _, _, _, _, rfl⟩ := marks
  exact solid_cons (by decide)

theorem body?_of_marks (blank : Blank blanks) (marks : Marks text body) :
    body? (blanks ++ text) = some body := by
  have start := skipBlanks_append blank marks.solid
  obtain ⟨gap, sql, wide, safe, space, rest, gapped, first, filled, apart, second, spaced, closed,
    rfl⟩ := marks
  have words {more : List Char} : skipBlanks (gap ++ (sql ++ more)) = sql ++ more :=
    skipBlanks_append gapped (solid_of_spells (by decide) first)
  have between {more : List Char} : afterBlanks? (wide ++ (safe ++ more)) = some (safe ++ more) :=
    afterBlanks?_append filled apart (solid_of_spells (by decide) second)
  have list {more : List Char} : skipBlanks (space ++ '(' :: more) = '(' :: more :=
    skipBlanks_append spaced (solid_cons (by decide))
  simp only [body?, start, words, stripSpelling?_append first, between, stripSpelling?_append second,
    list, bind, Option.bind]
  exact listed?_eq_some_iff.mpr ⟨closed, rest, rfl⟩

theorem exists_marks (found : body? text = some body) :
    ∃ blanks rest, Blank blanks ∧ Marks rest body ∧ text = blanks ++ rest := by
  obtain ⟨blanks, blank, split⟩ := exists_blanks text
  refine ⟨blanks, skipBlanks text, blank, ?_, split⟩
  rw [body?] at found
  split at found
  · rename_i rest mark
    simp only [bind, Option.bind_eq_some_iff] at found
    obtain ⟨afterSql, sql, afterWide, wide, afterSafe, safe, list⟩ := found
    obtain ⟨gap, gapped, gap_eq⟩ := exists_blanks rest
    obtain ⟨first, spelled, sql_eq⟩ := exists_spelling sql
    obtain ⟨between, filled, apart, wide_eq⟩ := exists_afterBlanks wide
    obtain ⟨second, spelled', safe_eq⟩ := exists_spelling safe
    obtain ⟨space, spaced, space_eq⟩ := exists_blanks afterSafe
    split at list
    · rename_i inside opened
      obtain ⟨closed, tail, rfl⟩ := listed?_eq_some_iff.mp list
      refine ⟨gap, first, between, second, space, tail, gapped, spelled, filled, apart, spelled',
        spaced, closed, ?_⟩
      rw [← opened, ← space_eq, ← safe_eq, ← wide_eq, ← sql_eq, ← gap_eq]
      exact mark
    · contradiction
  · contradiction

end Marks

section Places

variable {comment text body blanks rest : List Char} {place : Nat}

theorem Annotates.marks (annotates : Annotates comment place body) :
    Marks (comment.drop place) body := by
  obtain ⟨lead, blanks, text, _, _, marks, rfl, rfl⟩ := annotates
  rwa [← List.append_assoc, List.drop_left]

theorem body?_of_mark (marks : Marks text body) : body? text = some body :=
  @body?_of_marks text body [] (List.forall_mem_nil _) marks

/-- No mark stands among blanks. -/
theorem not_marks_drop (blank : Blank blanks) (early : place < blanks.length) :
    ¬ Marks ((blanks ++ rest).drop place) body := by
  intro marks
  have solid := marks.solid
  rw [List.drop_append_of_le_length early.le, List.drop_eq_getElem_cons early] at solid
  have here := blank blanks[place] (List.getElem_mem early)
  simp [solid blanks[place] rfl] at here

/-- The first place of a text from which an annotation can be read. -/
theorem exists_first_suffix (found : bodyWithin? text = some body) :
    ∃ front rest, text = front ++ rest ∧ body? rest = some body ∧
      ∀ earlier < front.length, body? (text.drop earlier) = none := by
  induction text with
  | nil => simp [bodyWithin?] at found
  | cons c text ih =>
    rw [bodyWithin?] at found
    cases here : body? (c :: text) with
    | some other =>
      rw [here, Option.some_or] at found
      exact ⟨[], c :: text, rfl, found ▸ here, by simp⟩
    | none =>
      rw [here, Option.none_or] at found
      obtain ⟨front, rest, rfl, read, first⟩ := ih found
      refine ⟨c :: front, rest, rfl, read, fun earlier before => ?_⟩
      cases earlier with
      | zero => exact here
      | succ earlier => exact first earlier (Nat.lt_of_succ_lt_succ before)

/-- Every mark stands behind the first suffix that can be read and its blanks. -/
theorem length_le_of_marks {front : List Char} (blank : Blank blanks)
    (first : ∀ earlier < front.length, body? ((front ++ (blanks ++ rest)).drop earlier) = none)
    (marks : Marks ((front ++ (blanks ++ rest)).drop place) body) :
    front.length + blanks.length ≤ place := by
  have behind : front.length ≤ place := by
    by_contra short
    have unread := first place (Nat.lt_of_not_le short)
    rw [body?_of_mark marks] at unread
    contradiction
  by_contra short
  have early : place - front.length < blanks.length := by omega
  apply @not_marks_drop body blanks rest _ blank early
  rwa [List.drop_append, List.drop_of_length_le behind, List.nil_append] at marks

theorem bodyWithin?_isSome (front : List Char) (read : (body? rest).isSome) :
    (bodyWithin? (front ++ rest)).isSome := by
  induction front with
  | nil =>
    cases rest with
    | nil => exact absurd read (by decide)
    | cons c rest =>
      rw [List.nil_append, bodyWithin?, Option.isSome_or, read]
      rfl
  | cons c front ih =>
    rw [List.cons_append, bodyWithin?, Option.isSome_or, ih, Bool.or_true]

theorem Annotates.isSome (annotates : Annotates comment place body) :
    (commentBody? comment).isSome := by
  obtain ⟨lead, blanks, text, opening, blank, marks, rfl, rfl⟩ := annotates
  have read := body?_of_marks blank marks
  rcases opening with rfl | ⟨front, rfl⟩
  · rw [List.nil_append]
    unfold commentBody?
    split
    · -- A comment that starts with `#!` is no annotation from its first character on.
      rename_i shebang
      rw [shebang] at read
      contradiction
    · rw [read]
      rfl
  · exact bodyWithin?_isSome front (Option.isSome_of_eq_some read)

/-- What is read from a comment is read from the first of its marks. -/
theorem exists_first_annotation (found : commentBody? comment = some body) :
    ∃ place, Annotates comment place body ∧
      ∀ earlier < place, ∀ other, ¬ Annotates comment earlier other := by
  unfold commentBody? at found
  split at found
  · rename_i text
    obtain ⟨front, suffix, rfl, read, first⟩ := exists_first_suffix found
    obtain ⟨blanks, rest, blank, marks, rfl⟩ := exists_marks read
    refine ⟨_, ⟨'#' :: '!' :: front, blanks, rest, .inr ⟨front, rfl⟩, blank, marks, rfl, rfl⟩, ?_⟩
    intro earlier before other annotates
    have marked := annotates.marks
    match earlier with
    | 0 => exact absurd (body?_of_mark marked) (by simp [body?, skipBlanks, isBlank])
    | 1 => exact absurd (body?_of_mark marked) (by simp [body?, skipBlanks, isBlank])
    | within + 2 =>
      have behind := length_le_of_marks blank first marked
      simp only [List.cons_append, List.length_cons, List.length_append] at before
      omega
  · obtain ⟨blanks, rest, blank, marks, rfl⟩ := exists_marks found
    refine ⟨_, ⟨[], blanks, rest, .inl rfl, blank, marks, rfl, rfl⟩, ?_⟩
    intro earlier before other annotates
    exact not_marks_drop blank before annotates.marks

theorem commentBody?_of_first (annotates : Annotates comment place body)
    (first : ∀ earlier < place, ∀ other, ¬ Annotates comment earlier other) :
    commentBody? comment = some body := by
  obtain ⟨read, found⟩ := Option.isSome_iff_exists.mp annotates.isSome
  obtain ⟨least, annotates', first'⟩ := exists_first_annotation found
  have same : least = place := by
    rcases Nat.lt_trichotomy least place with before | same | behind
    · exact absurd annotates' (first least before read)
    · exact same
    · exact absurd annotates (first' place behind body)
  subst same
  rw [found, ← body?_of_mark annotates.marks, body?_of_mark annotates'.marks]

end Places

theorem names?_eq_some_iff {comment : String} {body : List Char} {names : List String}
    (found : commentBody? comment.toList = some body) :
    names? comment = some names ↔ Runs body (names.map String.toList) := by
  rw [names?, found, Option.map_some, Option.some_inj, ← fields_eq_iff]
  constructor
  · rintro rfl
    simp [Function.comp_def]
  · intro same
    simp [same, Function.comp_def]

/-- A comment lists names exactly if it can be read as an annotation, and the names are the runs
in the body behind the first mark that it can be read from. -/
theorem names?_grammar (comment : String) :
    (names? comment ≠ none ↔ ∃ place body, Annotates comment.toList place body) ∧
    ∀ place body, Annotates comment.toList place body →
      (∀ earlier < place, ∀ other, ¬ Annotates comment.toList earlier other) →
      ∀ names, names? comment = some names ↔ Runs body (names.map String.toList) := by
  refine ⟨⟨fun listed => ?_, fun ⟨place, body, annotates⟩ => ?_⟩, ?_⟩
  · obtain ⟨names, found⟩ := Option.ne_none_iff_exists'.mp listed
    obtain ⟨body, read, _⟩ := Option.map_eq_some_iff.mp found
    obtain ⟨place, annotates, _⟩ := exists_first_annotation read
    exact ⟨place, body, annotates⟩
  · obtain ⟨read, found⟩ := Option.isSome_iff_exists.mp annotates.isSome
    simp [names?, found]
  · intro place body annotates first names
    exact names?_eq_some_iff (commentBody?_of_first annotates first)

/-- Three marks: behind the first one no list opens, and the last one comes too late. -/
def crowdedComment : String :=
  "#!x ## SQL safe [$z]\n###\t\u017fqL \n SAFE\r($a,, $b[0\n)) ## SQL safe ($c)"

theorem crowdedComment_names :
    ∃ place, Annotates crowdedComment.toList place "$a,, $b[0\n".toList ∧
      (∀ earlier < place, ∀ other, ¬ Annotates crowdedComment.toList earlier other) ∧
      names? crowdedComment = some ["$a", "$b[0"] := by
  have read : commentBody? crowdedComment.toList = some "$a,, $b[0\n".toList := by
    decide +kernel
  obtain ⟨place, annotates, first⟩ := exists_first_annotation read
  have runs : Runs "$a,, $b[0\n".toList (["$a", "$b[0"].map String.toList) := by
    rw [← fields_eq_iff]
    decide +kernel
  exact ⟨place, annotates, first, ((names?_grammar _).2 place _ annotates first _).mpr runs⟩

end Annotation

end QueryLint
