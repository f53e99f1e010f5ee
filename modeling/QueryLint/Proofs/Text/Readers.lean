import QueryLint.Annotation
import QueryLint.Text.Word

/-! What the readers of comments accept. Each of them takes the longest stretch of its kind from
the front of the text, and a text that is put together from such stretches is taken apart
again. -/
namespace QueryLint

namespace Text

/-- Blanks only, or nothing. -/
def Blank (text : List Char) : Prop := ∀ c ∈ text, isBlank c

/-- The text does not start with a blank. -/
def Solid (text : List Char) : Prop := ∀ c ∈ text.head?, isBlank c = false

variable {gap text rest word name before after : List Char} {letter c : Char}

theorem solid_cons (solid : isBlank c = false) : Solid (c :: text) := by
  intro d first
  obtain rfl := Option.some.inj (Option.mem_def.mp first)
  exact solid

theorem skipBlanks_append (blank : Blank gap) (solid : Solid rest) :
    skipBlanks (gap ++ rest) = rest := by
  rw [skipBlanks, List.dropWhile_append_of_pos blank]
  cases rest with
  | nil => rfl
  | cons c rest => simp [solid c rfl]

theorem exists_blanks (text : List Char) : ∃ gap, Blank gap ∧ text = gap ++ skipBlanks text :=
  ⟨text.takeWhile isBlank, fun _ inside => List.all_eq_true.mp List.all_takeWhile _ inside,
    List.takeWhile_append_dropWhile.symm⟩

/-- The text spells the word, letter by letter and in any case. -/
inductive Spells : List Char → List Char → Prop where
  | nil : Spells [] []
  | cons {letter c : Char} {word text : List Char} : spells letter c → Spells word text →
      Spells (letter :: word) (c :: text)

theorem stripSpelling?_append (spelled : Spells word text) :
    stripSpelling? word (text ++ rest) = some rest := by
  induction spelled with
  | nil => rfl
  | cons same _ ih =>
    rw [List.cons_append, stripSpelling?, if_pos same]
    exact ih

theorem exists_spelling (found : stripSpelling? word text = some rest) :
    ∃ spelled, Spells word spelled ∧ text = spelled ++ rest := by
  induction word generalizing text with
  | nil => exact ⟨[], .nil, by simpa [stripSpelling?] using found⟩
  | cons letter word ih =>
    cases text with
    | nil => simp [stripSpelling?] at found
    | cons c text =>
      rw [stripSpelling?] at found
      split at found
      · rename_i same
        obtain ⟨spelled, letters, rfl⟩ := ih found
        exact ⟨c :: spelled, .cons same letters, rfl⟩
      · contradiction

theorem atWordEnd_iff : atWordEnd text ↔ ∀ c ∈ text.head?, isWord c = false := by
  cases text with
  | nil => simp [atWordEnd]
  | cons c text => simp [atWordEnd]

theorem toLower_of_isBlank (blank : isBlank c) : c.toLower = c := by
  have outside : ¬ (c.val ≥ 'A'.val ∧ c.val ≤ 'Z'.val) := by
    intro upper
    have low : 65 ≤ c.toNat := UInt32.le_iff_toNat_le.mp upper.1
    have high : c.toNat ≤ 90 := UInt32.le_iff_toNat_le.mp upper.2
    simp only [isBlank, Bool.or_eq_true, Bool.and_eq_true, decide_eq_true_eq, beq_iff_eq] at blank
    omega
  exact dif_neg outside

/-- No blank spells a letter. -/
theorem isBlank_of_spells (solid : isBlank letter = false) (spelled : spells letter c) :
    isBlank c = false := by
  cases blank : isBlank c with
  | false => rfl
  | true =>
    simp only [spells, toLower_of_isBlank blank, Bool.or_eq_true, Bool.and_eq_true,
      beq_iff_eq] at spelled
    rcases spelled with ((rfl | ⟨_, rfl⟩) | ⟨_, rfl | rfl⟩) | ⟨_, rfl⟩
    · exact blank.symm.trans solid
    all_goals
      revert blank
      decide

theorem solid_of_spells (solid : isBlank letter = false) (spelled : Spells (letter :: word) text) :
    Solid (text ++ rest) := by
  cases spelled with
  | cons same _ => exact solid_cons (isBlank_of_spells solid same)

/-- The name stands in the text between separators or the ends of the text. -/
def IsField (text name : List Char) : Prop :=
  ∃ before after, text = before ++ name ++ after ∧ name ≠ [] ∧
    (∀ c ∈ name, isSeparator c = false) ∧ (∀ c ∈ before.getLast?, isSeparator c) ∧
    ∀ c ∈ after.head?, isSeparator c

theorem isField_cons_separator (separator : isSeparator c) :
    IsField (c :: text) name ↔ IsField text name := by
  constructor
  · rintro ⟨before, after, split, nonempty, plain, left, right⟩
    cases before with
    | nil =>
      -- The name itself would start with the separator.
      cases name with
      | nil => exact absurd rfl nonempty
      | cons d name =>
        obtain ⟨rfl, _⟩ := List.cons.inj split
        simp [plain c List.mem_cons_self] at separator
    | cons d before =>
      obtain ⟨rfl, rest⟩ := List.cons.inj split
      refine ⟨before, after, rest, nonempty, plain, ?_, right⟩
      cases before with
      | nil => simp
      | cons e before => simpa using left
  · rintro ⟨before, after, rfl, nonempty, plain, left, right⟩
    refine ⟨c :: before, after, rfl, nonempty, plain, ?_, right⟩
    cases before with
    | nil => simpa using separator
    | cons e before => simpa using left

/-- Behind a word that ends at a separator, the fields are the word and those of the rest. -/
theorem isField_word_append (nonempty : word ≠ []) (plain : ∀ c ∈ word, isSeparator c = false)
    (ends : ∀ c ∈ rest.head?, isSeparator c) :
    IsField (word ++ rest) name ↔ name = word ∨ IsField rest name := by
  constructor
  · rintro ⟨before, after, split, filled, letters, left, right⟩
    rw [List.append_assoc] at split
    rcases List.append_eq_append_iff.mp split with ⟨gap, rfl, rest_eq⟩ | ⟨gap, word_eq, behind⟩
    · -- The name starts behind the word.
      cases gap with
      | nil =>
        cases name with
        | nil => exact absurd rfl filled
        | cons d name =>
          have separator := ends d (by simp [rest_eq])
          simp [letters d List.mem_cons_self] at separator
      | cons d gap =>
        refine .inr ⟨d :: gap, after, by rw [rest_eq, List.append_assoc], filled, letters, ?_, right⟩
        simpa [List.getLast?_append] using left
    · -- The name starts within the word, so it starts the word.
      have front : before = [] := by
        rw [← List.getLast?_eq_none_iff]
        cases last : before.getLast? with
        | none => rfl
        | some d =>
          have separator := left d last
          have inside : d ∈ word := by
            rw [word_eq]
            exact List.mem_append_left _ (List.mem_of_getLast? last)
          simp [plain d inside] at separator
      rw [front, List.nil_append] at word_eq
      rw [← word_eq] at behind
      rcases List.append_eq_append_iff.mp behind with ⟨more, longer, after_eq⟩ | ⟨more, longer, rest_eq⟩
      · cases more with
        | nil => exact .inl (by rw [longer, List.append_nil])
        | cons d more =>
          have separator := right d (by simp [after_eq])
          simp [plain d (by simp [longer])] at separator
      · cases more with
        | nil => exact .inl (by rw [longer, List.append_nil])
        | cons d more =>
          have separator := ends d (by simp [rest_eq])
          simp [letters d (by simp [longer])] at separator
  · rintro (rfl | ⟨before, after, rfl, filled, letters, left, right⟩)
    · exact ⟨[], rest, rfl, nonempty, plain, by simp, ends⟩
    · refine ⟨word ++ before, after, by simp, filled, letters, ?_, right⟩
      cases before with
      | nil =>
        cases name with
        | nil => exact absurd rfl filled
        | cons d name =>
          have separator := ends d rfl
          simp [letters d List.mem_cons_self] at separator
      | cons d before => simpa [List.getLast?_append] using left

theorem plain_run (letter : isSeparator c = false) (text : List Char) :
    ∀ d ∈ c :: text.takeWhile (!isSeparator ·), isSeparator d = false := by
  refine List.forall_mem_cons.mpr ⟨letter, fun d inside => ?_⟩
  simpa using List.all_eq_true.mp List.all_takeWhile d inside

theorem separator_behind_run (text : List Char) :
    ∀ d ∈ (text.dropWhile (!isSeparator ·)).head?, isSeparator d := by
  intro d first
  have stopped := List.head?_dropWhile_not (!isSeparator ·) text
  rw [Option.mem_def.mp first] at stopped
  simpa using stopped

/-- The fields of a text are what stands between its separators. -/
theorem mem_fields_iff : name ∈ fields text ↔ IsField text name := by
  fun_induction fields text with
  | case1 =>
    refine ⟨fun member => absurd member List.not_mem_nil, ?_⟩
    rintro ⟨before, after, split, nonempty, _⟩
    simp_all
  | case2 c text separator ih => rw [ih, isField_cons_separator separator]
  | case3 c text letter ih =>
    have plain := plain_run (Bool.eq_false_iff.mpr letter) text
    have ends := separator_behind_run text
    have whole : c :: text =
        (c :: text.takeWhile (!isSeparator ·)) ++ text.dropWhile (!isSeparator ·) := by
      rw [List.cons_append, List.takeWhile_append_dropWhile]
    rw [List.mem_cons, ih, whole, isField_word_append (by simp) plain ends]

end Text

namespace Annotation

open Text

variable {gap text rest body : List Char}

theorem afterBlanks?_append (wide : gap ≠ []) (blank : Blank gap) (solid : Solid rest) :
    afterBlanks? (gap ++ rest) = some rest := by
  cases gap with
  | nil => contradiction
  | cons c gap =>
    rw [List.cons_append, afterBlanks?, if_pos (blank c List.mem_cons_self)]
    rw [skipBlanks_append (fun d inside => blank d (List.mem_cons_of_mem _ inside)) solid]

theorem exists_afterBlanks (found : afterBlanks? text = some rest) :
    ∃ gap, gap ≠ [] ∧ Blank gap ∧ text = gap ++ rest := by
  cases text with
  | nil => simp [afterBlanks?] at found
  | cons c text =>
    rw [afterBlanks?] at found
    split at found
    · rename_i here
      obtain ⟨gap, blank, split⟩ := exists_blanks text
      rw [Option.some.inj found] at split
      refine ⟨c :: gap, by simp, ?_, by rw [split, List.cons_append]⟩
      intro d inside
      rcases List.mem_cons.mp inside with rfl | later
      · exact here
      · exact blank d later
    · contradiction

/-- A list ends at the first closing parenthesis. -/
theorem listed?_eq_some_iff :
    listed? text = some body ↔ ')' ∉ body ∧ ∃ rest, text = body ++ ')' :: rest := by
  have reads : ∀ before after : List Char, ')' ∉ before →
      listed? (before ++ ')' :: after) = some before := by
    intro before after open_
    have plain : ∀ c ∈ before, (c != ')') = true := by
      intro c inside
      rw [bne_iff_ne]
      rintro rfl
      exact open_ inside
    simp [listed?, List.takeWhile_append_of_pos plain]
  constructor
  · intro found
    have closed : ')' ∈ text := by
      rw [listed?] at found
      split at found
      · simp_all
      · contradiction
    obtain ⟨before, after, rfl, open_⟩ := List.eq_append_cons_of_mem closed
    rw [reads before after open_] at found
    obtain rfl := Option.some.inj found
    exact ⟨open_, after, rfl⟩
  · rintro ⟨open_, rest, rfl⟩
    exact reads body rest open_

end Annotation

end QueryLint
