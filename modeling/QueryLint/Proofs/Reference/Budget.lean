import Mathlib.Algebra.Ring.Nat
import QueryLint.Proofs.Reference.Leftmost

/-! How long the extraction goes on. A removal can bring a reference about, so there may be more
rounds than the text has references. They are bounded by its length: a round takes at least the
reference that it reports from the working text. -/
namespace QueryLint.Reference

/-- One round of the extraction: it reports the leftmost reference of the working text and goes
on with the text without any copy of it. -/
structure Round (working word next : List Char) : Prop where
  found : (find? working).map Occurrence.word = some word
  left : next = Text.erase word working

/-- Rounds one after the other, with the references that they report. There may be more to come. -/
inductive Rounds : List Char → List (List Char) → List Char → Prop where
  | nil {working : List Char} : Rounds working [] working
  | cons {working word next rest : List Char} {words : List (List Char)} :
      Round working word next → Rounds next words rest → Rounds working (word :: words) rest

/-- The number of characters in a list of references. -/
def total (words : List (List Char)) : Nat := (words.map List.length).sum

variable {text working word next rest : List Char} {words : List (List Char)}

theorem total_cons (word : List Char) (words : List (List Char)) :
    total (word :: words) = word.length + total words := by
  simp [total]

theorem Round.two_le (round : Round working word next) : 2 ≤ word.length := by
  obtain ⟨found, search, rfl⟩ := Option.map_eq_some_iff.mp round.found
  exact find?_two_le search

theorem Round.length_le (round : Round working word next) :
    next.length + word.length ≤ working.length := by
  obtain ⟨found, search, rfl⟩ := Option.map_eq_some_iff.mp round.found
  rw [round.left]
  exact length_erase_find? search

/-- What was reported and what is left never exceed the text at the start. -/
theorem Rounds.total_le (rounds : Rounds text words rest) :
    total words + rest.length ≤ text.length := by
  induction rounds with
  | nil => simp [total]
  | cons round _ ih =>
    have shorter := round.length_le
    rw [total_cons]
    omega

theorem Rounds.two_mul_length_le (rounds : Rounds text words rest) :
    2 * words.length ≤ total words := by
  induction rounds with
  | nil => simp
  | cons round _ ih =>
    have long := round.two_le
    rw [total_cons, List.length_cons]
    omega

/-- The extraction is what the rounds report until the search finds nothing more. -/
theorem extract_eq_iff :
    extract text = words ↔ ∃ rest, Rounds text words rest ∧ find? rest = none := by
  constructor
  · rintro rfl
    fun_induction extract text with
    | case1 text search => exact ⟨text, .nil, search⟩
    | case2 text found search ih =>
      obtain ⟨rest, rounds, ended⟩ := ih
      exact ⟨rest, .cons ⟨by rw [search, Option.map_some], rfl⟩ rounds, ended⟩
  · rintro ⟨rest, rounds, ended⟩
    induction rounds with
    | nil => exact extract_of_none ended
    | cons round _ ih =>
      obtain ⟨found, search, rfl⟩ := Option.map_eq_some_iff.mp round.found
      rw [extract_of_some search, ← round.left, ih ended]

theorem sum_length_spellings (text : String) :
    ((spellings text).map String.length).sum = total (extract text.toList) := by
  simp [spellings, total, Function.comp_def]

/-- Each round takes at least the reported reference from the working text, and the reference has
two characters or more. So there are at most half as many rounds as characters, the rounds come to
an end with the extraction reported, and the extraction is no longer than the text. -/
theorem extract_budget (text : String) :
    (∀ working word next, Round working word next →
      2 ≤ word.length ∧ next.length + word.length ≤ working.length) ∧
    (∀ words rest, Rounds text.toList words rest →
      2 * words.length ≤ text.length ∧ total words + rest.length ≤ text.length) ∧
    (∃ rest, Rounds text.toList (extract text.toList) rest ∧ find? rest = none) ∧
    ((spellings text).map String.length).sum ≤ text.length := by
  obtain ⟨last, complete, ended⟩ := extract_eq_iff.mp (Eq.refl (extract text.toList))
  refine ⟨fun working word next round => ⟨round.two_le, round.length_le⟩, ?_,
    ⟨last, complete, ended⟩, ?_⟩
  · intro words rest rounds
    have within := rounds.total_le
    have many := rounds.two_mul_length_le
    rw [String.length_toList] at within
    omega
  · have within := complete.total_le
    rw [String.length_toList] at within
    rw [sum_length_spellings]
    omega

/-- The removal of `$x` brings two backslashes together, and they no longer escape `$a`. -/
def releasingText : String := "$x \\$x\\$a"

theorem releasingText_budget :
    references releasingText.toList = ["$x".toList] ∧
    Round releasingText.toList "$x".toList " \\\\$a".toList ∧
    Rounds releasingText.toList ["$x".toList, "$a".toList] " \\\\".toList ∧
    (2 ≤ "$x".toList.length ∧
      " \\\\$a".toList.length + "$x".toList.length ≤ releasingText.toList.length) ∧
    2 * ["$x".toList, "$a".toList].length ≤ releasingText.length ∧
    total ["$x".toList, "$a".toList] + " \\\\".toList.length ≤ releasingText.length := by
  have read : references releasingText.toList = ["$x".toList] := by decide +kernel
  have first : Round releasingText.toList "$x".toList " \\\\$a".toList :=
    ⟨by decide +kernel, by decide +kernel⟩
  have second : Round " \\\\$a".toList "$a".toList " \\\\".toList :=
    ⟨by decide +kernel, by decide +kernel⟩
  have rounds := Rounds.cons first (.cons second .nil)
  obtain ⟨shorter, within, _⟩ := extract_budget releasingText
  exact ⟨read, first, rounds, shorter _ _ _ first, within _ _ rounds⟩

end QueryLint.Reference
