import QueryLint.Proofs.Text.Readers
import QueryLint.Suppression

/-! Which comments silence rules, and which rules. A comment is read off its parts: the mark, the
words `no critic` and, unless it is bare, a closed list of names. A list that is not closed does
not count, and leaves the comment bare. -/
namespace QueryLint.Silence

open Text

/-- The text starts with the mark and the two words, in any case, and goes on with `tail`, where
the second word ends. -/
def Opens (text tail : List Char) : Prop :=
  ∃ lead gap no wide critic, Blank lead ∧ Blank gap ∧ Spells ['n', 'o'] no ∧
    wide ≠ [] ∧ Blank wide ∧ Spells ['c', 'r', 'i', 't', 'i', 'c'] critic ∧
    (∀ c ∈ tail.head?, isWord c = false) ∧
    text = lead ++ '#' :: '#' :: (gap ++ (no ++ (wide ++ (critic ++ tail))))

/-- The list stands in closed parentheses at the start of the text, blanks aside. -/
def Encloses (tail list : List Char) : Prop :=
  ∃ gap rest, Blank gap ∧ ')' ∉ list ∧ tail = gap ++ '(' :: (list ++ ')' :: rest)

/-- The comment silences something. -/
def Silences (comment : String) : Prop := ∃ tail, Opens comment.toList tail

/-- The comment names no rules, and so silences all. -/
def Bare (comment : String) : Prop :=
  ∃ tail, Opens comment.toList tail ∧ ∀ list, ¬ Encloses tail list

/-- The comment lists the rule. -/
def Lists (comment rule : String) : Prop :=
  ∃ tail list, Opens comment.toList tail ∧ Encloses tail list ∧ IsField list rule.toList

variable {text tail list : List Char} {comment rule : String} {silence : Silence}

theorem ofChars?_of_opens (opens : Opens text tail) : ofChars? text = some (ofTail tail) := by
  obtain ⟨lead, gap, no, wide, critic, leading, gapped, first, filled, blank, second, ends, rfl⟩ :=
    opens
  have mark : Solid ('#' :: '#' :: (gap ++ (no ++ (wide ++ (critic ++ tail))))) :=
    solid_cons (by decide)
  have start : skipBlanks (gap ++ (no ++ (wide ++ (critic ++ tail)))) =
      no ++ (wide ++ (critic ++ tail)) :=
    skipBlanks_append gapped (solid_of_spells (by decide) first)
  have words : Annotation.afterBlanks? (wide ++ (critic ++ tail)) = some (critic ++ tail) :=
    Annotation.afterBlanks?_append filled blank (solid_of_spells (by decide) second)
  simp only [ofChars?, skipBlanks_append leading mark, start, stripSpelling?_append first, words,
    stripSpelling?_append second, atWordEnd_iff.mpr ends, bind, Option.bind, if_true]

theorem exists_opens (found : ofChars? text = some silence) :
    ∃ tail, Opens text tail ∧ silence = ofTail tail := by
  obtain ⟨lead, leading, split⟩ := exists_blanks text
  rw [ofChars?] at found
  split at found
  · rename_i rest mark
    simp only [bind, Option.bind_eq_some_iff] at found
    obtain ⟨behind, no, after, wide, tail, critic, ends⟩ := found
    obtain ⟨gap, gapped, start⟩ := exists_blanks rest
    obtain ⟨first, spelled, no_eq⟩ := exists_spelling no
    obtain ⟨blanks, filled, blank, wide_eq⟩ := Annotation.exists_afterBlanks wide
    obtain ⟨second, spelled', critic_eq⟩ := exists_spelling critic
    split at ends
    · rename_i ended
      refine ⟨tail, ⟨lead, gap, first, blanks, second, leading, gapped, spelled, filled, blank,
        spelled', atWordEnd_iff.mp ended, ?_⟩, (Option.some.inj ends).symm⟩
      rw [← critic_eq, ← wide_eq, ← no_eq, ← start, ← mark]
      exact split
    · contradiction
  · contradiction

theorem ofTail_of_encloses (encloses : Encloses tail list) :
    ofTail tail = only (.ofList ((fields list).map String.ofList)) := by
  obtain ⟨gap, rest, blank, open_, rfl⟩ := encloses
  have start : Solid ('(' :: (list ++ ')' :: rest)) := solid_cons (by decide)
  have listed : Annotation.listed? (list ++ ')' :: rest) = some list :=
    Annotation.listed?_eq_some_iff.mpr ⟨open_, rest, rfl⟩
  simp only [ofTail, skipBlanks_append blank start, listed]

theorem ofTail_of_bare (bare : ∀ list, ¬ Encloses tail list) : ofTail tail = all := by
  obtain ⟨gap, blank, split⟩ := exists_blanks tail
  rw [ofTail]
  split
  · rename_i list start
    cases listed : Annotation.listed? list with
    | none => rfl
    | some body =>
      obtain ⟨open_, rest, rfl⟩ := Annotation.listed?_eq_some_iff.mp listed
      exact absurd ⟨gap, rest, blank, open_, start ▸ split⟩ (bare body)
  · rfl

theorem ofComment?_eq_none : ofComment? comment = none ↔ ¬ Silences comment := by
  constructor
  · rintro silent ⟨tail, opens⟩
    rw [ofComment?, ofChars?_of_opens opens] at silent
    contradiction
  · intro other
    cases found : ofComment? comment with
    | none => rfl
    | some silence =>
      obtain ⟨tail, opens, _⟩ := exists_opens found
      exact absurd ⟨tail, opens⟩ other

theorem ofComment?_eq_all : ofComment? comment = some all ↔ Bare comment := by
  constructor
  · intro found
    obtain ⟨tail, opens, whole⟩ := exists_opens found
    refine ⟨tail, opens, fun list encloses => ?_⟩
    rw [ofTail_of_encloses encloses] at whole
    contradiction
  · rintro ⟨tail, opens, bare⟩
    rw [ofComment?, ofChars?_of_opens opens, ofTail_of_bare bare]

/-- A comment that is not bare silences the rules that it lists. -/
theorem mem_of_ofComment? {rules : NameSet} (found : ofComment? comment = some (only rules)) :
    rule ∈ rules ↔ Lists comment rule := by
  have lists : ∀ tail list, Opens comment.toList tail → Encloses tail list →
      (rule ∈ rules ↔ IsField list rule.toList) := by
    intro tail list opens encloses
    rw [ofComment?, ofChars?_of_opens opens, ofTail_of_encloses encloses] at found
    injection found with same
    injection same with same
    rw [← same, NameSet.mem_ofList, List.mem_map, ← mem_fields_iff]
    constructor
    · rintro ⟨name, member, rfl⟩
      rwa [String.toList_ofList]
    · intro member
      exact ⟨rule.toList, member, String.ofList_toList⟩
  constructor
  · intro member
    obtain ⟨tail, opens, whole⟩ := exists_opens found
    by_cases bare : ∀ list, ¬ Encloses tail list
    · rw [ofTail_of_bare bare] at whole
      contradiction
    · obtain ⟨list, encloses⟩ := Classical.not_forall_not.mp bare
      exact ⟨tail, list, opens, encloses, (lists tail list opens encloses).mp member⟩
  · rintro ⟨tail, list, opens, encloses, named⟩
    exact (lists tail list opens encloses).mpr named

/-- What a comment silences: a bare one every rule, any other the rules it lists. -/
theorem covers_ofComment? :
    (∃ silence, ofComment? comment = some silence ∧ silence.covers rule) ↔
      Bare comment ∨ Lists comment rule := by
  constructor
  · rintro ⟨silence, found, covers⟩
    cases silence with
    | all => exact .inl (ofComment?_eq_all.mp found)
    | only rules => exact .inr ((mem_of_ofComment? found).mp (by simpa [Silence.covers] using covers))
  · rintro (bare | listed)
    · exact ⟨all, ofComment?_eq_all.mpr bare, rfl⟩
    · cases found : ofComment? comment with
      | none =>
        obtain ⟨tail, _, opens, _⟩ := listed
        exact absurd ⟨tail, opens⟩ (ofComment?_eq_none.mp found)
      | some silence =>
        refine ⟨silence, rfl, ?_⟩
        cases silence with
        | all => rfl
        | only rules => simpa [Silence.covers] using (mem_of_ofComment? found).mpr listed

end QueryLint.Silence
