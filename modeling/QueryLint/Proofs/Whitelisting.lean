import QueryLint.Proofs.Reference.Pieces
import QueryLint.Proofs.Statement.Reading

/-! What a silent literal says about the references in it. The extraction works on a text from
which it removes each spelling it has found, so a reference is either extracted or lost to one
of these removals; nothing else keeps it from being listed. -/
namespace QueryLint

namespace Reference

/-- The texts that the extraction searches, one for each round. -/
inductive Working : List Char → List Char → Prop
  | start {text : List Char} : Working text text
  | round {text working : List Char} {found : Occurrence} :
      find? text = some found → Working (Text.erase found.word text) working →
      Working text working

/-- A round finds `removed` and takes it out everywhere. With its copies goes the other reference
`lost`, which stands in one piece of the text with such a copy. -/
structure LosesAt (working removed lost : List Char) : Prop where
  found : (find? working).map Occurrence.word = some removed
  other : lost ≠ removed
  read : lost ∈ references working
  gone : lost ∉ references (Text.erase removed working)
  touched : ∃ piece ∈ pieces working, lost ∈ references piece ∧ removed <:+: piece

/-- Some round of the extraction loses a reference. -/
def Loses (text removed lost : List Char) : Prop :=
  ∃ working, Working text working ∧ LosesAt working removed lost

theorem losesAt_of_gone {working lost : List Char} {found : Occurrence}
    (search : find? working = some found) (other : lost ≠ found.word)
    (read : lost ∈ references working)
    (gone : lost ∉ references (Text.erase found.word working)) :
    LosesAt working found.word lost := by
  have isReference := findFrom_isReference search
  exact {
    found := by rw [search, Option.map_some]
    other, read, gone
    touched := exists_piece_of_gone isReference.ne_nil isReference.inReference read gone }

/-- A reference is extracted unless one that is extracted takes it along. -/
theorem mem_extract_or_loses {text reference : List Char} (read : reference ∈ references text) :
    reference ∈ extract text ∨ ∃ removed ∈ extract text, Loses text removed reference := by
  fun_induction extract text with
  | case1 text none =>
    rw [references_of_none none] at read
    contradiction
  | case2 text found search ih =>
    by_cases same : reference = found.word
    · exact .inl (same ▸ List.mem_cons_self)
    · by_cases kept : reference ∈ references (Text.erase found.word text)
      · rcases ih kept with later | ⟨removed, later, working, reached, loses⟩
        · exact .inl (List.mem_cons_of_mem _ later)
        · exact .inr ⟨removed, List.mem_cons_of_mem _ later, working, .round search reached, loses⟩
      · exact .inr ⟨found.word, List.mem_cons_self, text, .start,
          losesAt_of_gone search same read kept⟩

theorem ofList_mem_spellings {text : String} {reference : List Char} :
    String.ofList reference ∈ spellings text ↔ reference ∈ extract text.toList := by
  simp [spellings, String.ofList_inj]

end Reference

open Reference

/-- A silent literal holds no reference that is neither safe on its line nor lost to a spelling
that is. Silence vouches for all references of the literal, whatever the table, just when all
of them are extracted. -/
theorem references_of_silent [Nesting] {token : Token} (inside : token.isInterpolated = .ok true) :
    (∀ table : LineTable NameSet, unsafeVariables ⟨some table⟩ token = .ok [] →
      ∃ allowed, SafeVariables.lookup ⟨some table⟩ (.int token.effectiveLine) = .ok allowed ∧
        ∀ reference ∈ references token.literalText.toList,
          String.ofList reference ∈ allowed ∨
          ∃ removed, String.ofList removed ∈ allowed ∧
            Loses token.literalText.toList removed reference) ∧
    (1 ≤ token.effectiveLine →
      ((∀ table : LineTable NameSet, unsafeVariables ⟨some table⟩ token = .ok [] →
          ∀ reference ∈ references token.literalText.toList,
            String.ofList reference ∈ table.names token.effectiveLine) ↔
        references token.literalText.toList ⊆ extract token.literalText.toList)) := by
  have interpolates := Token.isInterpolated_iff.mp inside
  constructor
  · intro table silent
    obtain ⟨allowed, known, safe⟩ := (unsafeVariables_eq_nil interpolates).mp silent
    refine ⟨allowed, known, fun reference read => ?_⟩
    rcases mem_extract_or_loses read with listed | ⟨removed, listed, loses⟩
    · exact .inl (safe _ (ofList_mem_spellings.mpr listed))
    · exact .inr ⟨removed, safe _ (ofList_mem_spellings.mpr listed), loses⟩
  · intro positive
    constructor
    · intro sound reference read
      -- The table that lists just what is extracted silences the literal.
      let table : LineTable NameSet :=
        [(token.effectiveLine, .ofList (spellings token.literalText))]
      have names : table.names token.effectiveLine = .ofList (spellings token.literalText) := by
        simp [table, LineTable.names, LineTable.get?]
      have silent : unsafeVariables ⟨some table⟩ token = .ok [] := by
        refine (unsafeVariables_eq_nil interpolates).mpr ⟨_, onLine_built table positive, ?_⟩
        intro spelling member
        rw [names]
        exact NameSet.mem_ofList.mpr member
      have safe := sound table silent reference read
      rw [names] at safe
      exact ofList_mem_spellings.mp (NameSet.mem_ofList.mp safe)
    · intro complete table silent reference read
      obtain ⟨allowed, known, safe⟩ := (unsafeVariables_eq_nil interpolates).mp silent
      rw [onLine_built table positive, Except.ok.injEq] at known
      rw [known]
      exact safe _ (ofList_mem_spellings.mpr (complete read))

def prefixedLiteral : Token :=
  { kind := .literalDouble, content := "SELECT $id $identifier", line := 1 }

def prefixedTable : LineTable NameSet := [(1, .ofList ["$id"])]

theorem prefixedLiteral_reads :
    "$identifier".toList ∈ references prefixedLiteral.literalText.toList := by
  have read : references prefixedLiteral.literalText.toList =
      ["$id".toList, "$identifier".toList] := by
    decide +kernel
  rw [read]
  decide

theorem prefixedLiteral_quiet : unsafeVariables ⟨some prefixedTable⟩ prefixedLiteral = .ok [] := by
  have listed : ∀ spelling ∈ spellings prefixedLiteral.literalText,
      spelling ∈ prefixedTable.names prefixedLiteral.effectiveLine := by
    decide +kernel
  exact (unsafeVariables_eq_nil (.inl rfl)).mpr ⟨_, onLine_built prefixedTable (by decide), listed⟩

theorem prefixedLiteral_allowed [Nesting] {allowed : NameSet}
    (known : SafeVariables.lookup ⟨some prefixedTable⟩ (.int prefixedLiteral.effectiveLine) =
      .ok allowed) : "$identifier" ∉ allowed := by
  injection known with same
  subst same
  decide

theorem prefixedLiteral_loses :
    prefixedLiteral.isInterpolated = .ok true ∧
    unsafeVariables ⟨some prefixedTable⟩ prefixedLiteral = .ok [] ∧
    ∃ removed, Loses prefixedLiteral.literalText.toList removed "$identifier".toList := by
  refine ⟨rfl, prefixedLiteral_quiet, ?_⟩
  obtain ⟨allowed, known, safe⟩ := (references_of_silent rfl).1 _ prefixedLiteral_quiet
  obtain ⟨removed, _, loses⟩ :=
    (safe _ prefixedLiteral_reads).resolve_left (prefixedLiteral_allowed known)
  exact ⟨removed, loses⟩

/-- A safe variable silences every variable whose name starts like its own. -/
theorem silence_overlooks_longer_names :
    ¬ ∃ _ : Nesting, ∀ (token : Token) (table : LineTable NameSet),
      token.isInterpolated = .ok true → unsafeVariables ⟨some table⟩ token = .ok [] →
      ∃ allowed, SafeVariables.lookup ⟨some table⟩ (.int token.effectiveLine) = .ok allowed ∧
        ∀ reference ∈ references token.literalText.toList, String.ofList reference ∈ allowed := by
  rintro ⟨room, sound⟩
  obtain ⟨allowed, known, safe⟩ := sound _ _ rfl prefixedLiteral_quiet
  exact prefixedLiteral_allowed known (safe _ prefixedLiteral_reads)

end QueryLint
