import Mathlib.Data.List.TakeWhile
import QueryLint.Proofs.Limits
import QueryLint.Proofs.SafeVariables
import QueryLint.Proofs.Statement.Chain

/-! What the scan of a statement means, read off its tokens as a whole. The first token that
fails decides; without one, the scan lists in order what each token brings into the query.
The joining flag of the scan stands for the last token that is neither a comment nor of no
known kind. -/
namespace QueryLint

namespace Token

/-- The content is `lead`, then a character other than `q`, then anything. -/
def OpensWith (token : Token) (lead : List Char) : Prop :=
  ∃ c rest, c ≠ 'q' ∧ token.content.toList = lead ++ c :: rest

/-- A literal whose variables are replaced by their values. -/
def Interpolates (token : Token) : Prop :=
  token.kind = .literalDouble ∨
  token.kind = .literalInterpolate ∧ token.OpensWith ['q', 'q'] ∨
  token.kind = .blockLiteral ∧ token.blockMode = some .interpolate

/-- A quote-like literal that opens with neither of the two leads. -/
def Unreadable (token : Token) : Prop :=
  token.kind = .literalInterpolate ∧ ¬ token.OpensWith ['q'] ∧ ¬ token.OpensWith ['q', 'q']

def Misplaced (token : Token) : Prop := token.Interpolates ∧ token.effectiveLine < 1

def Fails (token : Token) : Prop := token.Unreadable ∨ token.Misplaced

theorem quoteLike?_single {text : List Char} :
    quoteLike? text = some false ↔ ∃ c rest, c ≠ 'q' ∧ text = ['q'] ++ c :: rest := by
  fun_cases quoteLike? text <;> simp_all

theorem quoteLike?_double {text : List Char} :
    quoteLike? text = some true ↔ ∃ c rest, c ≠ 'q' ∧ text = ['q', 'q'] ++ c :: rest := by
  fun_cases quoteLike? text <;> simp_all

instance (token : Token) : Decidable (token.OpensWith ['q', 'q']) :=
  decidable_of_iff (quoteLike? token.content.toList = some true) quoteLike?_double

instance (token : Token) : Decidable token.Interpolates :=
  inferInstanceAs (Decidable (_ ∨ _ ∧ _ ∨ _ ∧ _))

theorem isInterpolated_of_unreadable {token : Token} (unreadable : token.Unreadable) :
    token.isInterpolated = .error (.unknownFormat token.content) := by
  obtain ⟨kind, single, double⟩ := unreadable
  cases lead : quoteLike? token.content.toList with
  | none => simp [isInterpolated, kind, lead]
  | some doubled =>
    cases doubled with
    | false => exact absurd (quoteLike?_single.mp lead) single
    | true => exact absurd (quoteLike?_double.mp lead) double

theorem isInterpolated_of_readable {token : Token} (readable : ¬ token.Unreadable) :
    token.isInterpolated = .ok (decide token.Interpolates) := by
  cases kind : token.kind with
  | literalInterpolate =>
    cases lead : quoteLike? token.content.toList with
    | none =>
      refine absurd ⟨kind, fun single => ?_, fun double => ?_⟩ readable
      · simp [quoteLike?_single.mpr single] at lead
      · simp [quoteLike?_double.mpr double] at lead
    | some doubled =>
      have double : token.OpensWith ['q', 'q'] ↔ doubled = true := by
        rw [OpensWith, ← quoteLike?_double, lead, Option.some.injEq]
      simp [isInterpolated, Interpolates, kind, lead, double]
  | blockLiteral => simp [isInterpolated, Interpolates, kind, beq_eq_decide]
  | _ => simp [isInterpolated, Interpolates, kind]

theorem isInterpolated_iff {token : Token} :
    token.isInterpolated = .ok true ↔ token.Interpolates := by
  by_cases unreadable : token.Unreadable
  · have apart : ¬ token.Interpolates := by
      obtain ⟨kind, _, double⟩ := unreadable
      simp [Interpolates, kind, double]
    simp [isInterpolated_of_unreadable unreadable, apart]
  · simp [isInterpolated_of_readable unreadable]

/-- Comments and tokens of no known kind are passed over. -/
def isSignificant (token : Token) : Bool := token.kind ≠ .comment && token.kind ≠ .other

end Token

/-- The last significant token is an operator that joins what stands on its two sides. -/
def JoinsOn (before : List Token) : Prop :=
  ∃ last ∈ (before.filter Token.isSignificant).getLast?, last.kind = .operator ∧ last.isJoin

instance (before : List Token) : Decidable (JoinsOn before) :=
  inferInstanceAs (Decidable (∃ last ∈ (before.filter Token.isSignificant).getLast?,
    last.kind = .operator ∧ last.isJoin))

/-- The variables that a literal interpolates and that the table does not list on its line. -/
def interpolated (table : LineTable NameSet) (token : Token) : List String :=
  if token.Interpolates then
    (Reference.spellings token.literalText).filter (· ∉ table.names token.effectiveLine)
  else []

/-- What a token brings into the query, given the tokens before it. -/
def exposedBy (table : LineTable NameSet) (before : List Token) (token : Token) : List String :=
  if token.kind = .symbol ∧ JoinsOn before then [token.content] else interpolated table token

def exposures (table : LineTable NameSet) (tokens : List Token) : List String :=
  tokens.zipIdx.flatMap fun (token, place) => exposedBy table (tokens.take place) token

/-- The statement starts with a literal that looks like a query. -/
def StartsQuery (tokens : List Token) : Prop := ∃ first ∈ tokens.head?, first.isEntry

/-- How the scan of a statement has to end. -/
inductive Outcome (table : LineTable NameSet) (tokens : List Token) : StatementScan → Prop where
  | idle : ¬ StartsQuery tokens → Outcome table tokens (.complete [])
  | unreadable {before after : List Token} {token : Token} : StartsQuery tokens →
      tokens = before ++ token :: after → (∀ earlier ∈ before, ¬ earlier.Fails) →
      token.Unreadable → Outcome table tokens (.unreadable token token.content)
  | misplaced {before after : List Token} {token : Token} : StartsQuery tokens →
      tokens = before ++ token :: after → (∀ earlier ∈ before, ¬ earlier.Fails) →
      token.Misplaced → token.effectiveLine.natAbs < Nat.pow 10 digitLimit →
      Outcome table tokens (.failed (.lineNotPositive (.int token.effectiveLine)))
  /-- The line of the first token that fails is too long to be named. -/
  | unnamed {before after : List Token} {token : Token} : StartsQuery tokens →
      tokens = before ++ token :: after → (∀ earlier ∈ before, ¬ earlier.Fails) →
      token.Misplaced → Nat.pow 10 digitLimit ≤ token.effectiveLine.natAbs →
      Outcome table tokens (.failed (.unshowable digitLimit))
  | complete : StartsQuery tokens → (∀ token ∈ tokens, ¬ token.Fails) →
      Outcome table tokens (.complete (exposures table tokens))

/-- What one token does to the reading: what it brings into the query, and whether it joins on
the token behind it. -/
def readToken (safe : SafeVariables) (joining : Bool) (token : Token) :
    Except Fault (List String × Bool) :=
  match token.kind with
  | .operator => .ok ([], token.isJoin)
  | .symbol => .ok (if joining then [token.content] else [], false)
  | .terminator | .comment | .other => .ok ([], joining)
  | .literalSingle | .literalDouble | .literalInterpolate | .blockLiteral =>
    (unsafeVariables safe token).map (·, false)

section Literals

variable {table : LineTable NameSet} {token : Token}

theorem unsafeVariables_of_unreadable (unreadable : token.Unreadable) :
    unsafeVariables ⟨some table⟩ token = .error (.unknownFormat token.content) := by
  simp [unsafeVariables, Token.isInterpolated_of_unreadable unreadable, bind, Except.bind]

theorem unsafeVariables_of_misplaced (misplaced : token.Misplaced) :
    unsafeVariables ⟨some table⟩ token = .error ((overlong? token.effectiveLine).getD
      (.lineNotPositive (.int token.effectiveLine))) := by
  have inside := Token.isInterpolated_iff.mpr misplaced.1
  simp [unsafeVariables, inside, bind, Except.bind, onLine_refused table misplaced.2]

theorem effectiveLine_of_not_fails (clean : ¬ token.Fails) (inside : token.Interpolates) :
    1 ≤ token.effectiveLine := by
  rcases Int.lt_or_le token.effectiveLine 1 with low | high
  · exact absurd (.inr ⟨inside, low⟩) clean
  · exact high

theorem unsafeVariables_of_not_fails (clean : ¬ token.Fails) :
    unsafeVariables ⟨some table⟩ token = .ok (interpolated table token) := by
  have readable := (not_or.mp clean).1
  simp only [unsafeVariables, Token.isInterpolated_of_readable readable, bind, Except.bind]
  by_cases inside : token.Interpolates
  · have positive := effectiveLine_of_not_fails clean inside
    simp [inside, interpolated, onLine_built table positive, pure, Except.pure]
  · simp [inside, interpolated, pure, Except.pure]

/-- A literal is silent once all that it interpolates is safe on its line. -/
theorem unsafeVariables_eq_nil {safe : SafeVariables} (inside : token.Interpolates) :
    unsafeVariables safe token = .ok [] ↔
      ∃ allowed, safe.onLine token.effectiveLine = .ok allowed ∧
        ∀ spelling ∈ Reference.spellings token.literalText, spelling ∈ allowed := by
  simp only [unsafeVariables, Token.isInterpolated_iff.mpr inside, bind, Except.bind, if_true]
  cases safe.onLine token.effectiveLine with
  | error fault => simp
  | ok allowed => simp [pure, Except.pure]

end Literals

theorem joinsOn_append_significant {before : List Token} {token : Token}
    (significant : token.isSignificant) :
    JoinsOn (before ++ [token]) ↔ token.kind = .operator ∧ token.isJoin := by
  simp [JoinsOn, significant]

theorem joinsOn_append_passed {before : List Token} {token : Token}
    (passed : token.isSignificant = false) : JoinsOn (before ++ [token]) ↔ JoinsOn before := by
  simp [JoinsOn, passed]

section Reading

variable {table : LineTable NameSet} {token : Token} {before after tokens rest : List Token}

theorem map_nil_append (result : Except (Token × Fault) (List String)) :
    result.map ([] ++ ·) = result := by
  cases result <;> rfl

theorem not_fails_of_kind (kind : token.kind.isLiteral = false) :
    ¬ token.Interpolates ∧ ¬ token.Fails := by
  cases known : token.kind <;>
    simp_all [Token.Fails, Token.Misplaced, Token.Unreadable, Token.Interpolates,
      TokenKind.isLiteral, TokenKind.literals]

theorem ne_of_isLiteral (literal : token.kind.isLiteral) :
    token.kind ≠ .terminator ∧ token.kind ≠ .symbol := by
  cases known : token.kind <;> simp_all [TokenKind.isLiteral, TokenKind.literals]

theorem exposedBy_eq_nil (kind : token.kind.isLiteral = false) (plain : token.kind ≠ .symbol) :
    exposedBy table before token = [] := by
  simp [exposedBy, plain, interpolated, (not_fails_of_kind kind).1]

/-- The reading takes one token after another. -/
theorem readTokens_cons {safe : SafeVariables} (inside : token.kind ≠ .terminator)
    (joining : Bool) :
    readTokens safe joining (token :: rest) =
      match readToken safe joining token with
      | .error fault => .error (token, fault)
      | .ok (brought, joins) => (readTokens safe joins rest).map (brought ++ ·) := by
  cases kind : token.kind with
  | terminator => exact absurd kind inside
  | operator | comment | other =>
    simp only [readTokens, readToken, kind]
    exact (map_nil_append _).symm
  | symbol =>
    cases joining with
    | true =>
      simp only [readTokens, readToken, kind]
      rfl
    | false =>
      simp only [readTokens, readToken, kind]
      exact (map_nil_append _).symm
  | _ =>
    simp only [readTokens, readToken, kind]
    cases unsafeVariables safe token <;> rfl

theorem readToken_literal {safe : SafeVariables} (kind : token.kind.isLiteral) (joining : Bool) :
    readToken safe joining token = (unsafeVariables safe token).map (·, false) := by
  cases known : token.kind <;>
    simp_all [TokenKind.isLiteral, TokenKind.literals, readToken]

/-- One step of the reading. The flag says whether the tokens read so far end in a joining
operator, comments and unknown tokens aside, and goes on saying so. -/
theorem readToken_of_not_fails (inside : token.kind ≠ .terminator) (clean : ¬ token.Fails) :
    readToken ⟨some table⟩ (decide (JoinsOn before)) token =
      .ok (exposedBy table before token, decide (JoinsOn (before ++ [token]))) := by
  by_cases literal : token.kind.isLiteral
  · have flag : decide (JoinsOn (before ++ [token])) = false := by
      rw [decide_eq_false_iff_not, joinsOn_append_significant]
      all_goals
        cases known : token.kind <;>
          simp_all [TokenKind.isLiteral, TokenKind.literals, Token.isSignificant]
    have exposed : exposedBy table before token = interpolated table token := by
      simp [exposedBy, (ne_of_isLiteral literal).2]
    rw [readToken_literal literal, unsafeVariables_of_not_fails clean, flag, exposed]
    rfl
  · have other : token.kind.isLiteral = false := by simpa using literal
    cases kind : token.kind with
    | terminator => exact absurd kind inside
    | operator =>
      have flag : decide (JoinsOn (before ++ [token])) = token.isJoin := by
        simp [joinsOn_append_significant, Token.isSignificant, kind]
      rw [exposedBy_eq_nil other (by simp [kind]), flag, readToken]
      simp only [kind]
    | symbol =>
      have flag : decide (JoinsOn (before ++ [token])) = false := by
        simp [joinsOn_append_significant, Token.isSignificant, kind]
      have plain : interpolated table token = [] := by
        simp [interpolated, (not_fails_of_kind other).1]
      simp [flag, readToken, kind, exposedBy, plain]
    | comment | other =>
      have flag : JoinsOn (before ++ [token]) ↔ JoinsOn before :=
        joinsOn_append_passed (by simp [Token.isSignificant, kind])
      rw [exposedBy_eq_nil other (by simp [kind]), readToken]
      simp only [kind, flag]
    | _ => simp [kind, TokenKind.isLiteral, TokenKind.literals] at other

theorem readTokens_step (inside : token.kind ≠ .terminator) (clean : ¬ token.Fails) :
    readTokens ⟨some table⟩ (decide (JoinsOn before)) (token :: rest) =
      (readTokens ⟨some table⟩ (decide (JoinsOn (before ++ [token]))) rest).map
        (exposedBy table before token ++ ·) := by
  rw [readTokens_cons inside, readToken_of_not_fails inside clean]

/-- Without a failing token the reading lists what every token exposes. -/
theorem readTokens_clean (inside : ∀ token ∈ tokens, token.kind ≠ .terminator)
    (clean : ∀ token ∈ tokens, ¬ token.Fails) :
    readTokens ⟨some table⟩ (decide (JoinsOn before)) tokens =
      .ok ((tokens.zipIdx before.length).flatMap fun (token, place) =>
        exposedBy table ((before ++ tokens).take place) token) := by
  induction tokens generalizing before with
  | nil => rfl
  | cons token rest ih =>
    have later := @ih (before ++ [token])
      (fun other member => inside other (List.mem_cons_of_mem _ member))
      (fun other member => clean other (List.mem_cons_of_mem _ member))
    rw [readTokens_step (inside token List.mem_cons_self) (clean token List.mem_cons_self), later]
    simp [List.zipIdx_cons, Except.map]

/-- What a token exposes depends on the tokens before it, not on those behind it. -/
theorem exposures_concat (before : List Token) (token : Token) :
    exposures table (before ++ [token]) =
      exposures table before ++ exposedBy table before token := by
  have early : before.zipIdx.flatMap (fun (other, place) =>
      exposedBy table ((before ++ [token]).take place) other) = exposures table before := by
    refine List.flatMap_congr fun (other, place) member => ?_
    have within : place < before.length := by simpa using List.snd_lt_of_mem_zipIdx member
    simp only [List.take_append_of_le_length (Nat.le_of_lt within)]
  rw [exposures, List.zipIdx_append, List.flatMap_append, early]
  simp

/-- The first literal with a fault ends the reading, whatever was found before. -/
theorem readTokens_failing {seen : List Token} {fault : Fault}
    (inside : ∀ earlier ∈ before, earlier.kind ≠ .terminator)
    (clean : ∀ earlier ∈ before, ¬ earlier.Fails) (kind : token.kind.isLiteral)
    (result : unsafeVariables ⟨some table⟩ token = .error fault) :
    readTokens ⟨some table⟩ (decide (JoinsOn seen)) (before ++ token :: after) =
      .error (token, fault) := by
  induction before generalizing seen with
  | nil =>
    rw [List.nil_append, readTokens_cons (ne_of_isLiteral kind).1, readToken_literal kind, result]
    rfl
  | cons first before ih =>
    have later := @ih (seen ++ [first])
      (fun other member => inside other (List.mem_cons_of_mem _ member))
      (fun other member => clean other (List.mem_cons_of_mem _ member))
    rw [List.cons_append, readTokens_step (inside first List.mem_cons_self)
      (clean first List.mem_cons_self), later]
    rfl

theorem Token.Unreadable.isLiteral (unreadable : token.Unreadable) : token.kind.isLiteral := by
  simp [unreadable.1, TokenKind.isLiteral, TokenKind.literals]

theorem Token.Misplaced.isLiteral (misplaced : token.Misplaced) : token.kind.isLiteral := by
  rcases misplaced.1 with kind | ⟨kind, _⟩ | ⟨kind, _⟩ <;>
    simp [kind, TokenKind.isLiteral, TokenKind.literals]

/-- A token that fails is a literal with a fault of its own. -/
theorem Token.Fails.exists_fault (table : LineTable NameSet) (fails : token.Fails) :
    ∃ fault, token.kind.isLiteral ∧ unsafeVariables ⟨some table⟩ token = .error fault ∧
      fault ≠ .endlessStatement := by
  rcases fails with unreadable | misplaced
  · exact ⟨_, unreadable.isLiteral, unsafeVariables_of_unreadable unreadable, by simp⟩
  · refine ⟨_, misplaced.isLiteral, unsafeVariables_of_misplaced misplaced, ?_⟩
    cases found : overlong? token.effectiveLine with
    | none => simp
    | some fault => simp [(overlong?_eq_some found).1]

end Reading

theorem statement_inside (tokens : List Token) :
    ∀ token ∈ Pool.statement tokens, token.kind ≠ .terminator := by
  intro token member
  simpa using List.mem_takeWhile_imp member

/-- The scan asks the token it starts at, and this is the first one of the statement. -/
theorem startsQuery_statement {tokens : List Token} :
    StartsQuery (Pool.statement tokens) ↔ tokens.head?.any Token.isEntry := by
  cases tokens with
  | nil => simp [StartsQuery, Pool.statement]
  | cons first rest =>
    by_cases ended : first.kind = .terminator
    · have closed : first.isEntry = false := by
        simp [Token.isEntry, ended, TokenKind.isLiteral, TokenKind.literals]
      simp [StartsQuery, Pool.statement, ended, closed]
    · simp [StartsQuery, Pool.statement, ended]

section Scan

variable {pool : Pool} {table : LineTable NameSet} {start : Nat} {steps : List (Nat × Token)}

theorem scanStatement_idle (chain : pool.Chain (some start) steps)
    (idle : ¬ StartsQuery (Pool.statement (steps.map Prod.snd))) :
    scanStatement pool ⟨some table⟩ start = .complete [] := by
  rw [startsQuery_statement, ← Pool.token?_chain chain] at idle
  simp only [scanStatement, idle]
  rfl

theorem scanStatement_reading (chain : pool.Chain (some start) steps)
    (query : StartsQuery (Pool.statement (steps.map Prod.snd))) :
    scanStatement pool ⟨some table⟩ start = .ofReading true
      (readTokens ⟨some table⟩ (decide (JoinsOn [])) (Pool.statement (steps.map Prod.snd))) := by
  rw [startsQuery_statement, ← Pool.token?_chain chain] at query
  simp only [scanStatement, query, if_true, Pool.stretch_chain chain]
  rfl

theorem scanStatement_failing {before after : List Token} {token : Token} {fault : Fault}
    (chain : pool.Chain (some start) steps)
    (query : StartsQuery (Pool.statement (steps.map Prod.snd)))
    (split : Pool.statement (steps.map Prod.snd) = before ++ token :: after)
    (clean : ∀ earlier ∈ before, ¬ earlier.Fails) (kind : token.kind.isLiteral)
    (result : unsafeVariables ⟨some table⟩ token = .error fault) :
    scanStatement pool ⟨some table⟩ start = .ofReading true (.error (token, fault)) := by
  have inside := statement_inside (steps.map Prod.snd)
  rw [scanStatement_reading chain query, split, readTokens_failing
    (fun earlier member => inside earlier (by simp [split, member])) clean kind result]

theorem exists_first_failing {tokens : List Token} (fails : ∃ token ∈ tokens, token.Fails) :
    ∃ before token after, tokens = before ++ token :: after ∧
      (∀ earlier ∈ before, ¬ earlier.Fails) ∧ token.Fails := by
  induction tokens with
  | nil => simp at fails
  | cons first rest ih =>
    by_cases here : first.Fails
    · exact ⟨[], first, rest, rfl, by simp, here⟩
    · have later : ∃ token ∈ rest, token.Fails := by simpa [here] using fails
      obtain ⟨before, token, after, split, clean, failing⟩ := ih later
      refine ⟨first :: before, token, after, by simp [split], ?_, failing⟩
      intro earlier member
      rcases List.mem_cons.mp member with rfl | behind
      · exact here
      · exact clean earlier behind

/-- The tokens alone decide which kind of outcome is right. -/
theorem outcome_cases (tokens : List Token) :
    ¬ StartsQuery tokens ∨ (StartsQuery tokens ∧ ∀ token ∈ tokens, ¬ token.Fails) ∨
      ∃ outcome, (∀ exposed, outcome ≠ .complete exposed) ∧
        ∀ table, Outcome table tokens outcome := by
  by_cases query : StartsQuery tokens
  · by_cases fails : ∃ token ∈ tokens, token.Fails
    · obtain ⟨before, token, after, split, clean, failing⟩ := exists_first_failing fails
      rcases failing with unreadable | misplaced
      · exact .inr (.inr ⟨_, by simp, fun _ => .unreadable query split clean unreadable⟩)
      · by_cases short : token.effectiveLine.natAbs < Nat.pow 10 digitLimit
        · exact .inr (.inr ⟨_, by simp, fun _ => .misplaced query split clean misplaced short⟩)
        · exact .inr (.inr ⟨_, by simp, fun _ =>
            .unnamed query split clean misplaced (Nat.not_lt.mp short)⟩)
    · exact .inr (.inl ⟨query, fun token member failing => fails ⟨token, member, failing⟩⟩)
  · exact .inl query

theorem outcome_exists (table : LineTable NameSet) (tokens : List Token) :
    ∃ outcome, Outcome table tokens outcome := by
  rcases outcome_cases tokens with idle | ⟨query, clean⟩ | ⟨outcome, _, right⟩
  · exact ⟨_, .idle idle⟩
  · exact ⟨_, .complete query clean⟩
  · exact ⟨outcome, right table⟩

/-- The scan ends as its statement demands. -/
theorem scanStatement_of_outcome (chain : pool.Chain (some start) steps) {outcome : StatementScan}
    (demanded : Outcome table (Pool.statement (steps.map Prod.snd)) outcome) :
    scanStatement pool ⟨some table⟩ start = outcome := by
  cases demanded with
  | idle idle => exact scanStatement_idle chain idle
  | unreadable query split clean unreadable =>
    exact scanStatement_failing chain query split clean unreadable.isLiteral
      (unsafeVariables_of_unreadable unreadable)
  | @misplaced _ _ token query split clean misplaced short =>
    have refused := @unsafeVariables_of_misplaced table token misplaced
    rw [overlong?_eq_none_iff.mpr short] at refused
    exact scanStatement_failing chain query split clean misplaced.isLiteral refused
  | @unnamed _ _ token query split clean misplaced long =>
    have refused := @unsafeVariables_of_misplaced table token misplaced
    rw [overlong?_of_long long] at refused
    exact scanStatement_failing chain query split clean misplaced.isLiteral refused
  | complete query clean =>
    have inside := statement_inside (steps.map Prod.snd)
    rw [scanStatement_reading chain query, readTokens_clean inside clean]
    simp [StatementScan.ofReading, exposures]

/-- The scan along a finite chain ends in exactly one way, the one that the tokens before the
first terminator demand. -/
theorem scanStatement_eq_iff (chain : pool.Chain (some start) steps) (outcome : StatementScan) :
    scanStatement pool ⟨some table⟩ start = outcome ↔
      Outcome table (Pool.statement (steps.map Prod.snd)) outcome := by
  constructor
  · intro ends
    obtain ⟨demanded, right⟩ := outcome_exists table (Pool.statement (steps.map Prod.snd))
    rw [scanStatement_of_outcome chain right] at ends
    exact ends ▸ right
  · exact scanStatement_of_outcome chain

end Scan

/-- A query with a symbol joined on behind a comment, and an unreadable literal behind the
terminator. -/
def joinedPool : Pool := #[
  ⟨{ kind := .literalDouble, content := "SELECT $a, $b FROM t", line := 3 }, some 1⟩,
  ⟨{ kind := .operator, content := " . ", line := 3 }, some 2⟩,
  ⟨{ kind := .comment, content := "## SQL safe ($a)", line := 3 }, some 3⟩,
  ⟨{ kind := .symbol, content := "$where", line := 4 }, some 4⟩,
  ⟨{ kind := .terminator, content := ";", line := 4 }, some 5⟩,
  ⟨{ kind := .literalInterpolate, content := "qqq", line := 0 }, none⟩]

def joinedSteps : List (Nat × Token) := joinedPool.toList.zipIdx.map fun (node, index) =>
  (index, node.token)

def joinedTable : LineTable NameSet := [(3, .ofList ["$a"])]

theorem joinedPool_chain : joinedPool.Chain (some 0) joinedSteps :=
  .link rfl (.link rfl (.link rfl (.link rfl (.link rfl (.link rfl .done)))))

theorem joinedSteps_query : StartsQuery (Pool.statement (joinedSteps.map Prod.snd)) := by
  refine startsQuery_statement.mpr ?_
  decide +kernel

theorem joinedSteps_clean :
    ∀ token ∈ Pool.statement (joinedSteps.map Prod.snd), ¬ token.Fails := by
  simp [Pool.statement, joinedSteps, joinedPool, Token.Fails, Token.Unreadable, Token.Misplaced,
    Token.Interpolates, Token.effectiveLine]

theorem joinedSteps_outcome :
    Outcome joinedTable (Pool.statement (joinedSteps.map Prod.snd))
      (.complete ["$b", "$where"]) := by
  have exposed : exposures joinedTable (Pool.statement (joinedSteps.map Prod.snd)) =
      ["$b", "$where"] := by
    decide +kernel
  rw [← exposed]
  exact .complete joinedSteps_query joinedSteps_clean

theorem joinedPool_scan : joinedPool.Chain (some 0) joinedSteps ∧
    scanStatement joinedPool ⟨some joinedTable⟩ 0 = .complete ["$b", "$where"] :=
  ⟨joinedPool_chain, (scanStatement_eq_iff joinedPool_chain _).mpr joinedSteps_outcome⟩

/-- The variables interpolated into literals are not all that a scan reports. -/
theorem literals_alone_fall_short : ¬ ∀ (pool : Pool) (table : LineTable NameSet) (start : Nat)
    (steps : List (Nat × Token)), pool.Chain (some start) steps →
    StartsQuery (Pool.statement (steps.map Prod.snd)) →
    (∀ token ∈ Pool.statement (steps.map Prod.snd), ¬ token.Fails) →
    scanStatement pool ⟨some table⟩ start =
      .complete ((Pool.statement (steps.map Prod.snd)).flatMap (interpolated table)) := by
  intro claim
  have ends := claim joinedPool joinedTable 0 joinedSteps joinedPool_chain joinedSteps_query
    joinedSteps_clean
  have literals : (Pool.statement (joinedSteps.map Prod.snd)).flatMap (interpolated joinedTable) =
      ["$b"] := by
    decide +kernel
  rw [scanStatement_of_outcome joinedPool_chain joinedSteps_outcome, literals] at ends
  simp at ends

end QueryLint
