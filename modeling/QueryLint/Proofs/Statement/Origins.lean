import Mathlib.Data.List.Induction
import QueryLint.Proofs.Statement.Halting

/-! Where the variables that a scan lists come from. Every token of a statement brings in its own
variables, and the tokens before it decide no more than whether it is joined on. So a scan that
starts at a later query of the statement lists what the earlier one lists from there on, and
annotations take away variables of the literals on their lines and nothing else. -/
namespace QueryLint

namespace Pool

variable {pool : Pool} {start : Option Nat} {steps before after : List (Nat × Token)}
  {here links : Nat} {token : Token}

theorem chain_token (chain : pool.Chain start steps) :
    ∀ step ∈ steps, pool.token? step.1 = some step.2 := by
  induction chain with
  | done => simp
  | link found _ ih =>
    intro step member
    rcases List.mem_cons.mp member with rfl | behind
    · simp [token?, found]
    · exact ih step behind

theorem chain_behind (chain : pool.Chain start (before ++ (here, token) :: after)) :
    pool.Chain (some here) ((here, token) :: after) := by
  induction before generalizing start with
  | nil =>
    cases chain with
    | link found later => exact .link found later
  | cons step before ih =>
    cases chain with
    | link _ later => exact ih later

/-- The links lead along the chain. -/
theorem follow_chain (chain : pool.Chain start steps) (links : Nat) :
    pool.follow links start = (steps[links]?).map Prod.fst := by
  induction chain generalizing links with
  | done =>
    induction links with
    | zero => rfl
    | succ links ih => rw [follow_succ, ih]; rfl
  | @link index node steps found later ih =>
    cases links with
    | zero => rfl
    | succ links =>
      have next : pool.follow 1 (some index) = node.next := by simp [follow, next?, found]
      rw [follow_add, next, ih, List.getElem?_cons_succ]

theorem filterMap_follow_chain (chain : pool.Chain start steps) (turns : Nat) :
    ((List.range turns).filterMap fun links => pool.follow links start) =
      (steps.take turns).map Prod.fst := by
  induction turns with
  | zero => rfl
  | succ turns ih =>
    rw [List.range_succ, List.filterMap_append, ih, List.take_add_one, List.map_append]
    cases place : steps[turns]? <;> simp [follow_chain chain, place]

theorem goesOn_chain (chain : pool.Chain start steps) {step : Nat × Token}
    (place : steps[links]? = some step) (inside : step.2.kind ≠ .terminator)
    (clean : ¬ step.2.Fails) : pool.GoesOn (pool.follow links start) := by
  have known := chain_token chain step (List.mem_of_getElem? place)
  obtain ⟨node, found, same⟩ := Option.map_eq_some_iff.mp known
  refine ⟨step.1, node, node?_eq_some.mpr ⟨?_, found⟩, same ▸ inside, same ▸ clean⟩
  rw [follow_chain chain, place]
  rfl

end Pool

section Ends

variable {pool : Pool} {start : Nat} {steps : List (Nat × Token)}

/-- The tokens alone decide how a scan ends; of a complete one the table decides what it lists. -/
theorem scanStatement_cases (chain : pool.Chain (some start) steps) :
    let tokens := Pool.statement (steps.map Prod.snd)
    (¬ StartsQuery tokens ∧ ∀ table, scanStatement pool ⟨some table⟩ start = .complete []) ∨
    (StartsQuery tokens ∧ (∀ token ∈ tokens, ¬ token.Fails) ∧
      ∀ table, scanStatement pool ⟨some table⟩ start = .complete (exposures table tokens)) ∨
    ∃ scan, (∀ exposed, scan ≠ .complete exposed) ∧
      ∀ table, scanStatement pool ⟨some table⟩ start = scan := by
  intro tokens
  rcases outcome_cases tokens with idle | ⟨query, clean⟩ | ⟨outcome, other, right⟩
  · exact .inl ⟨idle, fun _ => scanStatement_of_outcome chain (.idle idle)⟩
  · exact .inr (.inl ⟨query, clean, fun _ =>
      scanStatement_of_outcome chain (.complete query clean)⟩)
  · exact .inr (.inr ⟨outcome, other, fun table => scanStatement_of_outcome chain (right table)⟩)

end Ends

section Resumption

variable {table : LineTable NameSet} {token : Token} {before after : List Token}

theorem Token.kind_of_isEntry (entry : token.isEntry) : token.kind.isLiteral := by
  simp_all [Token.isEntry]

/-- What stands before a literal does not join on anything behind it. -/
theorem joinsOn_literal (literal : token.kind.isLiteral) :
    JoinsOn (before ++ token :: after) ↔ JoinsOn (token :: after) := by
  have significant : token.isSignificant := by
    cases kind : token.kind <;>
      simp_all [TokenKind.isLiteral, TokenKind.literals, Token.isSignificant]
  simp only [JoinsOn, List.filter_append, List.filter_cons_of_pos significant,
    List.getLast?_append]
  cases last : (token :: after.filter Token.isSignificant).getLast? with
  | none => simp at last
  | some final => rfl

theorem exposedBy_literal (literal : token.kind.isLiteral) (others : List Token) :
    exposedBy table before token = exposedBy table others token := by
  simp [exposedBy, (ne_of_isLiteral literal).2]

/-- From a literal on, the tokens expose what they expose when the statement starts there. -/
theorem exposures_append_literal (literal : token.kind.isLiteral) (before after : List Token) :
    exposures table (before ++ token :: after) =
      exposures table before ++ exposures table (token :: after) := by
  induction after using List.reverseRecOn with
  | nil =>
    have alone := @exposures_concat table [] token
    rw [exposures_concat, exposedBy_literal literal [], ← List.nil_append [token], alone]
    rfl
  | append_singleton after last ih =>
    have split : before ++ token :: (after ++ [last]) = (before ++ token :: after) ++ [last] := by
      simp
    have behind : exposedBy table (before ++ token :: after) last =
        exposedBy table (token :: after) last := by
      simp only [exposedBy, joinsOn_literal literal]
    rw [split, exposures_concat, ih, behind, List.append_assoc, ← exposures_concat,
      List.cons_append]

variable {pool : Pool} {first here : Nat} {exposed : List String}

theorem statement_append (open_ : ∀ token ∈ before, token.kind ≠ .terminator) :
    Pool.statement (before ++ after) = before ++ Pool.statement after := by
  rw [Pool.statement, List.takeWhile_append_of_pos (by simpa using open_), Pool.statement]

/-- The scan comes by all tokens of a chain before one that ends the statement or fails. -/
theorem underway_chain {before after : List (Nat × Token)}
    (chain : pool.Chain (some first) (before ++ after))
    (entry : (pool.token? first).any Token.isEntry)
    (open_ : ∀ step ∈ before, step.2.kind ≠ .terminator)
    (clean : ∀ step ∈ before, ¬ step.2.Fails) :
    let walk := Walk.after pool ⟨some table⟩ first before.length
    walk.outcome = none ∧ walk.place = (after.map Prod.fst).head? ∧
      walk.found = exposures table (before.map Prod.snd) := by
  intro walk
  have goes : ∀ links < before.length, pool.GoesOn (pool.follow links (some first)) := by
    intro links within
    have place : (before ++ after)[links]? = some before[links] := by
      rw [List.getElem?_append_left within, List.getElem?_eq_getElem within]
    exact Pool.goesOn_chain chain place (open_ _ (List.getElem_mem within))
      (clean _ (List.getElem_mem within))
  have underway : walk.Underway pool table first before.length := Walk.underway_after entry goes
  have tokens : walk.passed.filterMap pool.token? = before.map Prod.snd := by
    rw [underway.passed, Pool.filterMap_follow_chain chain, List.take_left' rfl,
      List.filterMap_map]
    have known : ∀ step ∈ before, (pool.token? ∘ Prod.fst) step = (some ∘ Prod.snd) step :=
      fun step member => Pool.chain_token chain step (List.mem_append_left _ member)
    rw [List.filterMap_congr known, List.filterMap_eq_map]
  refine ⟨underway.going, ?_, by rw [underway.found, tokens]⟩
  rw [underway.place, Pool.follow_chain chain, List.getElem?_append_right (Nat.le_refl _),
    Nat.sub_self, List.head?_map, List.head?_eq_getElem?]

/-- A scan that comes by a further query of its statement lists what it has found by then, and
after that what the scan from there lists. -/
theorem scanStatement_resumes {before after : List (Nat × Token)}
    (chain : pool.Chain (some first) (before ++ (here, token) :: after))
    (starts : (pool.token? first).any Token.isEntry) (entry : token.isEntry)
    (open_ : ∀ step ∈ before, step.2.kind ≠ .terminator)
    (complete : scanStatement pool ⟨some table⟩ first = .complete exposed) :
    ∃ own, scanStatement pool ⟨some table⟩ here = .complete own ∧
      exposed = exposures table (before.map Prod.snd) ++ own ∧ own <:+ exposed ∧
      let walk := Walk.after pool ⟨some table⟩ first before.length
      walk.outcome = none ∧ walk.place = some here ∧
        walk.found = exposures table (before.map Prod.snd) := by
  have literal := Token.kind_of_isEntry entry
  have ahead := Pool.chain_behind chain
  -- The statement is the tokens before the query and the statement from there on.
  have split : Pool.statement ((before ++ (here, token) :: after).map Prod.snd) =
      before.map Prod.snd ++ token :: Pool.statement (after.map Prod.snd) := by
    rw [List.map_append, statement_append (List.forall_mem_map.mpr open_), List.map_cons]
    simp [Pool.statement, (ne_of_isLiteral literal).1]
  have rest : Pool.statement (((here, token) :: after).map Prod.snd) =
      token :: Pool.statement (after.map Prod.snd) := by
    simp [Pool.statement, (ne_of_isLiteral literal).1]
  have query : StartsQuery (token :: Pool.statement (after.map Prod.snd)) := ⟨token, rfl, entry⟩
  rcases scanStatement_cases chain with ⟨idle, _⟩ | ⟨_, clean, ends⟩ | ⟨scan, other, ends⟩
  · rw [startsQuery_statement, ← Pool.token?_chain chain] at idle
    exact absurd starts idle
  · rw [split] at clean ends
    have same : exposed = exposures table (before.map Prod.snd) ++
        exposures table (token :: Pool.statement (after.map Prod.snd)) := by
      rw [ends, exposures_append_literal literal] at complete
      exact (StatementScan.complete.inj complete).symm
    refine ⟨exposures table (token :: Pool.statement (after.map Prod.snd)), ?_, same,
      same ▸ List.suffix_append _ _, ?_⟩
    · apply scanStatement_of_outcome ahead
      rw [rest]
      exact .complete query fun other member => clean other (List.mem_append_right _ member)
    · exact underway_chain chain starts open_ fun step member =>
        clean step.2 (List.mem_append_left _ (List.mem_map_of_mem member))
  · rw [ends] at complete
    exact absurd complete (other exposed)

/-- Two queries in one statement, with symbols joined on to both. -/
def chainedPool : Pool := #[
  ⟨{ kind := .literalDouble, content := "SELECT $a, $b", line := 1 }, some 1⟩,
  ⟨{ kind := .operator, content := ".", line := 1 }, some 2⟩,
  ⟨{ kind := .symbol, content := "$c", line := 1 }, some 3⟩,
  ⟨{ kind := .operator, content := ".", line := 1 }, some 4⟩,
  ⟨{ kind := .literalDouble, content := "DELETE $d", line := 2 }, some 5⟩,
  ⟨{ kind := .operator, content := ".", line := 2 }, some 6⟩,
  ⟨{ kind := .symbol, content := "$b", line := 2 }, none⟩]

def chainedSteps : List (Nat × Token) := chainedPool.toList.zipIdx.map fun (node, index) =>
  (index, node.token)

theorem chainedPool_chain : chainedPool.Chain (some 0) chainedSteps :=
  .link rfl (.link rfl (.link rfl (.link rfl (.link rfl (.link rfl (.link rfl .done))))))

theorem chainedPool_complete (table : LineTable NameSet) :
    scanStatement chainedPool ⟨some table⟩ 0 =
      .complete (exposures table (Pool.statement (chainedSteps.map Prod.snd))) := by
  apply scanStatement_of_outcome chainedPool_chain
  refine .complete (startsQuery_statement.mpr (by decide +kernel)) ?_
  simp [Pool.statement, chainedSteps, chainedPool, Token.Fails, Token.Unreadable, Token.Misplaced,
    Token.Interpolates, Token.effectiveLine]

theorem chainedPool_resumes :
    (Walk.after chainedPool ⟨some [(1, .ofList ["$a"])]⟩ 0 4).found = ["$b", "$c"] ∧
    scanStatement chainedPool ⟨some [(1, .ofList ["$a"])]⟩ 4 = .complete ["$d", "$b"] := by
  have chain : chainedPool.Chain (some 0) (chainedSteps.take 4 ++
      (4, { kind := .literalDouble, content := "DELETE $d", line := 2 }) :: chainedSteps.drop 5) :=
    chainedPool_chain
  obtain ⟨own, ends, split, _, _, _, found⟩ := scanStatement_resumes chain (by decide +kernel)
    (by decide +kernel) (by decide) (chainedPool_complete [(1, .ofList ["$a"])])
  have before : exposures [(1, .ofList ["$a"])] ((chainedSteps.take 4).map Prod.snd) =
      ["$b", "$c"] := by
    decide +kernel
  have whole : exposures [(1, .ofList ["$a"])] (Pool.statement (chainedSteps.map Prod.snd)) =
      ["$b", "$c"] ++ ["$d", "$b"] := by
    decide +kernel
  rw [before] at found split
  have rest : own = ["$d", "$b"] := List.append_cancel_left (split.symm.trans whole)
  exact ⟨found, rest ▸ ends⟩

end Resumption

/-- A variable that a scan lists, with the token that it comes from and the place of the token in
the statement. -/
structure Exposure where
  place : Nat
  token : Token
  name : String
deriving DecidableEq

/-- What all tokens bring into the query, in order, with where it comes from. -/
def origins (table : LineTable NameSet) (tokens : List Token) : List Exposure :=
  tokens.zipIdx.flatMap fun (token, place) =>
    (exposedBy table (tokens.take place) token).map (⟨place, token, ·⟩)

instance (tokens : List Token) : Decidable (StartsQuery tokens) :=
  inferInstanceAs (Decidable (∃ first ∈ tokens.head?, first.isEntry))

/-- What the scan of a statement lists when no token fails. -/
def listed (table : LineTable NameSet) (tokens : List Token) : List Exposure :=
  if StartsQuery tokens then origins table tokens else []

/-- The name is safe on the line. -/
def SafeVariables.lists (safe : SafeVariables) (line : Int) (name : String) : Bool :=
  (safe.onLine line).toOption.any fun allowed => name ∈ allowed

/-- What is safe on a line stays so. -/
def SafeVariables.GrowsTo (safe larger : SafeVariables) : Prop :=
  ∀ line : Int, 1 ≤ line → ∀ name, safe.lists line name → larger.lists line name

/-- The variable is interpolated into a literal, and safe on the line of that literal. -/
def Exposure.isMarked (safe : SafeVariables) (exposure : Exposure) : Bool :=
  exposure.token.Interpolates && safe.lists exposure.token.effectiveLine exposure.name

section Widening

variable {table larger : LineTable NameSet} {token : Token} {tokens before : List Token}

theorem lists_built {line : Int} (positive : 1 ≤ line) (name : String) :
    SafeVariables.lists ⟨some table⟩ line name = decide (name ∈ table.names line) := by
  simp [SafeVariables.lists, onLine_built table positive, Except.toOption]

theorem names_origins : (origins table tokens).map Exposure.name = exposures table tokens := by
  simp [origins, exposures, List.map_flatMap, Function.comp_def]

theorem isMarked_symbol {exposure : Exposure} (symbol : exposure.token.kind = .symbol)
    (safe : SafeVariables) : exposure.isMarked safe = false := by
  simp [Exposure.isMarked, Token.Interpolates, symbol]

/-- With more names on its line a literal exposes the variables that are not among them. -/
theorem interpolated_wider (clean : ¬ token.Fails)
    (grows : SafeVariables.GrowsTo ⟨some table⟩ ⟨some larger⟩) (place : Nat) :
    interpolated larger token = (interpolated table token).filter fun name =>
      !(Exposure.mk place token name).isMarked ⟨some larger⟩ := by
  by_cases inside : token.Interpolates
  · have positive := effectiveLine_of_not_fails clean inside
    simp only [interpolated, inside, if_true, List.filter_filter, Exposure.isMarked,
      lists_built positive]
    refine List.filter_congr fun name _ => ?_
    have stays := grows _ positive name
    simp only [lists_built positive, decide_eq_true_eq] at stays
    by_cases kept : name ∈ larger.names token.effectiveLine
    · simp [kept]
    · simp [kept, mt stays kept]
  · simp [interpolated, inside]

theorem exposedBy_wider (clean : ¬ token.Fails)
    (grows : SafeVariables.GrowsTo ⟨some table⟩ ⟨some larger⟩) (place : Nat) :
    exposedBy larger before token = (exposedBy table before token).filter fun name =>
      !(Exposure.mk place token name).isMarked ⟨some larger⟩ := by
  by_cases joined : token.kind = .symbol ∧ JoinsOn before
  · have unmarked : (Exposure.mk place token token.content).isMarked ⟨some larger⟩ = false :=
      isMarked_symbol joined.1 _
    simp [exposedBy, joined, unmarked]
  · simp only [exposedBy, joined, if_false]
    exact interpolated_wider clean grows place

theorem origins_wider (clean : ∀ token ∈ tokens, ¬ token.Fails)
    (grows : SafeVariables.GrowsTo ⟨some table⟩ ⟨some larger⟩) :
    origins larger tokens =
      (origins table tokens).filter fun exposure => !exposure.isMarked ⟨some larger⟩ := by
  rw [origins, origins, List.filter_flatMap]
  refine List.flatMap_congr fun (token, place) member => ?_
  have inside : token ∈ tokens := List.fst_mem_of_mem_zipIdx member
  simp only [List.filter_map, exposedBy_wider (clean token inside) grows place]
  rfl

theorem filter_symbol_origins (clean : ∀ token ∈ tokens, ¬ token.Fails)
    (grows : SafeVariables.GrowsTo ⟨some table⟩ ⟨some larger⟩) :
    (origins larger tokens).filter (·.token.kind = .symbol) =
      (origins table tokens).filter (·.token.kind = .symbol) := by
  rw [origins_wider clean grows, List.filter_filter]
  refine List.filter_congr fun exposure _ => ?_
  by_cases symbol : exposure.token.kind = .symbol
  · simp [symbol, isMarked_symbol symbol]
  · simp [symbol]

/-- More annotations do not change how a scan ends. When it is complete, they take away those
variables that are interpolated into a literal and are now safe on the line of that literal; the
others stay in their order, and so do all symbols that are joined on. -/
theorem scanStatement_annotated {pool : Pool} {start : Nat} {steps : List (Nat × Token)}
    (chain : pool.Chain (some start) steps)
    (grows : SafeVariables.GrowsTo ⟨some table⟩ ⟨some larger⟩) :
    let tokens := Pool.statement (steps.map Prod.snd)
    let fewer := listed larger tokens
    let all := listed table tokens
    (∃ scan, (∀ exposed, scan ≠ .complete exposed) ∧
      scanStatement pool ⟨some table⟩ start = scan ∧
      scanStatement pool ⟨some larger⟩ start = scan) ∨
    scanStatement pool ⟨some table⟩ start = .complete (all.map Exposure.name) ∧
    scanStatement pool ⟨some larger⟩ start = .complete (fewer.map Exposure.name) ∧
    (fewer.map Exposure.name).Sublist (all.map Exposure.name) ∧
    fewer.filter (·.token.kind = .symbol) = all.filter (·.token.kind = .symbol) ∧
    fewer = all.filter fun exposure => !exposure.isMarked ⟨some larger⟩ := by
  intro tokens fewer all
  rcases scanStatement_cases chain with ⟨idle, ends⟩ | ⟨query, clean, ends⟩ | ⟨scan, other, ends⟩
  · have none : ∀ table, listed table tokens = [] := fun table => if_neg idle
    exact .inr (by simp [fewer, all, none, ends])
  · have each : ∀ table, listed table tokens = origins table tokens := fun table => if_pos query
    have complete : ∀ table, scanStatement pool ⟨some table⟩ start =
        .complete ((listed table tokens).map Exposure.name) := by
      intro table
      rw [ends, each, names_origins]
    have kept : fewer = all.filter fun exposure => !exposure.isMarked ⟨some larger⟩ := by
      simp only [fewer, all, each]
      exact origins_wider clean grows
    refine .inr ⟨complete table, complete larger, ?_, ?_, kept⟩
    · rw [kept]
      exact List.filter_sublist.map _
    · simp only [fewer, all, each]
      exact filter_symbol_origins clean grows
  · exact .inl ⟨scan, other, ends table, ends larger⟩

theorem chainedPool_annotated :
    scanStatement chainedPool ⟨some [(1, .ofList ["$a"])]⟩ 0 =
      .complete ["$b", "$c", "$d", "$b"] ∧
    scanStatement chainedPool ⟨some [(1, .ofList ["$a", "$b", "$c"]), (2, .ofList ["$d"])]⟩ 0 =
      .complete ["$c", "$b"] := by
  have grows : SafeVariables.GrowsTo ⟨some [(1, .ofList ["$a"])]⟩
      ⟨some [(1, .ofList ["$a", "$b", "$c"]), (2, .ofList ["$d"])]⟩ := by
    intro line positive name
    rw [lists_built positive, lists_built positive, decide_eq_true_eq, decide_eq_true_eq]
    simp only [LineTable.names, LineTable.get?_cons]
    by_cases first : line = 1
    · simp +contextual [first]
    · simp [first, LineTable.get?]
  rcases scanStatement_annotated chainedPool_chain grows with
    ⟨scan, other, ends, _⟩ | ⟨all, fewer, _⟩
  · exact absurd (ends.symm.trans (chainedPool_complete _)) (other _)
  · rw [all, fewer]
    exact ⟨congrArg _ (by decide +kernel), congrArg _ (by decide +kernel)⟩

end Widening

end QueryLint
