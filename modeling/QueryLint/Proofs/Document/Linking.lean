import QueryLint.Proofs.Document.Links
import QueryLint.Proofs.Statement.Halting

/-! Documents that are built from statements. Whatever links their tokens had before, afterwards
the links from a token lead through the rest of its statement and end there. No walk comes to
another statement or back to where it was, so every scan ends. -/
namespace QueryLint

namespace Pool

variable {pool : Pool} {statement : List Nat} {place index links : Nat}

theorem next?_runs (runs : pool.Runs statement) (here : statement[place]? = some index) :
    pool.next? index = statement[place + 1]? := by
  obtain ⟨bound, rfl⟩ := List.getElem?_eq_some_iff.mp here
  have rest := runs_drop runs place
  rw [List.drop_eq_getElem_cons bound] at rest
  rw [rest.1, List.head?_drop]

/-- Links that run along a statement lead from one of its places to the next. -/
theorem follow_runs (runs : pool.Runs statement) (here : statement[place]? = some index) :
    pool.follow links (some index) = statement[place + links]? := by
  induction links with
  | zero => exact here.symm
  | succ links ih =>
    rw [follow_succ, ih, ← Nat.add_assoc]
    cases reached : statement[place + links]? with
    | none =>
      have outside := List.getElem?_eq_none_iff.mp reached
      rw [List.getElem?_eq_none (by omega)]
      rfl
    | some other => exact next?_runs runs reached

theorem follow_runs_ne (runs : pool.Runs statement) (distinct : statement.Nodup)
    (here : statement[place]? = some index) : pool.follow (links + 1) (some index) ≠ some index := by
  rw [follow_runs runs here]
  intro again
  obtain ⟨bound, _⟩ := List.getElem?_eq_some_iff.mp here
  have same := (List.getElem?_inj bound distinct).mp (here.trans again.symm)
  omega

theorem map_fst_stepsAlong {positions : List Nat} (inside : ∀ index ∈ positions, index < pool.size) :
    (pool.stepsAlong positions).map Prod.fst = positions := by
  induction positions with
  | nil => rfl
  | cons index positions ih =>
    obtain ⟨bound, later⟩ := List.forall_mem_cons.mp inside
    have steps : pool.stepsAlong (index :: positions) =
        (index, pool[index].token) :: pool.stepsAlong positions := by
      simp [stepsAlong, token?, bound]
    rw [steps, List.map_cons, ih later]

end Pool

namespace Walk

variable {pool : Pool} {safe : SafeVariables} {walk : Walk} {start turns links : Nat}

/-- A turn ends the scan or follows a link. -/
theorem turn_place (walk : Walk) :
    (walk.turn pool safe).outcome.isSome ∨
      (walk.turn pool safe).place = walk.place.bind pool.next? := by
  cases going : walk.outcome with
  | some scan =>
    rw [turn_ended (Option.isSome_of_eq_some going)]
    exact .inl (Option.isSome_of_eq_some going)
  | none =>
    cases here : pool.node? walk.place with
    | none =>
      rw [turn_behind going here]
      exact .inl rfl
    | some found =>
      obtain ⟨index, node⟩ := found
      obtain ⟨place, known⟩ := Pool.node?_eq_some.mp here
      rw [turn_take going here, take]
      split
      · exact .inl rfl
      · split
        · exact .inl rfl
        · right
          simp [place, Pool.next?, known]

/-- A scan that has not ended stands where the links have led it. -/
theorem after_place (pool : Pool) (safe : SafeVariables) (start turns : Nat) :
    (after pool safe start turns).outcome.isSome ∨
      (after pool safe start turns).place = pool.follow turns (some start) := by
  induction turns with
  | zero => exact .inr rfl
  | succ turns ih =>
    rw [after_succ]
    rcases ih with ended | place
    · rw [turn_ended ended]
      exact .inl ended
    · rw [Pool.follow_succ, ← place]
      exact turn_place _

/-- A scan ends when the links do. -/
theorem ends_of_follow (stops : pool.follow links (some start) = none) :
    (after pool safe start (links + 1)).outcome.isSome := by
  rw [after_succ]
  rcases after_place pool safe start links with ended | place
  · rwa [turn_ended ended]
  · have behind : pool.node? (after pool safe start links).place = none := by
      rw [place, stops]
      rfl
    cases going : (after pool safe start links).outcome with
    | some scan =>
      rw [turn_ended (Option.isSome_of_eq_some going), going]
      rfl
    | none =>
      rw [turn_behind going behind]
      rfl

/-- The bounded scan ends as a scan does that ends within the bound. -/
theorem scanStatement_of_ended {scan : StatementScan} (soon : turns ≤ pool.size + 1)
    (ended : (after pool safe start turns).outcome = some scan) :
    scanStatement pool safe start = scan := by
  rw [scanStatement_eq_prospect, after_ended (Option.isSome_of_eq_some ended) soon, prospect, ended]
  rfl

end Walk

namespace Arrangement

variable {arrangement : Arrangement} {statement other : List Nat} {index number another : Nat}

theorem nodup_statement (member : statement ∈ arrangement.statements) : statement.Nodup :=
  (List.nodup_flatten.mp arrangement.distinct).1 statement member

/-- A token stands in one statement only. -/
theorem number_unique (stands : arrangement.statements[number]? = some statement)
    (stands' : arrangement.statements[another]? = some other)
    (here : index ∈ statement) (there : index ∈ other) : another = number := by
  have apart := List.pairwise_iff_getElem.mp (List.nodup_flatten.mp arrangement.distinct).2
  obtain ⟨bound, rfl⟩ := List.getElem?_eq_some_iff.mp stands
  obtain ⟨bound', rfl⟩ := List.getElem?_eq_some_iff.mp stands'
  rcases Nat.lt_trichotomy number another with before | same | behind
  · exact absurd there (apart number another bound bound' before here)
  · exact same.symm
  · exact absurd here (apart another number bound' bound behind there)

variable (arrangement) in
@[simp] theorem document_stepsAlong (path : String) (source : Option String)
    (positions : List Nat) :
    (arrangement.document path source).pool.stepsAlong positions =
      arrangement.pool.stepsAlong positions := by
  simp only [Pool.stepsAlong, document_token?]

/-- A document that is built from statements has their tokens in order. The links from a token lead
through the rest of its statement and end there; they come to no other statement and never back.
A scan from the token takes no more turns than there are tokens left, and one to end. -/
theorem statements_linked (arrangement : Arrangement) (path : String) (source : Option String) :
    let document := arrangement.document path source
    document.tokens = arrangement.pool.stepsAlong arrangement.statements.flatten ∧
    document.tokens.map Prod.fst = arrangement.statements.flatten ∧
    ∀ (number : Nat) (statement : List Nat), arrangement.statements[number]? = some statement →
      ∀ place index : Nat, statement[place]? = some index →
        (∀ links, document.pool.follow links (some index) = (statement.drop place)[links]?) ∧
        document.pool.Chain (some index) (arrangement.pool.stepsAlong (statement.drop place)) ∧
        (∀ links reached another other, document.pool.follow links (some index) = some reached →
          arrangement.statements[another]? = some other → reached ∈ other → another = number) ∧
        (∀ links, document.pool.follow (links + 1) (some index) ≠ some index) ∧
        ∀ safe, ∃ scan,
          (Walk.after document.pool safe index (statement.length - place + 1)).outcome = some scan ∧
          scanStatement document.pool safe index = scan := by
  intro document
  have tokens : document.tokens = arrangement.pool.stepsAlong arrangement.statements.flatten :=
    document_stepsAlong arrangement path source _
  refine ⟨tokens, ?_, fun number statement stands place index here => ?_⟩
  · rw [tokens, Pool.map_fst_stepsAlong arrangement.inside]
  have member := List.mem_of_getElem? stands
  have runs : document.pool.Runs statement := document_runs member
  have inside : ∀ index ∈ statement, index < document.pool.size := document_inside member
  have distinct := nodup_statement member
  have along : ∀ links, document.pool.follow links (some index) = (statement.drop place)[links]? := by
    intro links
    rw [Pool.follow_runs runs here, List.getElem?_drop]
  refine ⟨along, ?_, ?_, fun links => Pool.follow_runs_ne runs distinct here, fun safe => ?_⟩
  · rw [← document_stepsAlong arrangement path source]
    exact Pool.chain_runs runs inside here
  · intro links reached another other leads stands' there
    rw [along] at leads
    exact number_unique stands stands' (List.mem_of_mem_drop (List.mem_of_getElem? leads)) there
  · have stops : document.pool.follow (statement.length - place) (some index) = none :=
      (along _).trans (List.getElem?_eq_none (by simp))
    obtain ⟨scan, ended⟩ := Option.isSome_iff_exists.mp (@Walk.ends_of_follow _ safe _ _ stops)
    have small := Pool.length_le_size distinct inside
    exact ⟨scan, ended, Walk.scanStatement_of_ended (by omega) ended⟩

/-- Statements over tokens whose old links run in circles and across. -/
def tangled : Arrangement where
  pool := #[
    ⟨{ kind := .symbol, content := "$a", line := 1 }, some 0⟩,
    ⟨{ kind := .operator, content := ".", line := 1 }, some 3⟩,
    ⟨{ kind := .symbol, content := "$b", line := 2 }, some 1⟩,
    ⟨{ kind := .literalDouble, content := "SELECT 1", line := 2 }, some 2⟩,
    ⟨{ kind := .literalDouble, content := "DELETE $c", line := 3 }, some 4⟩]
  statements := [[], [3, 1, 0], [], [4, 2]]
  distinct := by decide
  inside := by decide

theorem tangled_linked :
    let document := tangled.document "a.pl" none
    tangled.pool.follow 3 (some 1) = some 1 ∧
    document.tokens.map Prod.fst = [3, 1, 0, 4, 2] ∧
    (∀ links, document.pool.follow links (some 1) = [1, 0][links]?) ∧
    ∀ safe, ∃ scan, (Walk.after document.pool safe 1 3).outcome = some scan ∧
      scanStatement document.pool safe 1 = scan := by
  obtain ⟨_, tokens, linked⟩ := tangled.statements_linked "a.pl" none
  obtain ⟨along, _, _, _, ends⟩ := linked 1 [3, 1, 0] rfl 1 1 rfl
  exact ⟨by decide +kernel, tokens, along, ends⟩

end Arrangement

end QueryLint
