import QueryLint.Proofs.Statement.Chain

/-! The links that statements leave in a pool. Linking changes no token and no link of a token
outside the statement, so after all statements are linked, the links run along each of them,
provided that no token stands in two places. -/
namespace QueryLint

namespace Pool

variable {pool : Pool} {index other : Nat} {next : Option Nat} {statement : List Nat}
  {statements : List (List Nat)}

theorem getElem?_link (pool : Pool) (index : Nat) (next : Option Nat) (other : Nat) :
    (pool.link index next)[other]? =
      if index = other then (pool[other]?).map fun node => { node with next } else pool[other]? := by
  rw [link, Array.getElem?_modify]

@[simp] theorem size_link (pool : Pool) (index : Nat) (next : Option Nat) :
    (pool.link index next).size = pool.size := by
  simp [link]

@[simp] theorem token?_link (pool : Pool) (index : Nat) (next : Option Nat) (other : Nat) :
    (pool.link index next).token? other = pool.token? other := by
  rw [token?, token?, getElem?_link]
  split
  · rw [Option.map_map]
    rfl
  · rfl

theorem next?_link_self (inside : index < pool.size) : (pool.link index next).next? index = next := by
  rw [next?, getElem?_link, if_pos rfl, Array.getElem?_eq_getElem inside]
  rfl

theorem next?_link_other (apart : index ≠ other) :
    (pool.link index next).next? other = pool.next? other := by
  rw [next?, next?, getElem?_link, if_neg apart]

@[simp] theorem size_linkStatement (pool : Pool) (statement : List Nat) :
    (pool.linkStatement statement).size = pool.size := by
  fun_induction linkStatement pool statement with
  | case1 => rfl
  | case2 => simp
  | case3 pool index next rest ih => rw [ih, size_link]

@[simp] theorem token?_linkStatement (pool : Pool) (statement : List Nat) (index : Nat) :
    (pool.linkStatement statement).token? index = pool.token? index := by
  fun_induction linkStatement pool statement with
  | case1 => rfl
  | case2 => simp
  | case3 pool _ next rest ih => rw [ih, token?_link]

theorem next?_linkStatement_other (outside : index ∉ statement) :
    (pool.linkStatement statement).next? index = pool.next? index := by
  fun_induction linkStatement pool statement with
  | case1 => rfl
  | case2 => exact next?_link_other (by simpa [eq_comm] using outside)
  | case3 pool first next rest ih =>
    have apart : first ≠ index := fun same => outside (by simp [same])
    rw [ih fun later => outside (List.mem_cons_of_mem _ later), next?_link_other apart]

@[simp] theorem size_linkStatements (pool : Pool) (statements : List (List Nat)) :
    (pool.linkStatements statements).size = pool.size := by
  induction statements generalizing pool with
  | nil => rfl
  | cons first rest ih => exact (ih _).trans (size_linkStatement pool first)

@[simp] theorem token?_linkStatements (pool : Pool) (statements : List (List Nat)) (index : Nat) :
    (pool.linkStatements statements).token? index = pool.token? index := by
  induction statements generalizing pool with
  | nil => rfl
  | cons first rest ih => exact (ih _).trans (token?_linkStatement pool first index)

theorem next?_linkStatements_other (outside : index ∉ statements.flatten) :
    (pool.linkStatements statements).next? index = pool.next? index := by
  induction statements generalizing pool with
  | nil => rfl
  | cons first rest ih =>
    rw [List.flatten_cons, List.mem_append, not_or] at outside
    exact (ih outside.2).trans (next?_linkStatement_other outside.1)

/-- Every position is linked to the one after it, and the last one to none. -/
def Runs (pool : Pool) : List Nat → Prop
  | [] => True
  | index :: rest => pool.next? index = rest.head? ∧ pool.Runs rest

theorem runs_of_next? {others : Pool}
    (same : ∀ index ∈ statement, others.next? index = pool.next? index)
    (runs : pool.Runs statement) : others.Runs statement := by
  induction statement with
  | nil => trivial
  | cons index rest ih =>
    refine ⟨(same index List.mem_cons_self).trans runs.1, ?_⟩
    exact ih (fun later member => same later (List.mem_cons_of_mem _ member)) runs.2

theorem runs_drop (runs : pool.Runs statement) (place : Nat) : pool.Runs (statement.drop place) := by
  induction statement generalizing place with
  | nil => simp [Runs]
  | cons index rest ih =>
    cases place with
    | zero => exact runs
    | succ place => exact ih runs.2 place

theorem runs_linkStatement (distinct : statement.Nodup)
    (inside : ∀ index ∈ statement, index < pool.size) :
    (pool.linkStatement statement).Runs statement := by
  fun_induction linkStatement pool statement with
  | case1 => trivial
  | case2 pool last => exact ⟨next?_link_self (inside last List.mem_cons_self), trivial⟩
  | case3 pool index next rest ih =>
    obtain ⟨fresh, later⟩ := List.nodup_cons.mp distinct
    refine ⟨?_, ih later fun other member => ?_⟩
    · rw [next?_linkStatement_other fresh, next?_link_self (inside index List.mem_cons_self)]
      rfl
    · rw [size_link]
      exact inside other (List.mem_cons_of_mem _ member)

/-- After all statements are linked, the links run along each of them. -/
theorem runs_linkStatements (distinct : statements.flatten.Nodup)
    (inside : ∀ index ∈ statements.flatten, index < pool.size)
    (member : statement ∈ statements) : (pool.linkStatements statements).Runs statement := by
  induction statements generalizing pool with
  | nil => simp at member
  | cons first rest ih =>
    rw [List.flatten_cons] at distinct inside
    obtain ⟨alone, later, apart⟩ := List.nodup_append.mp distinct
    rcases List.mem_cons.mp member with rfl | behind
    · have laid := runs_linkStatement alone fun index here =>
        inside index (List.mem_append_left _ here)
      refine runs_of_next? (fun index here => ?_) laid
      exact next?_linkStatements_other fun again => apart index here index again rfl
    · refine ih later (fun index here => ?_) behind
      rw [size_linkStatement]
      exact inside index (List.mem_append_right _ here)

/-- The positions of a list with their tokens. -/
def stepsAlong (pool : Pool) (positions : List Nat) : List (Nat × Token) :=
  positions.filterMap fun index => (pool.token? index).map (index, ·)

/-- Links that run along a statement make a finite chain of it. -/
theorem chain_of_runs (runs : pool.Runs statement)
    (inside : ∀ index ∈ statement, index < pool.size) :
    pool.Chain statement.head? (pool.stepsAlong statement) := by
  induction statement with
  | nil => exact .done
  | cons index rest ih =>
    obtain ⟨linked, later⟩ := runs
    obtain ⟨node, known⟩ : ∃ node, pool[index]? = some node :=
      ⟨_, Array.getElem?_eq_getElem (inside index List.mem_cons_self)⟩
    have tail := ih later fun other member => inside other (List.mem_cons_of_mem _ member)
    have next : node.next = rest.head? := by
      rw [← linked, next?, known]
      rfl
    have steps : pool.stepsAlong (index :: rest) =
        (index, node.token) :: pool.stepsAlong rest := by
      simp [stepsAlong, token?, known]
    rw [steps]
    exact .link known (next ▸ tail)

/-- The chain from a place of the statement is the rest of the statement. -/
theorem chain_runs {place : Nat} (runs : pool.Runs statement)
    (inside : ∀ index ∈ statement, index < pool.size) (here : statement[place]? = some index) :
    pool.Chain (some index) (pool.stepsAlong (statement.drop place)) := by
  have chain := chain_of_runs (runs_drop runs place) fun other member =>
    inside other (List.mem_of_mem_drop member)
  rwa [List.head?_drop, here] at chain

end Pool

/-- Statements over a pool in which no token stands twice. -/
structure Arrangement where
  pool : Pool
  statements : List (List Nat)
  distinct : statements.flatten.Nodup
  inside : ∀ index ∈ statements.flatten, index < pool.size

namespace Arrangement

variable (arrangement : Arrangement) (path : String) (source : Option String)

def document : Document := .ofStatements arrangement.pool arrangement.statements path source

@[simp] theorem document_token? (index : Nat) :
    (arrangement.document path source).pool.token? index = arrangement.pool.token? index := by
  simp [document, Document.ofStatements]

variable {arrangement path source} {statement : List Nat}

theorem document_runs (member : statement ∈ arrangement.statements) :
    (arrangement.document path source).pool.Runs statement :=
  Pool.runs_linkStatements arrangement.distinct arrangement.inside member

theorem document_inside (member : statement ∈ arrangement.statements) :
    ∀ index ∈ statement, index < (arrangement.document path source).pool.size := by
  intro index here
  have bound := arrangement.inside index (List.mem_flatten.mpr ⟨statement, member, here⟩)
  simpa [document, Document.ofStatements] using bound

end Arrangement

end QueryLint
