import Mathlib.Data.List.Nodup
import Mathlib.Data.List.Perm.Subperm
import QueryLint.Statement

/-! Finite chains of sibling links. A chain that comes to an end meets every position at most
once, so it is no longer than the pool, and the bounded walk that cuts it at the first
terminator sees all of it. -/
namespace QueryLint.Pool

/-- The positions and tokens met by following the links from a position to the end. -/
inductive Chain (pool : Pool) : Option Nat → List (Nat × Token) → Prop where
  | done : Chain pool none []
  | link {index : Nat} {node : Node} {steps : List (Nat × Token)} :
      pool[index]? = some node → Chain pool node.next steps →
      Chain pool (some index) ((index, node.token) :: steps)

variable {pool : Pool} {start : Option Nat} {index : Nat} {steps others : List (Nat × Token)}

/-- Links are followed in one way only. -/
theorem chain_unique (chain : pool.Chain start steps) (other : pool.Chain start others) :
    steps = others := by
  induction chain generalizing others with
  | done => cases other; rfl
  | link found _ ih =>
    cases other with
    | link again rest =>
      have same := Option.some.inj (found.symm.trans again)
      subst same
      rw [ih rest]

/-- Every later position of a chain starts a chain of its own, the rest of the first one. -/
theorem chain_suffix (chain : pool.Chain start steps) (member : index ∈ steps.map Prod.fst) :
    ∃ before rest, steps = before ++ rest ∧ pool.Chain (some index) rest := by
  induction chain with
  | done => simp at member
  | @link here node steps found later ih =>
    rcases List.mem_cons.mp member with same | behind
    · subst same
      exact ⟨[], _, rfl, .link found later⟩
    · obtain ⟨before, rest, split, chain⟩ := ih behind
      exact ⟨(here, node.token) :: before, rest, by simp [split], chain⟩

theorem chain_nodup (chain : pool.Chain start steps) : (steps.map Prod.fst).Nodup := by
  induction chain with
  | done => simp
  | @link here node steps found later ih =>
    refine List.nodup_cons.mpr ⟨fun again => ?_, ih⟩
    -- A position that comes again starts two chains of different lengths.
    obtain ⟨before, rest, split, chain⟩ := chain_suffix later again
    have same := congrArg List.length (chain_unique chain (.link found later))
    simp only [split, List.length_append, List.length_cons] at same
    omega

theorem chain_bound (chain : pool.Chain start steps) : ∀ index ∈ steps.map Prod.fst,
    index < pool.size := by
  induction chain with
  | done => simp
  | link found _ ih =>
    intro index member
    rcases List.mem_cons.mp member with rfl | behind
    · exact (Array.getElem?_eq_some_iff.mp found).1
    · exact ih index behind

/-- Distinct positions of a pool are no more than its tokens. -/
theorem length_le_size {places : List Nat} (nodup : places.Nodup)
    (inside : ∀ place ∈ places, place < pool.size) : places.length ≤ pool.size := by
  have small := (nodup.subperm fun place member => List.mem_range.mpr (inside place member)).length_le
  rwa [List.length_range] at small

theorem chain_length_le (chain : pool.Chain start steps) : steps.length ≤ pool.size := by
  have small := length_le_size (chain_nodup chain) (chain_bound chain)
  rwa [List.length_map] at small

/-- The tokens before the first terminator. -/
def statement (tokens : List Token) : List Token := tokens.takeWhile (·.kind ≠ .terminator)

theorem stretchFrom_chain (chain : pool.Chain start steps) (fuel : Nat)
    (enough : steps.length ≤ fuel) :
    pool.stretchFrom fuel start = ⟨statement (steps.map Prod.snd), true⟩ := by
  induction chain generalizing fuel with
  | done => cases fuel <;> rfl
  | @link here node steps found later ih =>
    cases fuel with
    | zero => simp at enough
    | succ fuel =>
      have rest := ih fuel (by simpa using enough)
      rw [stretchFrom]
      simp only [found, statement, List.map_cons, List.takeWhile_cons]
      split
      · simp_all
      · simp_all [statement]

/-- The walk from a position of a finite chain reaches the terminator or the end. -/
theorem stretch_chain (chain : pool.Chain (some index) steps) :
    pool.stretch index = ⟨statement (steps.map Prod.snd), true⟩ :=
  stretchFrom_chain chain _ (by have := chain_length_le chain; omega)

theorem token?_chain (chain : pool.Chain (some index) steps) :
    pool.token? index = (steps.map Prod.snd).head? := by
  cases chain with
  | link found _ => simp [token?, found]

end QueryLint.Pool
