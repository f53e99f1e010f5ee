import QueryLint.Proofs.Statement.Halting

/-! The scan of a statement inside a larger pool. It meets no tokens but those that links lead
to, and a pool with more tokens only gives it a larger bound, which does not show. -/
namespace QueryLint.Pool

/-- The larger pool has the tokens of the other one in their places, with their links. -/
def Within (pool larger : Pool) : Prop :=
  ∀ (index : Nat) (node : Node), pool[index]? = some node → larger[index]? = some node

/-- No link leads out of the pool. -/
def Enclosed (pool : Pool) : Prop :=
  ∀ index next, pool.next? index = some next → next < pool.size

variable {pool larger : Pool} {index turns : Nat} {place : Option Nat} {safe : SafeVariables}
  {walk : Walk}

theorem Within.getElem? (within : pool.Within larger) (inside : index < pool.size) :
    larger[index]? = pool[index]? := by
  rw [Array.getElem?_eq_getElem inside]
  exact within index _ (Array.getElem?_eq_getElem inside)

theorem Within.token? (within : pool.Within larger) (inside : index < pool.size) :
    larger.token? index = pool.token? index := by
  simp only [Pool.token?, within.getElem? inside]

theorem Within.node? (within : pool.Within larger) (inside : ∀ index ∈ place, index < pool.size) :
    larger.node? place = pool.node? place := by
  cases place with
  | none => rfl
  | some index => simp only [Pool.node?, Option.bind_some, within.getElem? (inside index rfl)]

/-- A turn in the larger pool is a turn in the pool. -/
theorem Within.turn (within : pool.Within larger) (inside : ∀ index ∈ walk.place, index < pool.size) :
    walk.turn larger safe = walk.turn pool safe := by
  simp only [Walk.turn, within.node? inside]

/-- A turn does not lead out of the pool. -/
theorem Enclosed.turn (enclosed : pool.Enclosed) (inside : ∀ index ∈ walk.place, index < pool.size) :
    ∀ index ∈ (walk.turn pool safe).place, index < pool.size := by
  cases going : walk.outcome with
  | some scan =>
    rw [Walk.turn_ended (by simp [going])]
    exact inside
  | none =>
    cases here : pool.node? walk.place with
    | none =>
      rw [Walk.turn_behind going here]
      exact inside
    | some found =>
      obtain ⟨index, node⟩ := found
      have known := (node?_eq_some.mp here).2
      rw [Walk.turn_take going here, Walk.take]
      dsimp only
      split
      · exact inside
      · split
        · exact inside
        · intro next link
          exact enclosed index next (by simpa [next?, known] using link)

theorem Within.after (within : pool.Within larger) (enclosed : pool.Enclosed)
    (inside : index < pool.size) (turns : Nat) :
    Walk.after larger safe index turns = Walk.after pool safe index turns ∧
      ∀ place ∈ (Walk.after pool safe index turns).place, place < pool.size := by
  induction turns with
  | zero =>
    have start : Walk.start larger index = Walk.start pool index := by
      simp only [Walk.start, within.token? inside]
    refine ⟨start, fun place here => ?_⟩
    rwa [← Option.some.inj here]
  | succ turns ih =>
    obtain ⟨same, stays⟩ := ih
    rw [Walk.after_succ, Walk.after_succ, same, within.turn stays]
    exact ⟨rfl, enclosed.turn stays⟩

/-- The scan of a statement sees nothing of a pool but the tokens that links lead to. -/
theorem Within.scanStatement {table : LineTable NameSet} (within : pool.Within larger)
    (enclosed : pool.Enclosed) (inside : index < pool.size) :
    scanStatement larger ⟨some table⟩ index = scanStatement pool ⟨some table⟩ index := by
  have same := fun turns => (@within.after _ _ _ ⟨some table⟩ enclosed inside turns).1
  by_cases endless : Walk.Endless pool index
  · have further : Walk.Endless larger index := by
      rw [← @Walk.going_iff_endless _ table]
      intro turns
      rw [same, Walk.going_iff_endless.mpr endless]
    rw [Walk.scanStatement_endless endless, Walk.scanStatement_endless further]
  · obtain ⟨scan, outcome, _⟩ := Walk.exists_final table endless
    obtain ⟨_, _, result⟩ := Walk.after_of_outcome outcome
    rw [← same] at outcome
    obtain ⟨_, _, result'⟩ := Walk.after_of_outcome outcome
    rw [result, result']

end QueryLint.Pool
