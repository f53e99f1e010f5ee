import QueryLint.Proofs.Parallel.Machine

/-! What every schedule keeps. The errors that have been added carry, unseen, the place of the
worker that they belong to; those of one worker and those that it is still going to add make up
what its document adds by itself. -/
namespace QueryLint.Parallel

/-- The documents whose results have been collected. -/
def collected (jobs : List Job) : List Nat :=
  (jobs.filter fun job => job.progress.isCollected).map Job.index

section Set

variable {jobs : List Job} {place : Nat} {job : Job}

end Set

section Steps

variable {place : Nat}

variable [Nesting] {session : Session} {indexes : List Nat} {state : State}
  {posted : List (Nat × String)} {order : List Nat}

end Steps

end QueryLint.Parallel
