import QueryLint.Proofs.Engine.Contribution
import QueryLint.Proofs.Session.Repetition

/-! Documents whose scan breaks off. A rule that cannot say whether it applies ends the scan of
its document, as does one that fails on a line that cannot be named: what was found there is given
up, while the errors met so far stay and are closed by one entry about the document. The other
documents of a batch do not notice. -/
namespace QueryLint

section Document

variable {threshold : Severity} {document : Document}

end Document

namespace Session

variable {session : Session} {indexes : List Nat} {documents : List Document}

def Holds (session : Session) : List Nat → List Document → Prop :=
  List.Forall₂ fun index document => session.documents[index]? = some document

/-- What is told of positions by their documents is told of the documents. -/
theorem Holds.map_eq {α : Type} {told : Nat → α} {tells : Document → α}
    (holds : session.Holds indexes documents)
    (same : ∀ index document, session.documents[index]? = some document →
      told index = tells document) :
    indexes.map told = documents.map tells := by
  induction holds with
  | nil => rfl
  | cons here _ ih => rw [List.map_cons, List.map_cons, same _ _ here, ih]

theorem Holds.batchErrors [Nesting] (holds : session.Holds indexes documents) :
    indexes.map session.batchErrors = documents.map fun document =>
      let account := surveyDocument session.engine.threshold (session.rules.map Prod.fst) document
      account.2 ++ closing document.path account.1 :=
  holds.map_eq fun index document here => by
    simp only [Session.batchErrors, outcome, pathOf, here, Option.elim_some]

end Session

end QueryLint
