import QueryLint.Proofs.Limits
import QueryLint.Proofs.SafeVariables
import QueryLint.Suppression

/-! A table of safe variables is built once. Documents go on changing, and tables are asked for
and read again, but what the first building operation put into a table is what it holds from
then on. -/
namespace QueryLint

/-- The union of what the comments of a line list. -/
def annotated (comments : List Token) (line : Int) : NameSet :=
  .ofList (((comments.filter (·.line = line)).filterMap fun comment =>
    Annotation.names? comment.content).flatten)

theorem mem_annotated {comments : List Token} {line : Int} {name : String} :
    name ∈ annotated comments line ↔ ∃ comment ∈ comments, comment.Marks line name := by
  rw [annotated, NameSet.mem_ofList, List.mem_flatten]
  constructor
  · rintro ⟨names, member, listed⟩
    obtain ⟨comment, member, found⟩ := List.mem_filterMap.mp member
    obtain ⟨inside, here⟩ := List.mem_filter.mp member
    exact ⟨comment, inside, of_decide_eq_true here, names, found, listed⟩
  · rintro ⟨comment, inside, here, names, found, listed⟩
    refine ⟨names, List.mem_filterMap.mpr ⟨comment, ?_, found⟩, listed⟩
    exact List.mem_filter.mpr ⟨inside, decide_eq_true here⟩

theorem annotated_perm {comments others : List Token} (perm : comments.Perm others) (line : Int) :
    annotated comments line = annotated others line := by
  refine NameSet.ext fun name => ?_
  simp only [mem_annotated, perm.mem_iff]

theorem names_annotationTable (comments : List Token) (line : Int) :
    (annotationTable comments).names line = annotated comments line := by
  refine NameSet.ext fun name => ?_
  rw [mem_annotationTable, mem_annotated]

namespace Desk

/-- The two tables at hand: the one that belongs to the document, and one apart from it. -/
inductive Keeper where
  | document
  | apart
deriving DecidableEq

inductive Operation where
  | append (token : Token)
  | link (index : Nat) (next : Option Nat)
  | access
  | parse (keeper : Keeper) (other : Option Document)
  /-- Asks for a line, with as much room for showing another value as there is at the time. -/
  | lookup [Nesting] (keeper : Keeper) (line : Value)
  | entries (keeper : Keeper)
  | silences

inductive Answer where
  | done
  | names (result : Except Fault NameSet)
  | entries (result : Except Fault (LineTable NameSet))
  | silences (table : LineTable Silence)

structure State where
  document : Document
  apart : SafeVariables := {}

namespace State

def table (state : State) : Keeper → SafeVariables
  | .document => state.document.safe
  | .apart => state.apart

def build (state : State) (keeper : Keeper) (source : Document) : State :=
  let built := ((state.table keeper).build source.path source.comments).1
  match keeper with
  | .document => { state with document := { state.document with safe := built } }
  | .apart => { state with apart := built }

def perform (state : State) : Operation → Answer × State
  | .append token => (.done, { state with document := state.document.append token })
  | .link index next => (.done, { state with document := state.document.link index next })
  | .access => (.done, { state with document := state.document.readAnnotations.1 })
  | .parse keeper other => (.done, state.build keeper (other.getD state.document))
  | @Operation.lookup _ keeper line => (.names ((state.table keeper).lookup line), state)
  | .entries keeper => (.entries (state.table keeper).entries, state)
  | .silences => (.silences state.document.silences, state)

end State

def execute : List Operation → State → State
  | [], state => state
  | operation :: operations, state => execute operations (state.perform operation).2

namespace Operation

/-- The operation builds the table, if that is not done. -/
def populates (keeper : Keeper) : Operation → Bool
  | access => keeper = .document
  | parse other _ => other = keeper
  | _ => false

/-- The document that a building operation reads, given the one at hand. -/
def source (document : Document) : Operation → Document
  | parse _ (some other) => other
  | _ => document

end Operation

section Lookup

variable [Nesting] {line : Value}

theorem lookup_unbuilt (line : Value) :
    SafeVariables.lookup {} line = .error .commentsNotRead := by
  cases line <;> rfl

/-- What is no positive line is named, if it can be. -/
theorem lookup_refused (table : LineTable NameSet)
    (refused : ∀ number, line = .int number → number < 1) :
    SafeVariables.lookup ⟨some table⟩ line =
      .error ((line.hindrance? .showing).getD (.lineNotPositive line)) := by
  cases line with
  | int number => exact onLine_refused table (refused number rfl)
  | _ => rfl

end Lookup

section Run

variable {keeper : Keeper} {state : State} {operation : Operation} {operations : List Operation}

theorem execute_append (operations later : List Operation) (state : State) :
    execute (operations ++ later) state = execute later (execute operations state) := by
  induction operations generalizing state with
  | nil => rfl
  | cons operation operations ih => exact ih _

theorem table_build (state : State) (keeper other : Keeper) (source : Document) :
    (state.build other source).table keeper =
      if other = keeper then ((state.table keeper).build source.path source.comments).1
      else state.table keeper := by
  cases keeper <;> cases other <;> rfl

/-- All that an operation can do to a table. -/
theorem table_perform (keeper : Keeper) (state : State) (operation : Operation) :
    (state.perform operation).2.table keeper =
      if operation.populates keeper then
        let source := operation.source state.document
        ((state.table keeper).build source.path source.comments).1
      else state.table keeper := by
  cases operation with
  | access => cases keeper <;> rfl
  | parse other source =>
    have source_eq : (Operation.parse other source).source state.document =
        source.getD state.document := by
      cases source <;> rfl
    simp only [State.perform, table_build, Operation.populates, source_eq, decide_eq_true_eq]
  | _ => cases keeper <;> rfl

theorem build_of_built {safe : SafeVariables} (built : safe.isBuilt) (path : String)
    (comments : List Token) : (safe.build path comments).1 = safe := by
  obtain ⟨table⟩ := safe
  cases table with
  | none => contradiction
  | some table => rfl

theorem eq_empty_of_unbuilt {safe : SafeVariables} (unbuilt : safe.isBuilt = false) : safe = {} := by
  obtain ⟨table⟩ := safe
  cases table with
  | none => rfl
  | some table => contradiction

theorem perform_built (built : (state.table keeper).isBuilt) (operation : Operation) :
    (state.perform operation).2.table keeper = state.table keeper := by
  rw [table_perform]
  split
  · exact build_of_built built _ _
  · rfl

theorem execute_built (built : (state.table keeper).isBuilt) (operations : List Operation) :
    (execute operations state).table keeper = state.table keeper := by
  induction operations generalizing state with
  | nil => rfl
  | cons operation operations ih =>
    have kept := perform_built built operation
    rw [execute, ih (kept ▸ built), kept]

theorem execute_idle (idle : ∀ operation ∈ operations, operation.populates keeper = false) :
    (execute operations state).table keeper = state.table keeper := by
  induction operations generalizing state with
  | nil => rfl
  | cons operation operations ih =>
    have kept : (state.perform operation).2.table keeper = state.table keeper := by
      rw [table_perform, idle operation List.mem_cons_self]
      rfl
    rw [execute, ih fun other member => idle other (List.mem_cons_of_mem _ member), kept]

/-- The first building operation decides what the table holds, whatever comes after it. -/
theorem execute_populated (unbuilt : (state.table keeper).isBuilt = false)
    (idle : ∀ earlier ∈ operations, earlier.populates keeper = false)
    (populates : operation.populates keeper) (later : List Operation) :
    (execute (operations ++ operation :: later) state).table keeper =
      ⟨some (annotationTable (operation.source (execute operations state).document).comments)⟩ := by
  have empty := eq_empty_of_unbuilt unbuilt
  have built : ((execute operations state).perform operation).2.table keeper =
      ⟨some (annotationTable (operation.source (execute operations state).document).comments)⟩ := by
    rw [table_perform, if_pos populates, execute_idle idle, empty]
    rfl
  rw [execute_append, execute, execute_built (by rw [built]; rfl), built]

end Run

/-- Until a table is first built, every use of it fails. From then on it holds what the comments
of the building document listed at that moment, in whatever order they stood, and no later
operation changes it. What is no positive line is refused and leaves all as it is; the answer
names it unless it cannot be written. -/
theorem safe_frozen (keeper : Keeper) (state : State)
    (unbuilt : (state.table keeper).isBuilt = false) (before : List Operation)
    (idle : ∀ operation ∈ before, operation.populates keeper = false) :
    (∀ [Nesting] (line : Value), (execute before state).perform (.lookup keeper line) =
      (.names (.error .commentsNotRead), execute before state)) ∧
    (execute before state).perform (.entries keeper) =
      (.entries (.error .commentsNotRead), execute before state) ∧
    ∀ operation, operation.populates keeper → ∀ later,
      let source := operation.source (execute before state).document
      let now := execute (before ++ operation :: later) state
      (∀ [Nesting] (line : Int), 1 ≤ line → ∀ comments, comments.Perm source.comments →
        now.perform (.lookup keeper (.int line)) = (.names (.ok (annotated comments line)), now)) ∧
      (∀ [Nesting] (line : Value), (∀ number, line = .int number → number < 1) →
        (line.Fits →
          now.perform (.lookup keeper line) = (.names (.error (.lineNotPositive line)), now)) ∧
        (¬ line.Fits → ∃ fault, line.Hinders .showing fault ∧
          now.perform (.lookup keeper line) = (.names (.error fault), now))) ∧
      now.perform (.entries keeper) = (.entries (.ok (annotationTable source.comments)), now) := by
  have empty : (execute before state).table keeper = {} :=
    (execute_idle idle).trans (eq_empty_of_unbuilt unbuilt)
  refine ⟨fun line => ?_, ?_, fun operation populates later => ?_⟩
  · simp only [State.perform, empty, lookup_unbuilt]
  · simp only [State.perform, empty]
    rfl
  · have table := execute_populated unbuilt idle populates later
    refine ⟨fun line positive comments perm => ?_,
      fun line refused => ⟨fun fits => ?_, fun unfit => ?_⟩, ?_⟩
    · simp only [State.perform, table, SafeVariables.lookup]
      rw [onLine_built _ positive, names_annotationTable, annotated_perm perm]
    · simp only [State.perform, table, lookup_refused _ refused,
        Value.hindrance?_eq_none_iff.mpr fits, Option.getD_none]
    · obtain ⟨fault, hinders, hindered⟩ := Value.exists_hindrance? unfit .showing
      refine ⟨fault, hinders, ?_⟩
      simp only [State.perform, table, lookup_refused _ refused, hindered, Option.getD_some]
    · simp only [State.perform, table]
      rfl

def note (content : String) : Token := { kind := .comment, content, line := 1 }

def noted : State where
  document := { pool := #[{ token := note "## SQL safe ($b)" }], members := [0], path := "a.pl" }

/-- A comment is added and the document's own table is built, the other one is not. -/
def preparations : List Operation :=
  [.append (note "## SQL safe ($a, $b)"), .lookup .apart (.int 1), .access, .silences]

/-- A comment comes too late, and another document is offered. -/
def disturbances : List Operation :=
  [.append (note "## SQL safe ($c)"), .parse .apart (some { pool := #[], members := [] }),
    .link 0 none]

theorem noted_frozen :
    (noted.table .apart).isBuilt = false ∧
    (∀ operation ∈ preparations, operation.populates .apart = false) ∧
    ((execute preparations noted).perform (.lookup .apart (.int 1))).1 =
      .names (.error .commentsNotRead) ∧
    ((execute (preparations ++ .parse .apart none :: disturbances) noted).perform
      (.lookup .apart (.int 1))).1 = .names (.ok (.ofList ["$a", "$b"])) ∧
    ((execute (preparations ++ .parse .apart none :: disturbances) noted).perform
      (.lookup .apart (.bool true))).1 = .names (.error (.lineNotPositive (.bool true))) := by
  have idle : ∀ operation ∈ preparations, operation.populates .apart = false := by decide
  obtain ⟨unread, _, built⟩ := safe_frozen .apart noted rfl preparations idle
  obtain ⟨listed, refused, _⟩ := built (.parse .apart none) rfl disturbances
  have names : annotated (execute preparations noted).document.comments 1 =
      .ofList ["$a", "$b"] := by
    decide +kernel
  refine ⟨rfl, idle, by rw [unread], ?_, ?_⟩
  · rw [listed 1 (by decide) _ (.refl _)]
    exact congrArg (fun set => Answer.names (.ok set)) names
  · rw [(refused (.bool true) (by simp)).1 (Value.fits_of_free rfl)]

/-- Not every number that is no line is refused as such, however much room there is. -/
theorem overlong_line_unnamed :
    ¬ ∃ _ : Nesting, ∀ (safe : SafeVariables) (line : Int), safe.isBuilt → line < 1 →
      safe.lookup (.int line) = .error (.lineNotPositive (.int line)) := by
  rintro ⟨room, names⟩
  obtain ⟨line, low, long⟩ : ∃ line : Int, line < 1 ∧ Nat.pow 10 digitLimit ≤ line.natAbs := by
    refine ⟨-(Nat.pow 10 digitLimit : Nat), by omega, Nat.le_of_eq ?_⟩
    rw [Int.natAbs_neg, Int.natAbs_natCast]
  have refused := names ⟨some []⟩ line rfl low
  rw [SafeVariables.lookup, onLine_refused [] low, overlong?_of_long long] at refused
  exact absurd refused (by simp)

end Desk

end QueryLint
