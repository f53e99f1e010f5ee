import QueryLint.Proofs.Session.Basis

/-! Workers that scan the documents of a batch side by side. All of them use one session: they
look up and keep instances of rules, read annotations and add errors there. A collector takes the
results of finished workers in any order. A schedule says whose turn it is, one access to the
session at a time; whoever cannot go on lets the turn pass. -/
namespace QueryLint.Parallel

/-- How far a worker has come with its document. Instances are got for one id after another: an
instance that is missing is made, then kept, and what is kept by then is taken. The errors of
a pair are added after it has been judged. -/
inductive Progress where
  | waiting
  | fetching (ids : List String) (taken : List RuleInstance)
  | storing (made : RuleInstance) (ids : List String) (taken : List RuleInstance)
  | taking (id : String) (ids : List String) (taken : List RuleInstance)
  | scanning (pairs : List ((Nat × Token) × RuleInstance)) (findings : List Finding)
      (pending : List String)
  | ended (result : Except Fault (List Finding)) (collected : Bool)

def Progress.isCollected : Progress → Bool
  | .ended _ collected => collected
  | _ => false

structure Job where
  index : Nat
  progress : Progress := .waiting

structure State where
  session : Session
  jobs : List Job
  batch : Batch := {}

inductive Turn where
  | work (place : Nat)
  | collect (place : Nat)

/-- What a worker does in one turn. -/
def work [Nesting] (session : Session) (index : Nat) : Progress → Progress × Session
  | .waiting =>
    match session.documents[index]? with
    | none => (.ended (.ok []) false, session)
    | some _ => (.fetching session.registry.ids [], session)
  | .fetching [] taken =>
    match session.documents[index]? with
    | none => (.fetching [] taken, session)
    | some document =>
      let rules := taken.filter fun self => session.engine.runs session.registry self.id
      (.scanning (document.pairs rules) [] [], session)
  | .fetching (id :: ids) taken =>
    match session.registry.rule? id with
    | none => (.fetching ids taken, session)
    | some rule =>
      match session.engine.ruleConfig.hindrance? .showing with
      | some fault => (.ended (.error fault) false, session)
      | none =>
        match session.registry.instance? id session.engine.ruleConfig with
        | some _ => (.taking id ids taken, session)
        | none =>
          let serial := session.registry.instances.length
          (.storing ⟨serial, rule, session.engine.ruleConfig⟩ ids taken, session)
  | .storing made ids taken =>
    (.taking made.id ids taken, { session with registry := session.registry.keep made })
  | .taking id ids taken =>
    match session.registry.instance? id session.engine.ruleConfig with
    | none => (.taking id ids taken, session)
    | some self => (.fetching ids (taken ++ [self]), session)
  | .scanning pairs findings (message :: pending) =>
    (.scanning pairs findings pending, session.addErrors [message])
  | .scanning [] findings [] => (.ended (.ok findings) false, session)
  | .scanning (((place, token), self) :: pairs) findings [] =>
    match session.documents[index]? with
    | none => (.scanning (((place, token), self) :: pairs) findings [], session)
    | some document =>
      let pair := scanPair document.silences document place token self
      let session := { session with
        documents := session.documents.setIfInBounds index pair.document }
      match pair.result with
      | .error fault => (.ended (.error fault) false, session)
      | .ok made =>
        (.scanning pairs (findings ++ made.findings session.engine.threshold) made.errors, session)
  | .ended result collected => (.ended result collected, session)

/-- What the collector does with the result of a worker. -/
def close (session : Session) (batch : Batch) (index : Nat) (result : Except Fault (List Finding)) :
    Batch × Session :=
  (batch.add result, session.addErrors (closing (session.pathOf index) result))

def advance [Nesting] (state : State) : Turn → State
  | .work place =>
    match state.jobs[place]? with
    | none => state
    | some job =>
      let (progress, session) := work state.session job.index job.progress
      { state with session, jobs := state.jobs.set place { job with progress } }
  | .collect place =>
    match state.jobs[place]? with
    | some ⟨index, .ended result false⟩ =>
      let (batch, session) := close state.session state.batch index result
      { session, batch, jobs := state.jobs.set place ⟨index, .ended result true⟩ }
    | _ => state

def execute [Nesting] : List Turn → State → State
  | [], state => state
  | turn :: turns, state => execute turns (advance state turn)

def initial (session : Session) (indexes : List Nat) : State where
  session := session
  jobs := indexes.map fun index => { index }

/-- How the scan of a worker is going to end, and the errors it is still going to add. -/
def forecast [Nesting] (basis : Basis) (index : Nat) : Progress → Prospect
  | .waiting => basis.remainder index basis.ids []
  | .fetching ids taken => basis.remainder index ids taken
  | .storing made ids taken => basis.remainder index (made.id :: ids) taken
  | .taking id ids taken => basis.remainder index (id :: ids) taken
  | .scanning pairs findings pending =>
    match basis.documents[index]? with
    | none => (.ok findings, pending)
    | some document =>
      let later := tally basis.threshold (pairs.map document.alone)
      (later.1.map (findings ++ ·), pending ++ later.2)
  | .ended result _ => (result, [])

/-- The error that a worker adds in its next turn, if it adds one. -/
def posts : Progress → List String
  | .scanning _ _ (message :: _) => [message]
  | _ => []

/-- A worker at work has a document, and an instance that is going to be kept or taken is one
that its id stands for. -/
def Sound [Nesting] (basis : Basis) (index : Nat) : Progress → Prop
  | .waiting | .ended _ _ => True
  | .fetching _ _ | .scanning _ _ _ => (basis.documents[index]?).isSome
  | .storing made _ _ =>
    (basis.documents[index]?).isSome ∧ basis.config.hindrance? .showing = none ∧
      basis.standing made.id = some made.unnumbered ∧ made.config = basis.config
  | .taking id _ _ =>
    (basis.documents[index]?).isSome ∧ basis.config.hindrance? .showing = none ∧
      (basis.standing id).isSome

/-- What a turn of a worker keeps: the basis of the session, the forecast of its result, and the
errors up to those that it adds. -/
structure Follows [Nesting] (session : Session) (index : Nat) (progress next : Progress)
    (later : Session) : Prop where
  basis : later.basis = session.basis
  sound : Sound session.basis index next
  uncollected : next.isCollected = progress.isCollected
  result : (forecast session.basis index next).1 = (forecast session.basis index progress).1
  added : later.engine.errors = session.engine.errors ++ posts progress
  errors : posts progress ++ (forecast session.basis index next).2 =
    (forecast session.basis index progress).2

section Turns

variable {session : Session} {index : Nat}

variable [Nesting]

end Turns

end QueryLint.Parallel
