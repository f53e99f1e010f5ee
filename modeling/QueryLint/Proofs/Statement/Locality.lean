import QueryLint.Proofs.Document.Links
import QueryLint.Proofs.Engine.Settled
import QueryLint.Proofs.SafeVariables.Frozen
import QueryLint.Proofs.Statement.Reading

/-! What the injection rule says about a token stays within the statement of the token. It is
decided by the tokens from there to the terminator and by the annotations on the lines of the
literals among them; other statements, and the rest of the document, have no part in it. -/
namespace QueryLint

section Reading

variable {safe other : SafeVariables} {token : Token} {tokens : List Token}

theorem unsafeVariables_congr
    (agree : token.Interpolates →
      safe.onLine token.effectiveLine = other.onLine token.effectiveLine) :
    unsafeVariables safe token = unsafeVariables other token := by
  simp only [unsafeVariables, bind, Except.bind]
  cases lead : token.isInterpolated with
  | error fault => rfl
  | ok inside =>
    cases inside with
    | false => rfl
    | true => rw [agree (Token.isInterpolated_iff.mp lead)]

/-- The reading looks up no other lines than those of the literals it meets. -/
theorem readTokens_congr
    (agree : ∀ token ∈ tokens, token.Interpolates →
      safe.onLine token.effectiveLine = other.onLine token.effectiveLine)
    (joining : Bool) : readTokens safe joining tokens = readTokens other joining tokens := by
  induction tokens generalizing joining with
  | nil => rfl
  | cons token rest ih =>
    have here := unsafeVariables_congr (agree token List.mem_cons_self)
    have later := ih fun next member => agree next (List.mem_cons_of_mem _ member)
    simp only [readTokens, here, later]

/-- The scan of a statement that is given by its tokens. -/
def scanTokens (safe : SafeVariables) (tokens : List Token) : StatementScan :=
  if tokens.head?.any Token.isEntry then .ofReading true (readTokens safe false tokens)
  else .complete []

theorem scanTokens_congr
    (agree : ∀ token ∈ tokens, token.Interpolates →
      safe.onLine token.effectiveLine = other.onLine token.effectiveLine) :
    scanTokens safe tokens = scanTokens other tokens := by
  rw [scanTokens, scanTokens, readTokens_congr agree]

theorem scanStatement_chain {pool : Pool} {start : Nat} {steps : List (Nat × Token)}
    (chain : pool.Chain (some start) steps) :
    scanStatement pool safe start = scanTokens safe (Pool.statement (steps.map Prod.snd)) := by
  have head : (Pool.statement (steps.map Prod.snd)).head?.any Token.isEntry =
      (pool.token? start).any Token.isEntry := by
    have starts := @startsQuery_statement (steps.map Prod.snd)
    rw [Pool.token?_chain chain, Bool.eq_iff_iff, ← starts]
    simp [StartsQuery, Option.any_eq_true]
  rw [scanStatement, scanTokens, head, Pool.stretch_chain chain]

end Reading

namespace Document

/-- The tokens of a statement from a place on, up to the first terminator. -/
def stretch (document : Document) (statement : List Nat) (place : Nat) : List Token :=
  Pool.statement ((statement.drop place).filterMap document.pool.token?)

/-- The annotations say the same on the lines of all interpolated literals among the tokens. -/
def AgreeOn (first second : Document) (tokens : List Token) : Prop :=
  ∀ token ∈ tokens, token.Interpolates →
    annotated first.comments token.effectiveLine = annotated second.comments token.effectiveLine

/-- The comments have the same lines and contents, in whatever order and number. -/
def SameRemarks (first second : Document) : Prop :=
  ∀ remark, remark ∈ first.comments.map (fun comment => (comment.line, comment.content)) ↔
    remark ∈ second.comments.map (fun comment => (comment.line, comment.content))

variable {first second document : Document} {statement : List Nat} {place index : Nat}
  {tokens : List Token}

theorem marks_of_sameRemarks (same : SameRemarks first second) {line : Int} {name : String}
    (marked : ∃ comment ∈ first.comments, comment.Marks line name) :
    ∃ comment ∈ second.comments, comment.Marks line name := by
  obtain ⟨comment, member, here, names, listed, named⟩ := marked
  have found := (same (comment.line, comment.content)).mp
    (List.mem_map.mpr ⟨comment, member, rfl⟩)
  obtain ⟨twin, inside, alike⟩ := List.mem_map.mp found
  obtain ⟨line, content⟩ := Prod.mk.injEq .. ▸ alike
  exact ⟨twin, inside, line.trans here, names, content ▸ listed, named⟩

theorem agreeOn_of_sameRemarks (same : SameRemarks first second) : AgreeOn first second tokens := by
  intro token _ _
  refine NameSet.ext fun name => ?_
  rw [mem_annotated, mem_annotated]
  constructor
  · exact marks_of_sameRemarks same
  · exact marks_of_sameRemarks fun remark => (same remark).symm

theorem onLine_of_agreeOn (unread : first.safe = {}) (unread' : second.safe = {})
    (agree : AgreeOn first second tokens) (token : Token) (member : token ∈ tokens)
    (inside : token.Interpolates) :
    first.settled.safe.onLine token.effectiveLine =
      second.settled.safe.onLine token.effectiveLine := by
  rw [settled_safe_of_unbuilt unread, settled_safe_of_unbuilt unread']
  by_cases positive : 1 ≤ token.effectiveLine
  · rw [onLine_built _ positive, onLine_built _ positive, names_annotationTable,
      names_annotationTable, agree token member inside]
  · have low : token.effectiveLine < 1 := by omega
    rw [onLine_refused _ low, onLine_refused _ low]

/-- Where the links run along a statement, the scan reads the rest of that statement. -/
theorem scanStatement_stretch {safe : SafeVariables} (runs : document.pool.Runs statement)
    (inside : ∀ index ∈ statement, index < document.pool.size)
    (here : statement[place]? = some index) :
    scanStatement document.pool safe index = scanTokens safe (document.stretch statement place) := by
  have chain := Pool.chain_runs runs inside here
  have tokens : (document.pool.stepsAlong (statement.drop place)).map Prod.snd =
      (statement.drop place).filterMap document.pool.token? := by
    simp [Pool.stepsAlong, List.map_filterMap, Function.comp_def]
  rw [scanStatement_chain chain, tokens]
  rfl

/-- The token at a place heads the stretch from there on, unless it is a terminator. -/
theorem head?_stretch {token : Token} (here : statement[place]? = some index)
    (known : document.pool.token? index = some token) :
    document.stretch statement place = [] ∧ token.isEntry = false ∨
      (document.stretch statement place).head? = some token := by
  obtain ⟨bound, rfl⟩ := List.getElem?_eq_some_iff.mp here
  rw [stretch, List.drop_eq_getElem_cons bound, List.filterMap_cons, known, Pool.statement]
  by_cases ended : token.kind = .terminator
  · left
    simp [ended, Token.isEntry, TokenKind.isLiteral, TokenKind.literals]
  · right
    simp [ended]

end Document

namespace RuleInstance

/-- What the rule says about the token at a position: a fault, or the finding as it is written,
if there is one. -/
def outcome (self : RuleInstance) (document : Document) (index : Nat) :
    Except Fault (Option Value) :=
  match document.pool.token? index with
  | none => .ok none
  | some token => (self.judge document index token).finding.map (Option.map Finding.toValue)

variable {self : RuleInstance} {first second : Document} {index other : Nat} {token : Token}

/-- What is written about a finding tells nothing of the document but its path and source. -/
theorem toValue_finding (path : first.path = second.path) (source : first.source = second.source)
    (violation : Violation) :
    (self.finding first index token violation).map Finding.toValue =
      (self.finding second other token violation).map Finding.toValue := by
  have snippet : first.snippet? token.line snippetContext =
      second.snippet? token.line snippetContext := by
    simp only [Document.snippet?, Document.lines, source]
  simp only [finding, bind, Except.bind]
  cases self.severity with
  | error fault => rfl
  | ok severity =>
    simp [Except.map, pure, Except.pure, Finding.toValue, Finding.mainFields,
      Finding.optionalFields, snippet, path]

theorem outcome_settled (document : Document) (index : Nat) :
    self.outcome document.settled index = self.outcome document index := by
  have pool : document.settled.pool = document.pool := rfl
  rw [outcome, outcome, pool]
  cases document.pool.token? index with
  | none => rfl
  | some token => simp only [self.judge_finding_settled document index token]

theorem judge_injection (injection : self.rule = .injection) (document : Document) :
    (self.judge document index token).finding.map (Option.map Finding.toValue) =
      match (Rule.injectionVerdict document.path token
        (scanStatement document.pool document.settled.safe index)).violation with
      | .error fault => .error fault
      | .ok none => .ok none
      | .ok (some violation) =>
        ((self.finding document.settled index token violation).map Finding.toValue).map some := by
  have reads : self.rule.readsAnnotations = true := by rw [injection]; rfl
  have judges : self.rule.judge document.settled index token =
      Rule.injectionVerdict document.path token
        (scanStatement document.pool document.settled.safe index) := by
    rw [injection]
    rfl
  simp only [judge, reads, if_true, Document.readAnnotations_fst, judges, bind, Except.bind]
  cases (Rule.injectionVerdict document.path token
    (scanStatement document.pool document.settled.safe index)).violation with
  | error fault => rfl
  | ok found =>
    cases found with
    | none => rfl
    | some violation =>
      cases made : self.finding document.settled index token violation with
      | error fault => simp only [made, Except.map]
      | ok finding =>
        simp only [made]
        rfl

/-- A token that starts no scan has nothing said about it. -/
theorem judge_of_not_entry (injection : self.rule = .injection) (document : Document)
    (known : document.pool.token? index = some token) (idle : token.isEntry = false) :
    (self.judge document index token).finding.map (Option.map Finding.toValue) = .ok none := by
  have scanned : scanStatement document.pool document.settled.safe index = .complete [] := by
    rw [scanStatement, known]
    simp [idle]
  rw [judge_injection injection, scanned]
  rfl

section Stretch

variable {here there : List Nat} {place beyond : Nat}

/-- The outcome is decided by the stretch from the token on and by the annotations on the lines
of its literals. -/
theorem outcome_of_stretch (injection : self.rule = .injection)
    (unread : first.safe = {}) (unread' : second.safe = {})
    (path : first.path = second.path) (source : first.source = second.source)
    (runs : first.pool.Runs here) (inside : ∀ index ∈ here, index < first.pool.size)
    (runs' : second.pool.Runs there) (inside' : ∀ index ∈ there, index < second.pool.size)
    (at_first : here[place]? = some index) (at_second : there[beyond]? = some other)
    (same : first.stretch here place = second.stretch there beyond)
    (agree : first.AgreeOn second (first.stretch here place)) :
    self.outcome first index = self.outcome second other := by
  have bound := inside index (List.mem_of_getElem? at_first)
  have bound' := inside' other (List.mem_of_getElem? at_second)
  obtain ⟨token, known⟩ : ∃ token, first.pool.token? index = some token :=
    ⟨first.pool[index].token, by simp [Pool.token?, bound]⟩
  obtain ⟨twin, known'⟩ : ∃ token, second.pool.token? other = some token :=
    ⟨second.pool[other].token, by simp [Pool.token?, bound']⟩
  simp only [outcome, known, known']
  rcases Document.head?_stretch at_first known with ⟨empty, idle⟩ | head
  · -- Both stretches are empty, so both scans start at a terminator.
    rcases Document.head?_stretch at_second known' with ⟨_, idle'⟩ | head'
    · rw [judge_of_not_entry injection first known idle,
        judge_of_not_entry injection second known' idle']
    · rw [← same, empty] at head'
      contradiction
  · have equal : token = twin := by
      rcases Document.head?_stretch at_second known' with ⟨empty, _⟩ | head'
      · rw [same, empty] at head
        contradiction
      · rw [same, head'] at head
        exact (Option.some.inj head).symm
    subst equal
    have scans : scanStatement first.pool first.settled.safe index =
        scanStatement second.pool second.settled.safe other := by
      rw [Document.scanStatement_stretch runs inside at_first,
        Document.scanStatement_stretch runs' inside' at_second, ← same]
      exact scanTokens_congr (Document.onLine_of_agreeOn unread unread' agree)
    rw [judge_injection injection, judge_injection injection, scans, path]
    cases (Rule.injectionVerdict second.path token
      (scanStatement second.pool second.settled.safe other)).violation with
    | error fault => rfl
    | ok found =>
      cases found with
      | none => rfl
      | some violation =>
        exact congrArg (Except.map some) (toValue_finding path source violation)

end Stretch

end RuleInstance

namespace Arrangement

variable {self : RuleInstance} {first second : Arrangement} {here there : List Nat}

theorem stretch_of_same {path : String} {source : Option String}
    (same : here.map first.pool.token? = there.map second.pool.token?) (place : Nat) :
    (first.document path source).stretch here place =
      (second.document path source).stretch there place := by
  have rest := congrArg (fun tokens => (tokens.drop place).filterMap id) same
  simp only [← List.map_drop, List.filterMap_map, Function.id_comp] at rest
  simp only [Document.stretch, document_token?, rest]

/-- Nothing leaks from one statement into another. A statement that two documents share has the
same outcomes in both, if their comments say the same. What counts are the tokens up to the
terminator and the annotations on the lines of their literals. It makes no difference whether
annotations have been read before, nor if the second document is built from the tokens of the
first. -/
theorem outcome_local (injection : self.rule = .injection) (path : String)
    (source : Option String) (shared : here ∈ first.statements)
    (shared' : there ∈ second.statements) :
    let one := first.document path source
    let two := second.document path source
    (here.map first.pool.token? = there.map second.pool.token? → one.SameRemarks two →
      ∀ place index other : Nat, here[place]? = some index → there[place]? = some other →
        self.outcome one index = self.outcome two other) ∧
    (∀ place beyond index other : Nat, here[place]? = some index → there[beyond]? = some other →
      one.stretch here place = two.stretch there beyond →
      one.AgreeOn two (one.stretch here place) →
        self.outcome one index = self.outcome two other) ∧
    (∀ index, self.outcome one.settled index = self.outcome one index) ∧
    (second.pool = one.pool → here ∈ second.statements → ∀ index ∈ here,
      self.outcome { one with pool := two.pool } index = self.outcome one index) := by
  intro one two
  have within : ∀ place beyond index other : Nat, here[place]? = some index →
      there[beyond]? = some other → one.stretch here place = two.stretch there beyond →
      one.AgreeOn two (one.stretch here place) →
      self.outcome one index = self.outcome two other := by
    intro place beyond index other at_first at_second
    exact RuleInstance.outcome_of_stretch injection rfl rfl rfl rfl (document_runs shared)
      (document_inside shared) (document_runs shared') (document_inside shared') at_first at_second
  refine ⟨?_, within, RuleInstance.outcome_settled one, ?_⟩
  · intro same remarks place index other at_first at_second
    exact within place place index other at_first at_second (stretch_of_same same place)
      (Document.agreeOn_of_sameRemarks remarks)
  · intro pool again index member
    obtain ⟨place, at_first⟩ := List.getElem?_of_mem member
    -- Linking anew changes no token, and the shared statement is linked as before.
    have tokens : two.pool.token? = one.pool.token? := by
      funext position
      rw [document_token?, pool]
    have comments : { one with pool := two.pool }.comments = one.comments := by
      simp only [Document.comments, Document.find, Document.tokens, tokens]
    have runs : two.pool.Runs here := document_runs again
    have inside : ∀ index ∈ here, index < two.pool.size := document_inside again
    refine RuleInstance.outcome_of_stretch injection rfl rfl rfl rfl runs inside
      (document_runs shared) (document_inside shared) at_first at_first ?_ ?_
    · simp only [Document.stretch, tokens]
    · intro token _ _
      rw [comments]

def sharedTokens : List Token := [
  { kind := .literalDouble, content := "SELECT $a, $b", line := 1 },
  { kind := .operator, content := ".", line := 1 },
  { kind := .symbol, content := "$c", line := 2 }]

def safeRemark : Token := { kind := .comment, content := "## SQL safe ($a)", line := 1 }

def foreignTokens : List Token := [
  { kind := .literalDouble, content := "DELETE $x", line := 1 },
  { kind := .terminator, content := ";", line := 1 },
  { kind := .literalInterpolate, content := "qqq", line := 0 }]

def poolOf (tokens : List Token) : Pool := (tokens.map fun token => { token }).toArray

/-- The shared statement and a comment. -/
def plain : Arrangement where
  pool := poolOf (sharedTokens ++ [safeRemark])
  statements := [[0, 1, 2], [3]]
  distinct := by decide
  inside := by decide

/-- The shared statement between others, and the comment twice. -/
def surrounded : Arrangement where
  pool := poolOf (foreignTokens ++ sharedTokens ++ [safeRemark, safeRemark])
  statements := [[0, 2], [6, 7], [3, 4, 5], [1]]
  distinct := by decide
  inside := by decide

/-- The shared tokens inside a longer statement, with one more annotation on another line. -/
def extended : Arrangement where
  pool := poolOf (foreignTokens ++ sharedTokens ++
    [safeRemark, { kind := .comment, content := "## SQL safe ($c)", line := 2 }])
  statements := [[0, 3, 4, 5, 1, 2], [6], [7]]
  distinct := by decide
  inside := by decide

/-- The tokens of the plain document, with another statement in front. -/
def rebuilt : Arrangement where
  pool := (plain.document "a.pl" none).pool
  statements := [[3], [0, 1, 2]]
  distinct := by decide
  inside := by decide

def strict : RuleInstance := ⟨0, .injection, .null⟩

theorem sharedTokens_outcome :
    ((strict.outcome (plain.document "a.pl" none) 0).toOption.bind id).isSome ∧
    strict.outcome (plain.document "a.pl" none) 0 =
      strict.outcome (surrounded.document "a.pl" none) 3 ∧
    strict.outcome (plain.document "a.pl" none) 0 =
      strict.outcome (extended.document "a.pl" none) 3 ∧
    strict.outcome { plain.document "a.pl" none with
      pool := (rebuilt.document "a.pl" none).pool } 0 =
      strict.outcome (plain.document "a.pl" none) 0 := by
  have remarks : (plain.document "a.pl" none).SameRemarks (surrounded.document "a.pl" none) := by
    have first : (plain.document "a.pl" none).comments = [safeRemark] := by decide +kernel
    have second : (surrounded.document "a.pl" none).comments = [safeRemark, safeRemark] := by
      decide +kernel
    intro remark
    simp [first, second]
  have agree : (plain.document "a.pl" none).AgreeOn (extended.document "a.pl" none)
      ((plain.document "a.pl" none).stretch [0, 1, 2] 0) := by
    unfold Document.AgreeOn
    decide +kernel
  have apart := @outcome_local strict plain surrounded [0, 1, 2] [3, 4, 5] rfl "a.pl" none
    (by decide) (by decide)
  have within := @outcome_local strict plain extended [0, 1, 2] [0, 3, 4, 5, 1, 2] rfl "a.pl" none
    (by decide) (by decide)
  have again := @outcome_local strict plain rebuilt [0, 1, 2] [0, 1, 2] rfl "a.pl" none
    (by decide) (by decide)
  refine ⟨by decide +kernel, ?_, ?_, ?_⟩
  · exact apart.1 (by decide +kernel) remarks 0 0 3 rfl rfl
  · exact within.2.1 0 1 0 3 rfl rfl (by decide +kernel) agree
  · exact again.2.2.2 rfl (by decide) 0 (by decide)

end Arrangement

end QueryLint
