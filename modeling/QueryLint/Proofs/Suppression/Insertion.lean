import QueryLint.Proofs.Statement.Surroundings
import QueryLint.Proofs.Suppression.Table

/-! A comment that silences rules, put into a document at any place. It is no annotation, so the
injection rule says about every other token what it said before. All that changes is that findings
on the line of the comment are marked. -/
namespace QueryLint

namespace Silence

open Text

variable {text tail : List Char} {comment : String} {c : Char}

/-- The two kinds of comments part ways at the first letter of their first word. -/
theorem not_spells (spelled : spells 'n' c) : spells 's' c = false := by
  have lower : c.toLower = 'n' := by
    simpa [spells] using spelled
  have long : c ≠ '\u017f' := by
    rintro rfl
    revert lower
    decide
  simp [spells, lower, long]

theorem body?_of_opens (opens : Opens text tail) : Annotation.body? text = none := by
  obtain ⟨lead, gap, no, wide, critic, leading, gapped, first, _, _, _, _, rfl⟩ := opens
  have mark : Solid ('#' :: '#' :: (gap ++ (no ++ (wide ++ (critic ++ tail))))) :=
    solid_cons (by decide)
  have start : skipBlanks (gap ++ (no ++ (wide ++ (critic ++ tail)))) =
      no ++ (wide ++ (critic ++ tail)) :=
    skipBlanks_append gapped (solid_of_spells (by decide) first)
  have other : stripSpelling? ['s', 'q', 'l'] (no ++ (wide ++ (critic ++ tail))) = none := by
    cases first with
    | cons letter _ => simp [stripSpelling?, not_spells letter]
  simp only [skipBlanks_append leading mark, start, other, Annotation.body?, bind, Option.bind]

/-- A comment that opens so does not start with the mark of a script. -/
theorem commentBody?_of_opens (opens : Opens text tail) : Annotation.commentBody? text = none := by
  have plain := body?_of_opens opens
  obtain ⟨lead, gap, no, wide, critic, leading, _, _, _, _, _, _, rfl⟩ := opens
  unfold Annotation.commentBody?
  split
  · rename_i rest script
    cases lead with
    | nil => simp at script
    | cons blank lead =>
      obtain ⟨rfl, _⟩ := List.cons.inj script
      have := leading '#' List.mem_cons_self
      contradiction
  · exact plain

/-- No comment that silences rules is an annotation. -/
theorem names?_of_silences (silencing : Silences comment) : Annotation.names? comment = none := by
  obtain ⟨tail, opens⟩ := silencing
  simp [commentBody?_of_opens opens, Annotation.names?]

end Silence

/-- What a comment makes of a finding. -/
def Finding.silencedBy (comment : Token) (finding : Finding) : Finding :=
  if finding.location.startLine = comment.line ∧
      (Silence.ofComment? comment.content).any (·.covers finding.ruleId) then
    finding.suppress QueryLint.suppressionReason
  else finding

/-- The contribution of a pair once the comment is read. -/
def Contribution.silencedBy (comment : Token) : Contribution → Contribution
  | finding f => finding (f.silencedBy comment)
  | nothing => nothing
  | error message => error message

namespace Document

/-- The document gets one more token, at any place among its own. The token is one of the pool, or
the pool gets larger, where no link leads out of it. -/
structure Inserts (document other : Document) (comment : Token) : Prop where
  members : ∃ before after index, document.members = before ++ after ∧
    other.members = before ++ index :: after ∧ other.pool.token? index = some comment
  pool : other.pool = document.pool ∨ document.pool.Within other.pool ∧ document.pool.Enclosed ∧
    ∀ index ∈ document.members, index < document.pool.size
  path : other.path = document.path
  source : other.source = document.source
  safe : other.safe = document.safe

variable {document other : Document} {comment token : Token} {index : Nat}

theorem mem_tokens : (index, token) ∈ document.tokens ↔
    index ∈ document.members ∧ document.pool.token? index = some token := by
  simp only [tokens, List.mem_filterMap, Option.map_eq_some_iff, Prod.mk.injEq]
  constructor
  · rintro ⟨place, inside, found, known, rfl, rfl⟩
    exact ⟨inside, known⟩
  · rintro ⟨inside, known⟩
    exact ⟨index, inside, token, known, rfl, rfl⟩

namespace Inserts

theorem token? (inserts : document.Inserts other comment) (inside : index ∈ document.members) :
    other.pool.token? index = document.pool.token? index := by
  rcases inserts.pool with same | ⟨within, _, bound⟩
  · rw [same]
  · exact within.token? (bound index inside)

theorem tokens (inserts : document.Inserts other comment) :
    ∃ before after index, document.tokens = before ++ after ∧
      other.tokens = before ++ (index, comment) :: after := by
  obtain ⟨before, after, index, split, longer, here⟩ := inserts.members
  have same : document.tokens =
      document.members.filterMap fun index => (other.pool.token? index).map (index, ·) := by
    apply List.filterMap_congr
    intro index inside
    rw [inserts.token? inside]
  rw [split, List.filterMap_append] at same
  refine ⟨_, _, index, same, ?_⟩
  simp [Document.tokens, longer, here]

theorem scanStatement (inserts : document.Inserts other comment)
    (inside : index ∈ document.members) (table : LineTable NameSet) :
    QueryLint.scanStatement other.pool ⟨some table⟩ index =
      QueryLint.scanStatement document.pool ⟨some table⟩ index := by
  rcases inserts.pool with same | ⟨within, enclosed, bound⟩
  · rw [same]
  · exact within.scanStatement enclosed (bound index inside)

theorem comments (inserts : document.Inserts other comment) (kind : comment.kind = .comment) :
    ∃ before after, document.comments = before ++ after ∧
      other.comments = before ++ comment :: after := by
  obtain ⟨before, after, index, split, longer⟩ := inserts.tokens
  rw [comments_eq, comments_eq, split, longer]
  exact ⟨_, _, by rw [List.map_append, List.filter_append], by simp [kind]⟩

/-- The comment adds no safe variables. -/
theorem settled_safe (inserts : document.Inserts other comment) (kind : comment.kind = .comment)
    (silencing : Silence.Silences comment.content) :
    ∃ table, document.settled.safe = ⟨some table⟩ ∧ other.settled.safe = ⟨some table⟩ := by
  obtain ⟨before, after, split, longer⟩ := inserts.comments kind
  have passed : ∀ table, addNames table comment = table := by
    intro table
    simp only [addNames, Silence.names?_of_silences silencing]
  have same : annotationTable other.comments = annotationTable document.comments := by
    rw [split, longer, annotationTable, annotationTable, List.foldl_append, List.foldl_append,
      List.foldl_cons, passed]
  cases safe : document.safe with
  | mk known =>
    have safe' := inserts.safe.trans safe
    cases known with
    | some table => exact ⟨table, settled_safe_of_built safe, settled_safe_of_built safe'⟩
    | none =>
      refine ⟨ annotationTable document.comments, settled_safe_of_unbuilt safe, ?_⟩
      rw [settled_safe_of_unbuilt safe', same]

/-- What is silenced is what was silenced before and what the comment silences. -/
theorem covers_silences (inserts : document.Inserts other comment) (kind : comment.kind = .comment)
    (line : Int) (rule : String) :
    (other.silences.get? line).any (·.covers rule) ↔
      (document.silences.get? line).any (·.covers rule) ∨
      line = comment.line ∧ (Silence.ofComment? comment.content).any (·.covers rule) := by
  obtain ⟨before, after, split, longer⟩ := inserts.comments kind
  have speaks : (Silence.ofComment? comment.content).any (·.covers rule) ↔
      Silence.Bare comment.content ∨ Silence.Lists comment.content rule := by
    rw [← Silence.covers_ofComment?, Option.any_eq_true]
  rw [Document.covers_silences, Document.covers_silences, speaks, Says, Says, split, longer]
  simp only [List.mem_append, List.mem_cons]
  constructor
  · rintro ⟨remark, early | rfl | late, here, named⟩
    · exact .inl ⟨remark, .inl early, here, named⟩
    · exact .inr ⟨here.symm, named⟩
    · exact .inl ⟨remark, .inr late, here, named⟩
  · rintro (⟨remark, early | late, here, named⟩ | ⟨rfl, named⟩)
    · exact ⟨remark, .inl early, here, named⟩
    · exact ⟨remark, .inr (.inr late), here, named⟩
    · exact ⟨comment, .inr (.inl rfl), rfl, named⟩

end Inserts

end Document

section Pairs

variable {self : RuleInstance} {document other : Document} {index : Nat} {comment token : Token}
  {made : Finding}

namespace RuleInstance

/-- A finding tells nothing of the document but its path and source. -/
theorem finding_congr (path : other.path = document.path) (source : other.source = document.source)
    (violation : Violation) :
    self.finding other index token violation = self.finding document index token violation := by
  have snippet : other.snippet? token.line snippetContext =
      document.snippet? token.line snippetContext := by
    simp only [Document.snippet?, Document.lines, source]
  simp only [finding, path, snippet]

theorem finding_start {violation : Violation}
    (reports : self.finding document index token violation = .ok made) :
    made.location.startLine = token.line ∧ made.suppressionReason = none := by
  simp only [finding, bind, Except.bind] at reports
  split at reports
  · contradiction
  · injection reports with reports
    rw [← reports]
    exact ⟨rfl, rfl⟩

theorem judge_congr (injection : self.rule = .injection) (path : other.path = document.path)
    (source : other.source = document.source)
    (scans : scanStatement other.pool other.settled.safe index =
      scanStatement document.pool document.settled.safe index) :
    (self.judge other index token).finding = (self.judge document index token).finding := by
  have reads : self.rule.readsAnnotations = true := by rw [injection]; rfl
  have judges : self.rule.judge other.settled index token =
      self.rule.judge document.settled index token := by
    rw [injection]
    show Rule.injectionVerdict other.path token _ = Rule.injectionVerdict document.path token _
    rw [path]
    exact congrArg _ scans
  have reports : ∀ violation, self.finding other.settled index token violation =
      self.finding document.settled index token violation :=
    fun violation => finding_congr path source violation
  simp only [judge, reads, if_true, Document.readAnnotations_fst, judges, reports]

theorem applies_injection (injection : self.rule = .injection) :
    ∃ applies, self.rule.applies token = .ok applies := by
  rw [injection]
  exact ⟨_, rfl⟩

end RuleInstance

/-- A mark that is there already is the same mark. -/
theorem Finding.silencedBy_suppress (comment : Token) (finding : Finding) :
    (finding.suppress QueryLint.suppressionReason).silencedBy comment =
      finding.suppress QueryLint.suppressionReason := by
  unfold silencedBy
  split
  · rfl
  · rfl

theorem Contribution.findings_silencedBy (threshold : Severity) (comment : Token)
    (given : Contribution) :
    (given.silencedBy comment).findings threshold =
      (given.findings threshold).map (Finding.silencedBy comment) := by
  cases given with
  | nothing => rfl
  | error message => rfl
  | finding found =>
    have severity : (found.silencedBy comment).severity = found.severity := by
      unfold Finding.silencedBy
      split <;> rfl
    simp only [silencedBy, findings, severity]
    split <;> rfl

theorem Contribution.errors_silencedBy (comment : Token) (given : Contribution) :
    (given.silencedBy comment).errors = given.errors := by
  cases given <;> rfl

section Tally

variable {threshold : Severity} {before after idle : List (Except Fault Contribution)}

theorem tally_nothing (later : List (Except Fault Contribution)) :
    tally threshold (.ok .nothing :: later) = tally threshold later := by
  rw [tally]
  cases tally threshold later with
  | mk result errors => cases result <;> rfl

theorem tally_insert (nothing : ∀ given ∈ idle, given = .ok .nothing) :
    tally threshold (before ++ (idle ++ after)) = tally threshold (before ++ after) := by
  induction before with
  | nil =>
    induction idle with
    | nil => rfl
    | cons given idle ih =>
      obtain ⟨rfl, others⟩ := List.forall_mem_cons.mp nothing
      exact (tally_nothing _).trans (ih others)
  | cons given before ih =>
    cases given with
    | error fault => rfl
    | ok made => simp only [List.cons_append, tally, ih]

/-- Marks change the findings of a scan one by one, and nothing else. -/
theorem tally_silencedBy (comment : Token) (given : List (Except Fault Contribution)) :
    tally threshold (given.map (Except.map (Contribution.silencedBy comment))) =
      ((tally threshold given).1.map (List.map (Finding.silencedBy comment)),
        (tally threshold given).2) := by
  induction given with
  | nil => rfl
  | cons first given ih =>
    cases first with
    | error fault => rfl
    | ok made =>
      simp only [List.map_cons, Except.map, tally, ih, made.errors_silencedBy,
        made.findings_silencedBy]
      cases (tally threshold given).1 with
      | error fault => rfl
      | ok later => simp

end Tally

namespace Document.Inserts

theorem mark (inserts : document.Inserts other comment) (kind : comment.kind = .comment)
    (starts : made.location.startLine = token.line) :
    other.silences.mark token.line made =
      (document.silences.mark token.line made).silencedBy comment := by
  have covers := inserts.covers_silences kind token.line made.ruleId
  by_cases before : (document.silences.get? token.line).any (·.covers made.ruleId)
  · rw [LineTable.mark, LineTable.mark, if_pos before, if_pos (covers.mpr (.inl before)),
      Finding.silencedBy_suppress]
  · rw [LineTable.mark, LineTable.mark, if_neg before, Finding.silencedBy, starts]
    by_cases now : token.line = comment.line ∧
        (Silence.ofComment? comment.content).any (·.covers made.ruleId)
    · rw [if_pos now, if_pos (covers.mpr (.inr now))]
    · rw [if_neg now, if_neg fun after => (covers.mp after).elim before now]

/-- A pair gives what it gave before, but for the mark of its finding, or it ends the scan as it
did before. -/
theorem alone (inserts : document.Inserts other comment) (kind : comment.kind = .comment)
    (silencing : Silence.Silences comment.content) (injection : self.rule = .injection)
    (inside : (index, token) ∈ document.tokens) :
    other.alone ((index, token), self) =
      (document.alone ((index, token), self)).map (Contribution.silencedBy comment) := by
  obtain ⟨table, safe, safe'⟩ := inserts.settled_safe kind silencing
  have scans := inserts.scanStatement (mem_tokens.mp inside).1 table
  rw [← safe] at scans
  have judged := @RuleInstance.judge_congr self document other index token injection inserts.path
    inserts.source (by rw [safe', ← safe]; exact scans)
  rcases contributes_or_ends document index token self with ⟨made, gives⟩ | ⟨fault, ends⟩
  · rw [alone_of_contributes gives]
    apply alone_of_contributes
    cases gives with
    | passed passes => exact .passed passes
    | accepted applies accepts => exact .accepted applies (judged.trans accepts)
    | failed applies fails short =>
      have failure := Contributes.failed applies (judged.trans fails) short
      rwa [inserts.path] at failure
    | reported applies reports =>
      obtain ⟨_, _, made⟩ := RuleInstance.exists_violation reports
      have report := Contributes.reported applies (judged.trans reports)
      rwa [inserts.mark kind (RuleInstance.finding_start made).1] at report
  · rw [alone_of_ends ends]
    apply alone_of_ends
    cases ends with
    | undecided undecided => exact .undecided undecided
    | unnamed applies fails long => exact .unnamed applies (judged.trans fails) long

theorem alone_comment (injection : self.rule = .injection) (kind : comment.kind = .comment) :
    other.alone ((index, comment), self) = .ok .nothing := by
  apply alone_passed
  simp [injection, Rule.injection, RuleMetadata.admits, Rule.injectionMetadata, kind,
    TokenKind.literals]

/-- What the pairs give adds up as before, since the comment itself gives nothing. -/
theorem tally_pairs {rules : List RuleInstance} (threshold : Severity)
    (inserts : document.Inserts other comment) (kind : comment.kind = .comment)
    (silencing : Silence.Silences comment.content)
    (running : ∀ self ∈ rules, self.rule = .injection) :
    tally threshold ((other.pairs rules).map other.alone) =
      ((tally threshold ((document.pairs rules).map document.alone)).1.map
          (List.map (Finding.silencedBy comment)),
        (tally threshold ((document.pairs rules).map document.alone)).2) := by
  have each : (document.pairs rules).map other.alone = ((document.pairs rules).map
      document.alone).map (Except.map (Contribution.silencedBy comment)) := by
    rw [List.map_map]
    refine List.map_congr_left ?_
    rintro ⟨⟨index, token⟩, self⟩ paired
    obtain ⟨inside, selected⟩ : (index, token) ∈ document.tokens ∧ self ∈ rules := by
      simpa [Document.pairs] using paired
    exact inserts.alone kind silencing (running self selected) inside
  rw [← tally_silencedBy, ← each]
  obtain ⟨before, after, index, split, longer⟩ := inserts.tokens
  have idle : ∀ given ∈ (rules.map ((index, comment), ·)).map other.alone,
      given = .ok .nothing := by
    intro given member
    rw [List.map_map] at member
    obtain ⟨self, selected, rfl⟩ := List.mem_map.mp member
    exact alone_comment (running self selected) kind
  rw [pairs, pairs, split, longer]
  simp only [List.flatMap_append, List.flatMap_cons, List.map_append]
  exact tally_insert idle

end Document.Inserts

/-- A finding of a scan is left as it is, or it is marked for the first time. -/
theorem silencedBy_cases {threshold : Severity} {finding : Finding} (comment : Token)
    {contribution : Contribution}
    (given : document.alone ((index, token), self) = .ok contribution)
    (found : finding ∈ contribution.findings threshold) :
    finding.silencedBy comment = finding ∨
      finding.suppressed = false ∧ finding.suppressionReason = none ∧
      finding.location.startLine = comment.line ∧
      finding.silencedBy comment = finding.suppress suppressionReason := by
  obtain ⟨made, judged, rfl⟩ := exists_made given found
  obtain ⟨_, _, unmarked⟩ := RuleInstance.judge_made judged
  obtain ⟨_, _, reports⟩ := RuleInstance.exists_violation judged
  rw [LineTable.mark]
  split
  · exact .inl (made.silencedBy_suppress comment)
  · rw [Finding.silencedBy]
    split
    · rename_i here
      exact .inr ⟨unmarked, (RuleInstance.finding_start reports).2, here.1, rfl⟩
    · exact .inl rfl

end Pairs

namespace Session

def replace (session : Session) (number : Nat) (document : Document) : Session :=
  { session with documents := session.documents.setIfInBounds number document }

variable {session later : Session} {number : Nat} {rules : List RuleInstance}
  {document other : Document} {comment : Token}

theorem rules_replace [Nesting] (selected : session.rules = .ok (rules, later)) :
    ∃ later, (session.replace number other).rules = .ok (rules, later) := by
  simp only [Session.rules, replace, bind, Except.bind] at selected ⊢
  cases listed : session.engine.rules session.registry with
  | error fault => simp [listed] at selected
  | ok found =>
    simp only [listed, pure, Except.pure, Except.ok.injEq, Prod.mk.injEq] at selected ⊢
    exact ⟨_, selected.1, rfl⟩

theorem document_replace (present : session.documents[number]? = some document) :
    (session.replace number other).documents[number]? = some other := by
  obtain ⟨bound, _⟩ := Array.getElem?_eq_some_iff.mp present
  simp [replace, bound]

theorem scan_tally [Nesting] (present : session.documents[number]? = some document)
    (selected : session.rules = .ok (rules, later)) :
    (session.scan number).1 =
      (tally session.engine.threshold ((document.pairs rules).map document.alone)).1 ∧
    (session.scan number).2.2.engine.errors = session.engine.errors ++
      (tally session.engine.threshold ((document.pairs rules).map document.alone)).2 := by
  obtain ⟨result, errors⟩ := @scan_eq_scanWith session rules number document _ later present selected
  obtain ⟨result', errors'⟩ := session.scanWith_tally rules number document
  exact ⟨result.trans result', errors.trans errors'⟩

/-- A comment that silences rules is never an annotation. Put into a document, it leaves errors and
findings as they are, in their order, but for marks: a finding on its line that was not marked is
marked if the comment covers its rule. A scan that ends early, at a line too long to be named, does
so with the comment too. -/
theorem scan_inserts [Nesting] (present : session.documents[number]? = some document)
    (selected : session.rules = .ok (rules, later)) (running : ∀ self ∈ rules, self.rule = .injection)
    (inserts : document.Inserts other comment) (kind : comment.kind = .comment)
    (silencing : Silence.Silences comment.content) :
    (∀ text, Silence.Silences text → Annotation.names? text = none) ∧
    (∃ errors, (session.scan number).2.2.engine.errors = session.engine.errors ++ errors ∧
      ((session.replace number other).scan number).2.2.engine.errors =
        session.engine.errors ++ errors) ∧
    ((session.replace number other).scan number).1 =
      (session.scan number).1.map (List.map (Finding.silencedBy comment)) ∧
    (∀ findings, (session.scan number).1 = .ok findings →
      ∀ finding ∈ findings, finding.silencedBy comment = finding ∨
        finding.suppressed = false ∧ finding.suppressionReason = none ∧
        finding.location.startLine = comment.line ∧
        finding.silencedBy comment = finding.suppress suppressionReason) ∧
    ∀ fault, (session.scan number).1 = .error fault → fault = .unshowable digitLimit ∧
      ∃ index token, (index, token) ∈ document.tokens ∧
        Nat.pow 10 digitLimit ≤ token.line.natAbs := by
  obtain ⟨found, added⟩ := scan_tally present selected
  obtain ⟨_, selected'⟩ := @rules_replace session later number rules other _ selected
  obtain ⟨found', added'⟩ :=
    scan_tally (@document_replace session number document other present) selected'
  have sum := inserts.tally_pairs session.engine.threshold kind silencing running
  refine ⟨fun text => Silence.names?_of_silences, ⟨_, added, ?_⟩, ?_, ?_, ?_⟩
  · have errors := congrArg Prod.snd sum
    exact added'.trans (congrArg (session.engine.errors ++ ·) errors)
  · rw [found]
    exact found'.trans (congrArg Prod.fst sum)
  · intro findings ends finding inside
    rw [found] at ends
    rcases gives_or_ends document (document.pairs rules) with
      ⟨made, gives⟩ | ⟨before, pair, after, made, fault, split, gives, stops⟩
    · rw [tally_of_gives gives] at ends
      obtain rfl := Except.ok.inj ends
      obtain ⟨contribution, member, here⟩ := List.mem_flatMap.mp inside
      obtain ⟨⟨⟨index, token⟩, self⟩, given⟩ := exists_of_gives gives member
      exact silencedBy_cases comment given here
    · rw [split, tally_of_ends gives stops] at ends
      contradiction
  · intro fault ends
    rw [found] at ends
    rcases gives_or_ends document (document.pairs rules) with
      ⟨made, gives⟩ | ⟨before, ⟨⟨index, token⟩, self⟩, after, made, other, split, gives, stops⟩
    · rw [tally_of_gives gives] at ends
      contradiction
    · rw [split, tally_of_ends gives stops] at ends
      obtain rfl := Except.error.inj ends
      have paired : ((index, token), self) ∈ document.pairs rules := by simp [split]
      obtain ⟨inside, chosen⟩ : (index, token) ∈ document.tokens ∧ self ∈ rules := by
        simpa [Document.pairs] using paired
      cases alone_eq_error_iff.mp stops with
      | undecided undecided =>
        obtain ⟨applies, answer⟩ := RuleInstance.applies_injection (running self chosen)
        rw [answer] at undecided
        contradiction
      | unnamed _ _ long => exact ⟨rfl, index, token, inside, long⟩

end Session

/-- The document with a new token at a place, linked to whatever token. -/
def Document.insertAt (document : Document) (place : Nat) (node : Node) : Document :=
  { document with
    pool := document.pool.push node
    members := document.members.take place ++ document.pool.size :: document.members.drop place }

theorem Document.inserts_insertAt {document : Document} {place : Nat} {node : Node}
    (enclosed : document.pool.Enclosed)
    (bound : ∀ index ∈ document.members, index < document.pool.size) :
    document.Inserts (document.insertAt place node) node.token := by
  refine ⟨⟨_, _, document.pool.size, (List.take_append_drop place _).symm, rfl, ?_⟩,
    .inr ⟨?_, enclosed, bound⟩, rfl, rfl, rfl⟩
  · simp [insertAt, Pool.token?]
  · intro index old found
    obtain ⟨inside, _⟩ := Array.getElem?_eq_some_iff.mp found
    have here : (document.pool.push node)[index]? = document.pool[index]? :=
      Array.getElem?_push_lt inside ▸ (Array.getElem?_eq_getElem inside).symm
    exact here.trans found

/-- Two queries on two lines, the first one silenced for a rule of another name. -/
def remarkedSession : Session where
  engine := {}
  documents := #[{
    pool := #[
      { token := { kind := .literalDouble, content := "SELECT $a", line := 1 }, next := some 1 },
      { token := { kind := .terminator, content := ";", line := 1 } },
      { token := { kind := .comment, content := "## no critic (Other)", line := 1 } },
      { token := { kind := .literalDouble, content := "DELETE $b", line := 2 } }]
    members := [0, 1, 2, 3] }]

def remark : Token := { kind := .comment, content := " ##No Critic", line := 1 }

theorem remark_silences : Silence.Silences remark.content := by
  apply Classical.byContradiction
  intro other
  have silent := Silence.ofComment?_eq_none.mpr other
  revert silent
  decide

/-- The comment stands behind both queries, and its own link leads back to the first one. -/
theorem remarkedSession_scan :
    let document := remarkedSession.documents[0]
    let other := document.insertAt 4 { token := remark, next := some 0 }
    ∃ findings, (remarkedSession.scan 0).1 = .ok findings ∧
      findings.map (fun finding => (finding.location.startLine, finding.suppressed)) =
        [(1, false), (2, false)] ∧
      ((remarkedSession.replace 0 other).scan 0).1 =
        .ok (findings.map (Finding.silencedBy remark)) ∧
      (findings.map (Finding.silencedBy remark)).map
        (fun finding => (finding.location.startLine, finding.suppressed)) =
          [(1, true), (2, false)] := by
  intro document other
  have present : remarkedSession.documents[0]? = some document := rfl
  obtain ⟨later, selects⟩ : ∃ later, remarkedSession.rules =
      .ok ([⟨0, .injection, .object []⟩], later) := ⟨_, rfl⟩
  have enclosed : document.pool.Enclosed := by
    intro index next link
    match index with
    | 0 => exact Option.some.inj link ▸ by decide
    | 1 | 2 | 3 => contradiction
    | index + 4 => simp [document, remarkedSession, Pool.next?] at link
  have bound : ∀ index ∈ document.members, index < document.pool.size := by decide
  have inserts := @Document.inserts_insertAt document 4 { token := remark, next := some 0 }
    enclosed bound
  obtain ⟨_, _, marked, _, _⟩ :=
    Session.scan_inserts present selects (by simp) inserts rfl remark_silences
  have before : (remarkedSession.scan 0).1.toOption.map (List.map fun finding =>
      (finding.location.startLine, finding.suppressed)) = some [(1, false), (2, false)] := by
    decide +kernel
  have after : ((remarkedSession.replace 0 other).scan 0).1.toOption.map (List.map fun finding =>
      (finding.location.startLine, finding.suppressed)) = some [(1, true), (2, false)] := by
    decide +kernel
  cases found : (remarkedSession.scan 0).1 with
  | error fault =>
    rw [found] at before
    contradiction
  | ok findings =>
    rw [found] at before marked
    rw [marked] at after
    exact ⟨findings, rfl, Option.some.inj before, marked, Option.some.inj after⟩

end QueryLint
