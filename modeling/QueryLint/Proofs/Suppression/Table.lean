import QueryLint.Proofs.Engine.Contribution
import QueryLint.Proofs.SafeVariables
import QueryLint.Proofs.Suppression.Comment

/-! What the comments of a document silence on a line, in whatever order they stand: everything if
one of them is bare, otherwise what any of them lists. Findings are marked accordingly. -/
namespace QueryLint

namespace LineTable

variable {α : Type} {table other : LineTable α} {first : Int × α} {line : Int}

theorem get?_nil : get? ([] : LineTable α) line = none := rfl

theorem head_le (sorted : Sorted (first :: table)) (found : get? (first :: table) line ≠ none) :
    first.1 ≤ line := by
  refine Int.not_lt.mp fun below => found (get?_eq_none fun entry member => ?_)
  rcases List.mem_cons.mp member with rfl | behind
  · exact below
  · exact Int.lt_trans below ((List.pairwise_cons.mp sorted).1 entry behind)

/-- Tables in order are told apart by what they hold on each line. -/
theorem ext (sorted : table.Sorted) (sorted' : other.Sorted)
    (same : ∀ line, table.get? line = other.get? line) : table = other := by
  induction table generalizing other with
  | nil =>
    cases other with
    | nil => rfl
    | cons second other => simpa [get?_cons, get?_nil] using same second.1
  | cons first table ih =>
    cases other with
    | nil => simpa [get?_cons, get?_nil] using same first.1
    | cons second other =>
      obtain ⟨above, rest⟩ := List.pairwise_cons.mp sorted
      obtain ⟨above', rest'⟩ := List.pairwise_cons.mp sorted'
      have lines : first.1 = second.1 := by
        apply Int.le_antisymm
        · exact head_le sorted (by simp [same, get?_cons])
        · exact head_le sorted' (by simp [← same, get?_cons])
      have entries : first.2 = second.2 := by
        simpa [get?_cons, lines] using same first.1
      have tails : table = other := by
        refine ih rest rest' fun line => ?_
        by_cases here : line = first.1
        · rw [get?_eq_none (fun entry member => here ▸ above entry member),
            get?_eq_none (fun entry member => here ▸ lines ▸ above' entry member)]
        · simpa [get?_cons, ← lines, here] using same line
      rw [Prod.ext lines entries, tails]

end LineTable

namespace Silence

/-- What is silenced on a line once one more comment is read. -/
def joinTo (known : Option Silence) (silence : Silence) : Option Silence :=
  some (known.elim silence (·.join silence))

/-- What the comments of a line silence, one after another. -/
def spoken (comments : List Token) (line : Int) : List Silence :=
  (comments.filter (·.line = line)).filterMap fun comment => ofComment? comment.content

variable {known : Option Silence} {silences : List Silence} {silence : Silence} {rule : String}
  {comments : List Token} {line : Int}

theorem mem_spoken : silence ∈ spoken comments line ↔
    ∃ comment ∈ comments, comment.line = line ∧ ofComment? comment.content = some silence := by
  simp [spoken, List.mem_filterMap, and_assoc]

theorem covers_join (first second : Silence) :
    (first.join second).covers rule ↔ first.covers rule ∨ second.covers rule := by
  cases first <;> cases second <;> simp [join, covers]

theorem join_eq_all (first second : Silence) :
    first.join second = all ↔ first = all ∨ second = all := by
  cases first <;> cases second <;> simp [join]

theorem covers_joinTo : (joinTo known silence).any (·.covers rule) ↔
    known.any (·.covers rule) ∨ silence.covers rule := by
  cases known with
  | none => simp [joinTo]
  | some first => simpa [joinTo] using covers_join first silence

theorem joinTo_eq_all : joinTo known silence = some all ↔ known = some all ∨ silence = all := by
  cases known with
  | none => simp [joinTo]
  | some first => simpa [joinTo] using join_eq_all first silence

theorem foldl_joinTo_eq_none :
    silences.foldl joinTo known = none ↔ known = none ∧ silences = [] := by
  induction silences generalizing known with
  | nil => simp
  | cons silence silences ih => simp [ih, joinTo]

/-- One bare comment silences everything, before and after any others. -/
theorem foldl_joinTo_eq_all :
    silences.foldl joinTo known = some all ↔ known = some all ∨ all ∈ silences := by
  induction silences generalizing known with
  | nil => simp
  | cons silence silences ih =>
    rw [List.foldl_cons, ih, joinTo_eq_all, or_assoc, List.mem_cons, eq_comm (a := silence)]

theorem covers_foldl_joinTo : (silences.foldl joinTo known).any (·.covers rule) ↔
    known.any (·.covers rule) ∨ ∃ silence ∈ silences, silence.covers rule := by
  induction silences generalizing known with
  | nil => simp
  | cons silence silences ih =>
    rw [List.foldl_cons, ih, covers_joinTo, or_assoc]
    simp

end Silence

section Table

variable {table : LineTable Silence} {comment : Token} {comments : List Token} {line : Int}

theorem addSilence_sorted (sorted : table.Sorted) : (addSilence table comment).Sorted := by
  unfold addSilence
  split
  · exact sorted
  · exact LineTable.sorted_modify sorted

theorem foldl_addSilence_sorted (sorted : table.Sorted) :
    (comments.foldl addSilence table).Sorted := by
  induction comments generalizing table with
  | nil => exact sorted
  | cons comment comments ih => exact ih (addSilence_sorted sorted)

/-- Each line is left with what its own comments silence. -/
theorem get?_foldl_addSilence (sorted : table.Sorted) :
    (comments.foldl addSilence table).get? line =
      (Silence.spoken comments line).foldl Silence.joinTo (table.get? line) := by
  induction comments generalizing table with
  | nil => rfl
  | cons comment comments ih =>
    rw [List.foldl_cons, ih (addSilence_sorted sorted)]
    cases found : Silence.ofComment? comment.content with
    | none =>
      have same : Silence.spoken (comment :: comments) line = Silence.spoken comments line := by
        by_cases here : comment.line = line <;> simp [Silence.spoken, here, found]
      simp only [addSilence, found, same]
    | some silence =>
      simp only [addSilence, found, LineTable.get?_modify sorted]
      by_cases here : comment.line = line
      · subst here
        simp [Silence.spoken, found, Silence.joinTo]
      · simp [Silence.spoken, here, Ne.symm here]

end Table

namespace Document

/-- Some comment on the line is of the given kind. -/
def Says (document : Document) (line : Int) (kind : String → Prop) : Prop :=
  ∃ comment ∈ document.comments, comment.line = line ∧ kind comment.content

variable {document other : Document} {line : Int} {rule : String}

theorem silences_sorted (document : Document) : document.silences.Sorted :=
  foldl_addSilence_sorted .nil

theorem get?_silences : document.silences.get? line =
    (Silence.spoken document.comments line).foldl Silence.joinTo none :=
  get?_foldl_addSilence .nil

theorem get?_silences_eq_none :
    document.silences.get? line = none ↔ ¬ document.Says line Silence.Silences := by
  rw [get?_silences, Silence.foldl_joinTo_eq_none, List.eq_nil_iff_forall_not_mem]
  simp only [true_and, Silence.mem_spoken]
  constructor
  · rintro none ⟨comment, member, here, silencing⟩
    cases found : Silence.ofComment? comment.content with
    | none => exact Silence.ofComment?_eq_none.mp found silencing
    | some silence => exact none silence ⟨comment, member, here, found⟩
  · rintro none silence ⟨comment, member, here, found⟩
    refine none ⟨comment, member, here, ?_⟩
    obtain ⟨tail, opens, _⟩ := Silence.exists_opens found
    exact ⟨tail, opens⟩

theorem get?_silences_eq_all :
    document.silences.get? line = some .all ↔ document.Says line Silence.Bare := by
  simp [get?_silences, Silence.foldl_joinTo_eq_all, Silence.mem_spoken, Silence.ofComment?_eq_all,
    Says]

theorem covers_silences : (document.silences.get? line).any (·.covers rule) ↔
    document.Says line fun comment => Silence.Bare comment ∨ Silence.Lists comment rule := by
  rw [get?_silences, Silence.covers_foldl_joinTo]
  simp only [Option.any_none, Bool.false_eq_true, false_or, Silence.mem_spoken]
  constructor
  · rintro ⟨silence, ⟨comment, member, here, found⟩, covers⟩
    exact ⟨comment, member, here, Silence.covers_ofComment?.mp ⟨silence, found, covers⟩⟩
  · rintro ⟨comment, member, here, named⟩
    obtain ⟨silence, found, covers⟩ := Silence.covers_ofComment?.mpr named
    exact ⟨silence, ⟨comment, member, here, found⟩, covers⟩

theorem get?_silences_eq_only {rules : NameSet} :
    document.silences.get? line = some (.only rules) ↔
      ¬ document.Says line Silence.Bare ∧ document.Says line Silence.Silences ∧
      ∀ rule, rule ∈ rules ↔ document.Says line fun comment => Silence.Lists comment rule := by
  have absent := @get?_silences_eq_none document line
  have bare := @get?_silences_eq_all document line
  have named : ∀ others, document.silences.get? line = some (.only others) →
      ∀ rule, rule ∈ others ↔ document.Says line fun comment => Silence.Lists comment rule := by
    intro others found rule
    have covers := @covers_silences document line rule
    simp only [found, Option.any_some, Silence.covers, decide_eq_true_eq] at covers
    rw [covers]
    constructor
    · rintro ⟨comment, member, here, whole | listed⟩
      · simp [bare.mpr ⟨comment, member, here, whole⟩] at found
      · exact ⟨comment, member, here, listed⟩
    · rintro ⟨comment, member, here, listed⟩
      exact ⟨comment, member, here, .inr listed⟩
  constructor
  · intro found
    simp only [found, reduceCtorEq, Option.some.injEq, false_iff, Classical.not_not] at absent bare
    exact ⟨bare, absent, named rules found⟩
  · rintro ⟨partly, silenced, rules_iff⟩
    cases found : document.silences.get? line with
    | none => exact absurd silenced (absent.mp found)
    | some silence =>
      cases silence with
      | all => exact absurd (bare.mp found) partly
      | only others =>
        have same : others = rules := NameSet.ext fun rule => by
          rw [named others found, rules_iff]
        rw [same]

theorem comments_eq (document : Document) :
    document.comments = (document.tokens.map Prod.snd).filter (·.kind = .comment) := by
  simp [comments, find, List.filter_map, Function.comp_def]

theorem says_of_perm (perm : (other.tokens.map Prod.snd).Perm (document.tokens.map Prod.snd))
    {kind : String → Prop} : other.Says line kind ↔ document.Says line kind := by
  simp only [Says, comments_eq, (perm.filter _).mem_iff]

/-- The order of the tokens does not matter. -/
theorem silences_of_perm (perm : (other.tokens.map Prod.snd).Perm (document.tokens.map Prod.snd)) :
    other.silences = document.silences := by
  refine LineTable.ext other.silences_sorted document.silences_sorted fun line => ?_
  cases found : document.silences.get? line with
  | none => rwa [get?_silences_eq_none, says_of_perm perm, ← get?_silences_eq_none]
  | some silence =>
    cases silence with
    | all => rwa [get?_silences_eq_all, says_of_perm perm, ← get?_silences_eq_all]
    | only rules =>
      rw [get?_silences_eq_only] at found ⊢
      simpa only [says_of_perm perm] using found

end Document

section Findings

variable {threshold : Severity} {rules : List RuleInstance} {document : Document} {index : Nat}
  {token : Token} {self : RuleInstance} {finding made : Finding}

theorem RuleInstance.finding_made {violation : Violation}
    (reports : self.finding document index token violation = .ok made) :
    made.anchor = some index ∧ made.ruleId = self.id ∧ made.suppressed = false := by
  simp only [finding, bind, Except.bind] at reports
  split at reports
  · contradiction
  · injection reports with reports
    rw [← reports]
    exact ⟨rfl, rfl, rfl⟩

/-- What a rule reports is made from a violation. -/
theorem RuleInstance.exists_violation
    (judged : (self.judge document index token).finding = .ok (some made)) :
    ∃ origin violation, self.finding origin index token violation = .ok made := by
  simp only [judge, bind, Except.bind] at judged
  split at judged
  · contradiction
  · split at judged
    · cases judged
    · split at judged
      · contradiction
      · rename_i reports
        injection judged with judged
        injection judged with judged
        subst judged
        exact ⟨_, _, reports⟩

/-- A rule anchors its finding at the token, and leaves it unmarked. -/
theorem RuleInstance.judge_made
    (judged : (self.judge document index token).finding = .ok (some made)) :
    made.anchor = some index ∧ made.ruleId = self.id ∧ made.suppressed = false := by
  obtain ⟨origin, violation, reports⟩ := exists_violation judged
  exact finding_made reports

/-- Marking a finding changes nothing else about it. -/
theorem LineTable.mark_made (silences : LineTable Silence) (line : Int)
    (unmarked : made.suppressed = false) :
    (silences.mark line made).anchor = made.anchor ∧
    (silences.mark line made).ruleId = made.ruleId ∧
    (silences.mark line made).suppressed = (silences.get? line).any (·.covers made.ruleId) := by
  unfold mark
  split
  · rename_i covers
    exact ⟨rfl, rfl, covers.symm⟩
  · rename_i covers
    exact ⟨rfl, rfl, unmarked.trans (Bool.eq_false_iff.mpr covers).symm⟩

/-- The finding that a pair gives is what its rule reports, marked as its line demands. -/
theorem exists_made {contribution : Contribution}
    (given : document.alone ((index, token), self) = .ok contribution)
    (found : finding ∈ contribution.findings threshold) :
    ∃ made, (self.judge document index token).finding = .ok (some made) ∧
      finding = document.silences.mark token.line made := by
  cases alone_eq_ok_iff.mp given with
  | reported _ judged =>
    refine ⟨_, judged, ?_⟩
    simp only [Contribution.findings] at found
    split at found
    · exact List.mem_singleton.mp found
    · contradiction
  | _ => simp [Contribution.findings] at found

/-- A finding of a scan is one that a rule reports at a token, marked as its line demands. -/
theorem exists_reported (found : finding ∈ (scanDocument threshold rules document).findings) :
    ∃ index token, (index, token) ∈ document.tokens ∧ ∃ self ∈ rules, ∃ made,
      (self.judge document index token).finding = .ok (some made) ∧
      finding = document.silences.mark token.line made := by
  obtain ⟨_, scanned⟩ := scanDocument_scanPairs threshold rules document
  rw [scanned] at found
  obtain ⟨⟨⟨index, token⟩, self⟩, paired, _, given, inside⟩ := mem_scanPairs_findings rfl found
  obtain ⟨present, selected⟩ : (index, token) ∈ document.tokens ∧ self ∈ rules := by
    simpa [Document.pairs] using paired
  exact ⟨index, token, present, self, selected, exists_made given inside⟩

/-- A finding is marked exactly if a comment on the line of its token covers its rule. -/
theorem suppressed_iff (found : finding ∈ (scanDocument threshold rules document).findings) :
    ∃ index token, (index, token) ∈ document.tokens ∧ ∃ self ∈ rules,
      finding.anchor = some index ∧ finding.ruleId = self.id ∧
      (finding.suppressed ↔ document.Says token.line fun comment =>
        Silence.Bare comment ∨ Silence.Lists comment finding.ruleId) := by
  obtain ⟨index, token, present, self, selected, made, judged, rfl⟩ := exists_reported found
  obtain ⟨anchor, id, unmarked⟩ := RuleInstance.judge_made judged
  obtain ⟨anchor_eq, id_eq, marked⟩ := document.silences.mark_made token.line unmarked
  refine ⟨index, token, present, self, selected, anchor_eq.trans anchor, id_eq.trans id, ?_⟩
  rw [marked, id_eq, Document.covers_silences]

end Findings

/-- What comments silence, whatever order they come in: on a line with a bare one every rule, on a
line with others the rules that they list, elsewhere none. Findings are marked by that. -/
theorem silences_meaning (document : Document) :
    (∀ line, document.silences.get? line = some .all ↔ document.Says line Silence.Bare) ∧
    (∀ line rules, document.silences.get? line = some (.only rules) ↔
      ¬ document.Says line Silence.Bare ∧ document.Says line Silence.Silences ∧
      ∀ rule, rule ∈ rules ↔ document.Says line fun comment => Silence.Lists comment rule) ∧
    (∀ line, document.silences.get? line = none ↔ ¬ document.Says line Silence.Silences) ∧
    (∀ other : Document, (other.tokens.map Prod.snd).Perm (document.tokens.map Prod.snd) →
      other.silences = document.silences) ∧
    ∀ threshold rules, ∀ finding ∈ (scanDocument threshold rules document).findings,
      ∃ index token, (index, token) ∈ document.tokens ∧ ∃ self ∈ rules,
        finding.anchor = some index ∧ finding.ruleId = self.id ∧
        (finding.suppressed ↔ document.Says token.line fun comment =>
          Silence.Bare comment ∨ Silence.Lists comment finding.ruleId) :=
  ⟨fun _ => Document.get?_silences_eq_all, fun _ _ => Document.get?_silences_eq_only,
    fun _ => Document.get?_silences_eq_none, fun _ perm => Document.silences_of_perm perm,
    fun _ _ _ found => suppressed_iff found⟩

/-- A query on each of four lines: two lists of which one names the rule, a list of another rule,
a list that is not closed after one that is, and a comment that only looks like one of them. -/
def silencedDocument : Document where
  pool := #[
    { token := { kind := .literalDouble, content := "SELECT $a", line := 1 } },
    { token := { kind := .comment, content := "## no critic (Other)", line := 1 } },
    { token := { kind := .comment, content := " ##No  Critic(X, PreventSQLInjection)", line := 1 } },
    { token := { kind := .literalDouble, content := "DELETE $b", line := 2 } },
    { token := { kind := .comment, content := "## no critic (Other)", line := 2 } },
    { token := { kind := .literalDouble, content := "UPDATE $c", line := 3 } },
    { token := { kind := .comment, content := "## no critic (Other)", line := 3 } },
    { token := { kind := .comment, content := "## no critic (Other", line := 3 } },
    { token := { kind := .literalDouble, content := "SELECT $d", line := 4 } },
    { token := { kind := .comment, content := "## no criticism", line := 4 } }]
  members := [0, 1, 2, 3, 4, 5, 6, 7, 8, 9]

def reversedDocument : Document :=
  { silencedDocument with members := silencedDocument.members.reverse }

theorem silencedDocument_meaning :
    let scan := scanDocument .info [⟨0, .injection, .null⟩] silencedDocument
    scan.findings.map (fun finding => (finding.anchor, finding.ruleId, finding.suppressed)) = [
      (some 0, "PreventSQLInjection", true), (some 3, "PreventSQLInjection", false),
      (some 5, "PreventSQLInjection", true), (some 8, "PreventSQLInjection", false)] ∧
    (silencedDocument.Says 1 fun comment =>
      Silence.Bare comment ∨ Silence.Lists comment "PreventSQLInjection") ∧
    (¬ silencedDocument.Says 2 fun comment =>
      Silence.Bare comment ∨ Silence.Lists comment "PreventSQLInjection") ∧
    silencedDocument.Says 3 Silence.Bare ∧ ¬ silencedDocument.Says 4 Silence.Silences ∧
    (∃ rules : NameSet, silencedDocument.silences.get? 1 = some (.only rules) ∧ "X" ∈ rules ∧
      silencedDocument.Says 1 fun comment => Silence.Lists comment "X") ∧
    (reversedDocument.tokens.map Prod.snd).Perm (silencedDocument.tokens.map Prod.snd) ∧
    reversedDocument.silences = silencedDocument.silences := by
  intro scan
  obtain ⟨bare, listed, absent, ordered, marked⟩ := silences_meaning silencedDocument
  have table : silencedDocument.silences = [
      (1, .only (.ofList ["Other", "PreventSQLInjection", "X"])), (2, .only (.ofList ["Other"])),
      (3, .all)] := by decide +kernel
  have found : scan.findings.map
      (fun finding => (finding.anchor, finding.ruleId, finding.suppressed)) = [
        (some 0, "PreventSQLInjection", true), (some 3, "PreventSQLInjection", false),
        (some 5, "PreventSQLInjection", true), (some 8, "PreventSQLInjection", false)] := by
    decide +kernel
  -- What the mark of a finding at one token says about the comments on its line.
  have covered : ∀ (index : Nat) (line : Int) (rule : String) (mark : Bool),
      (some index, rule, mark) ∈
        scan.findings.map (fun finding => (finding.anchor, finding.ruleId, finding.suppressed)) →
      (∀ entry ∈ silencedDocument.tokens, entry.1 = index → entry.2.line = line) →
      (mark ↔ silencedDocument.Says line fun comment =>
        Silence.Bare comment ∨ Silence.Lists comment rule) := by
    intro index line rule mark member lines
    obtain ⟨finding, inside, same⟩ := List.mem_map.mp member
    simp only [Prod.mk.injEq] at same
    obtain ⟨anchor, id, flag⟩ := same
    obtain ⟨place, token, present, _, _, anchored, _, marks⟩ := marked _ _ finding inside
    have here : place = index := Option.some.inj (anchored.symm.trans anchor)
    rwa [flag, id, lines _ present here] at marks
  have perm : (reversedDocument.tokens.map Prod.snd).Perm
      (silencedDocument.tokens.map Prod.snd) := by decide
  refine ⟨found, ?_, ?_, ?_, ?_, ?_, perm, ordered _ perm⟩
  · exact (covered 0 1 _ true (by simp [found]) (by decide)).mp rfl
  · have unmarked := covered 3 2 "PreventSQLInjection" false (by simp [found]) (by decide)
    simpa using unmarked
  · exact (bare 3).mp (by rw [table]; rfl)
  · exact (absent 4).mp (by rw [table]; rfl)
  · have only : silencedDocument.silences.get? 1 =
        some (.only (.ofList ["Other", "PreventSQLInjection", "X"])) := by rw [table]; rfl
    have named : "X" ∈ NameSet.ofList ["Other", "PreventSQLInjection", "X"] := by
      simp [NameSet.mem_ofList]
    exact ⟨_, only, named, (((listed 1 _).mp only).2.2 "X").mp named⟩

end QueryLint
