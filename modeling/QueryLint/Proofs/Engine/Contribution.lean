import Mathlib.Data.List.Forall2
import QueryLint.Proofs.Limits
import QueryLint.Proofs.Session.Basis
import QueryLint.Rule.Scripted

/-! Every pair of a token and a rule counts for itself. A scan collects, in order, what each pair
gives when its rule alone is asked about its token; rules that fail or report leave no trace in
what the others give. Two things end a scan: a rule cannot say whether it applies, or it fails on a
line that is too long to be named. -/
namespace QueryLint

/-- What a rule has to add for a token, nothing else being asked about the document. -/
inductive Contributes (document : Document) (index : Nat) (token : Token) (self : RuleInstance) :
    Contribution → Prop where
  | passed : self.rule.applies token = .ok false → Contributes document index token self .nothing
  | accepted : self.rule.applies token = .ok true →
      (self.judge document index token).finding = .ok none →
      Contributes document index token self .nothing
  | failed {fault : Fault} : self.rule.applies token = .ok true →
      (self.judge document index token).finding = .error fault →
      token.line.natAbs < Nat.pow 10 digitLimit →
      Contributes document index token self (.error (self.failure document.path token fault))
  | reported {finding : Finding} : self.rule.applies token = .ok true →
      (self.judge document index token).finding = .ok (some finding) →
      Contributes document index token self
        (.finding (document.silences.mark token.line finding))

/-- What ends a scan at a rule and a token. -/
inductive Ends (document : Document) (index : Nat) (token : Token) (self : RuleInstance) :
    Fault → Prop where
  | undecided {fault : Fault} : self.rule.applies token = .error fault →
      Ends document index token self fault
  /-- The entry about the failure of the rule would have to name the line. -/
  | unnamed {fault : Fault} : self.rule.applies token = .ok true →
      (self.judge document index token).finding = .error fault →
      Nat.pow 10 digitLimit ≤ token.line.natAbs →
      Ends document index token self (.unshowable digitLimit)

section Pair

variable {document : Document} {index : Nat} {token : Token} {self : RuleInstance}
  {made : Contribution} {fault : Fault}

theorem alone_passed (passes : self.rule.applies token = .ok false) :
    document.alone ((index, token), self) = .ok .nothing := by
  simp [Document.alone, scanPair, passes]

theorem alone_judged (applies : self.rule.applies token = .ok true) :
    document.alone ((index, token), self) =
      self.contribution document.silences document.path token
        (self.judge document index token).finding := by
  simp [Document.alone, scanPair, applies]

theorem alone_of_contributes (gives : Contributes document index token self made) :
    document.alone ((index, token), self) = .ok made := by
  cases gives with
  | passed passes => exact alone_passed passes
  | accepted applies accepts => rw [alone_judged applies, accepts, RuleInstance.contribution]
  | failed applies fails short =>
    rw [alone_judged applies, fails, RuleInstance.contribution, overlong?_eq_none_iff.mpr short,
      Option.elim_none]
  | reported applies reports => rw [alone_judged applies, reports, RuleInstance.contribution]

theorem alone_of_ends (ends : Ends document index token self fault) :
    document.alone ((index, token), self) = .error fault := by
  cases ends with
  | undecided undecided => simp [Document.alone, scanPair, undecided]
  | unnamed applies fails long =>
    rw [alone_judged applies, fails, RuleInstance.contribution, overlong?_of_long long,
      Option.elim_some]

theorem contributes_or_ends (document : Document) (index : Nat) (token : Token)
    (self : RuleInstance) :
    (∃ made, Contributes document index token self made) ∨
      ∃ fault, Ends document index token self fault := by
  cases applies : self.rule.applies token with
  | error fault => exact .inr ⟨fault, .undecided applies⟩
  | ok put =>
    cases put with
    | false => exact .inl ⟨_, .passed applies⟩
    | true =>
      cases judged : (self.judge document index token).finding with
      | error fault =>
        by_cases short : token.line.natAbs < Nat.pow 10 digitLimit
        · exact .inl ⟨_, .failed applies judged short⟩
        · exact .inr ⟨_, .unnamed applies judged (Nat.not_lt.mp short)⟩
      | ok found =>
        cases found with
        | none => exact .inl ⟨_, .accepted applies judged⟩
        | some finding => exact .inl ⟨_, .reported applies judged⟩

/-- Nothing, an error, a finding and the end of the scan exclude one another. -/
theorem alone_eq_ok_iff : document.alone ((index, token), self) = .ok made ↔
    Contributes document index token self made := by
  refine ⟨fun given => ?_, alone_of_contributes⟩
  rcases contributes_or_ends document index token self with ⟨other, gives⟩ | ⟨fault, ends⟩
  · rw [alone_of_contributes gives] at given
    exact Except.ok.inj given ▸ gives
  · rw [alone_of_ends ends] at given
    contradiction

theorem alone_eq_error_iff : document.alone ((index, token), self) = .error fault ↔
    Ends document index token self fault := by
  refine ⟨fun given => ?_, alone_of_ends⟩
  rcases contributes_or_ends document index token self with ⟨other, gives⟩ | ⟨fault, ends⟩
  · rw [alone_of_contributes gives] at given
    contradiction
  · rw [alone_of_ends ends] at given
    exact Except.error.inj given ▸ ends

end Pair

section Tally

variable {threshold : Severity} {document : Document}
  {pairs before after : List ((Nat × Token) × RuleInstance)}
  {pair : (Nat × Token) × RuleInstance} {made : List Contribution} {fault : Fault}

/-- What pairs give, each by itself. -/
def Document.Gives (document : Document) :
    List ((Nat × Token) × RuleInstance) → List Contribution → Prop :=
  List.Forall₂ fun pair made => document.alone pair = .ok made

/-- The contributions of all pairs add up. -/
theorem tally_of_gives (gives : document.Gives pairs made) :
    tally threshold (pairs.map document.alone) =
      (.ok (made.flatMap (·.findings threshold)), made.flatMap (·.errors)) := by
  induction gives with
  | nil => rfl
  | cons given _ ih =>
    rw [List.map_cons, given, tally, ih]
    rfl

/-- A pair that ends the scan leaves the errors of those before it. -/
theorem tally_of_ends (gives : document.Gives before made)
    (ends : document.alone pair = .error fault) :
    tally threshold ((before ++ pair :: after).map document.alone) =
      (.error fault, made.flatMap (·.errors)) := by
  induction gives with
  | nil =>
    rw [List.nil_append, List.map_cons, ends]
    rfl
  | cons given _ ih =>
    rw [List.cons_append, List.map_cons, given, tally, ih]
    rfl

theorem exists_of_gives {contribution : Contribution} (gives : document.Gives pairs made)
    (member : contribution ∈ made) : ∃ pair, document.alone pair = .ok contribution := by
  induction gives with
  | nil => contradiction
  | cons given _ ih =>
    rcases List.mem_cons.mp member with rfl | later
    · exact ⟨_, given⟩
    · exact ih later

/-- All pairs are heard, or there is a first one that ends the scan. -/
theorem gives_or_ends (document : Document) (pairs : List ((Nat × Token) × RuleInstance)) :
    (∃ made, document.Gives pairs made) ∨ ∃ before pair after made fault,
      pairs = before ++ pair :: after ∧ document.Gives before made ∧
      document.alone pair = .error fault := by
  induction pairs with
  | nil => exact .inl ⟨[], .nil⟩
  | cons first pairs ih =>
    cases given : document.alone first with
    | error fault => exact .inr ⟨[], first, pairs, [], fault, rfl, .nil, given⟩
    | ok contribution =>
      rcases ih with ⟨made, gives⟩ | ⟨before, pair, after, made, fault, rfl, gives, ends⟩
      · exact .inl ⟨contribution :: made, .cons given gives⟩
      · exact .inr ⟨first :: before, pair, after, contribution :: made, fault, rfl,
          .cons given gives, ends⟩

end Tally

namespace Session

variable {session : Session} {rules : List RuleInstance} {index : Nat} {document : Document}

theorem scanWith_tally (session : Session) (rules : List RuleInstance) (index : Nat)
    (document : Document) :
    ((session.scanWith rules index document).1 =
      (tally session.engine.threshold ((document.pairs rules).map document.alone)).1) ∧
    (session.scanWith rules index document).2.2.engine.errors = session.engine.errors ++
      (tally session.engine.threshold ((document.pairs rules).map document.alone)).2 := by
  rw [← (scanDocument_tally session.engine.threshold rules document).1]
  exact ⟨rfl, rfl⟩

theorem scan_eq_scanWith [Nesting] {later : Session}
    (present : session.documents[index]? = some document)
    (selected : session.rules = .ok (rules, later)) :
    (session.scan index).1 = (session.scanWith rules index document).1 ∧
    (session.scan index).2.2.engine.errors =
      (session.scanWith rules index document).2.2.engine.errors := by
  have listing := session.rules_basis
  rw [selected] at listing
  obtain ⟨_, _, engine, _⟩ := listing
  simp only [scan, present, selected, scanWith, addErrors, engine, and_self]

end Session

end QueryLint
