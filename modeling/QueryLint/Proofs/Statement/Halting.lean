import Mathlib.Data.Nat.Find
import Mathlib.Logic.Function.Iterate
import QueryLint.Proofs.Statement.Reading

/-! When the scan of a statement ends. Links may run in circles, so the scan is taken turn by
turn here, with no bound on the turns. Whether it goes on from a token is decided by that token
alone. A scan that comes to a token a second time therefore never ends, and one that ends has
taken up no more tokens than the pool holds, which is what makes the bound of `Pool.stretch`
invisible. -/
namespace QueryLint

namespace Pool

/-- The token at a position, with its links; there is none behind the end. -/
def node? (pool : Pool) (place : Option Nat) : Option (Nat × Node) :=
  place.bind fun index => (pool[index]?).map (index, ·)

/-- The position that a number of links leads to. -/
def follow (pool : Pool) (links : Nat) (place : Option Nat) : Option Nat :=
  (Option.bind · pool.next?)^[links] place

/-- At this position stands a token that neither ends the statement nor fails. -/
def GoesOn (pool : Pool) (place : Option Nat) : Prop :=
  ∃ index node, pool.node? place = some (index, node) ∧ node.token.kind ≠ .terminator ∧
    ¬ node.token.Fails

variable {pool : Pool} {place : Option Nat} {index : Nat} {node : Node}

theorem node?_eq_some :
    pool.node? place = some (index, node) ↔ place = some index ∧ pool[index]? = some node := by
  cases place with
  | none => simp [node?]
  | some other =>
    simp only [node?, Option.bind_some, Option.map_eq_some_iff, Prod.mk.injEq, Option.some.injEq]
    constructor
    · rintro ⟨_, found, rfl, rfl⟩
      exact ⟨rfl, found⟩
    · rintro ⟨rfl, found⟩
      exact ⟨node, found, rfl, rfl⟩

theorem follow_succ (links : Nat) (place : Option Nat) :
    pool.follow (links + 1) place = (pool.follow links place).bind pool.next? :=
  Function.iterate_succ_apply' _ links place

theorem follow_add (more links : Nat) (place : Option Nat) :
    pool.follow (more + links) place = pool.follow more (pool.follow links place) :=
  Function.iterate_add_apply _ more links place

/-- Up to the first position that ends a walk, no position comes twice. A position that came
again would lead to the end a second time, and sooner. -/
theorem follow_ne {start : Option Nat} {last i j : Nat}
    (goes : ∀ links < last, pool.GoesOn (pool.follow links start))
    (ends : ¬ pool.GoesOn (pool.follow last start)) (before : i < j) (within : j ≤ last) :
    pool.follow i start ≠ pool.follow j start := by
  intro again
  have same : pool.follow (last - j + i) start = pool.follow last start := by
    rw [follow_add, again, ← follow_add, Nat.sub_add_cancel within]
  exact ends (same ▸ goes (last - j + i) (by omega))

theorem nodup_follow {start : Option Nat} {last : Nat}
    (goes : ∀ links < last, pool.GoesOn (pool.follow links start))
    (ends : ¬ pool.GoesOn (pool.follow last start)) :
    ((List.range (last + 1)).filterMap fun links => pool.follow links start).Nodup := by
  refine List.pairwise_filterMap.mpr (List.pairwise_lt_range.imp_of_mem ?_)
  intro i j _ inside before place here other there same
  refine follow_ne goes ends before (Nat.le_of_lt_succ (List.mem_range.mp inside)) ?_
  rw [here, there, same]

end Pool

/-- A scan under way. -/
structure Walk where
  place : Option Nat
  joining : Bool := false
  found : List String := []
  passed : List Nat := []
  outcome : Option StatementScan := none

namespace Walk

/-- The scan before its first turn. At a token that does not look like a query it has ended. -/
def start (pool : Pool) (index : Nat) : Walk where
  place := some index
  outcome := if (pool.token? index).any Token.isEntry then none else some (.complete [])

def finish (walk : Walk) (scan : StatementScan) : Walk := { walk with outcome := some scan }

def take (safe : SafeVariables) (index : Nat) (node : Node) (walk : Walk) : Walk :=
  let walk := { walk with passed := walk.passed ++ [index] }
  if node.token.kind = .terminator then walk.finish (.complete walk.found)
  else
    match readToken safe walk.joining node.token with
    | .error fault => walk.finish (.ofReading true (.error (node.token, fault)))
    | .ok (brought, joining) =>
      { walk with place := node.next, joining, found := walk.found ++ brought }

/-- One turn of the scan. A scan that has ended stays as it is. -/
def turn (pool : Pool) (safe : SafeVariables) (walk : Walk) : Walk :=
  match walk.outcome with
  | some _ => walk
  | none =>
    match pool.node? walk.place with
    | none => walk.finish (.complete walk.found)
    | some (index, node) => walk.take safe index node

def after (pool : Pool) (safe : SafeVariables) (start turns : Nat) : Walk :=
  (turn pool safe)^[turns] (.start pool start)

/-- What a scan comes to when no more than `fuel` further tokens are read. -/
def prospect (pool : Pool) (safe : SafeVariables) (fuel : Nat) (walk : Walk) : StatementScan :=
  let stretch := pool.stretchFrom fuel walk.place
  walk.outcome.getD (.ofReading stretch.closed
    ((readTokens safe walk.joining stretch.tokens).map (walk.found ++ ·)))

variable {pool : Pool} {safe : SafeVariables} {table : LineTable NameSet} {walk : Walk}
  {start turns last index : Nat} {node : Node}

theorem after_succ (pool : Pool) (safe : SafeVariables) (start turns : Nat) :
    after pool safe start (turns + 1) = (after pool safe start turns).turn pool safe :=
  Function.iterate_succ_apply' _ turns _

theorem turn_ended (ended : walk.outcome.isSome) : walk.turn pool safe = walk := by
  obtain ⟨scan, outcome⟩ := Option.isSome_iff_exists.mp ended
  simp only [turn, outcome]

theorem after_ended (ended : (after pool safe start last).outcome.isSome) (late : last ≤ turns) :
    after pool safe start turns = after pool safe start last := by
  rw [after, ← Nat.sub_add_cancel late, Function.iterate_add_apply]
  exact Function.iterate_fixed (turn_ended ended) _

theorem turn_behind (going : walk.outcome = none) (behind : pool.node? walk.place = none) :
    walk.turn pool safe = walk.finish (.complete walk.found) := by
  simp only [turn, going, behind]

theorem turn_take (going : walk.outcome = none)
    (here : pool.node? walk.place = some (index, node)) :
    walk.turn pool safe = walk.take safe index node := by
  simp only [turn, going, here]

theorem prospect_behind (fuel : Nat) (going : walk.outcome = none)
    (behind : pool.node? walk.place = none) :
    walk.prospect pool safe (fuel + 1) = .complete walk.found := by
  have empty : pool.stretchFrom (fuel + 1) walk.place = ⟨[], true⟩ := by
    cases place : walk.place with
    | none => rfl
    | some index =>
      have outside : pool[index]? = none := by simpa [Pool.node?, place] using behind
      simp [Pool.stretchFrom, outside]
  simp [prospect, going, empty, readTokens, Except.map, StatementScan.ofReading]

theorem prospect_take (fuel : Nat) (going : walk.outcome = none)
    (here : pool.node? walk.place = some (index, node)) :
    (walk.take safe index node).prospect pool safe fuel = walk.prospect pool safe (fuel + 1) := by
  obtain ⟨place, known⟩ := Pool.node?_eq_some.mp here
  by_cases ended : node.token.kind = .terminator
  · simp [take, finish, prospect, going, place, Pool.stretchFrom, known, ended, readTokens,
      Except.map, StatementScan.ofReading]
  · simp only [take, prospect, going, place, Pool.stretchFrom, known, ended, if_false,
      readTokens_cons ended]
    cases readToken safe walk.joining node.token with
    | error fault => cases fault <;> rfl
    | ok read =>
      obtain ⟨brought, joining⟩ := read
      cases rest : readTokens safe joining (pool.stretchFrom fuel node.next).tokens <;>
        simp [Except.map, rest]

/-- A turn takes one token off what lies ahead. -/
theorem prospect_turn (fuel : Nat) (walk : Walk) :
    (walk.turn pool safe).prospect pool safe fuel = walk.prospect pool safe (fuel + 1) := by
  cases going : walk.outcome with
  | some scan =>
    rw [turn_ended (by simp [going])]
    simp [prospect, going]
  | none =>
    cases here : pool.node? walk.place with
    | none =>
      rw [turn_behind going here, prospect_behind fuel going here]
      rfl
    | some found => rw [turn_take going here, prospect_take fuel going here]

theorem prospect_after (fuel turns : Nat) :
    (after pool safe start turns).prospect pool safe fuel =
      (Walk.start pool start).prospect pool safe (fuel + turns) := by
  induction turns generalizing fuel with
  | zero => rfl
  | succ turns ih => rw [after_succ, prospect_turn, ih, Nat.add_right_comm, Nat.add_assoc]

/-- The bounded scan is the scan turn by turn, cut off when every token of the pool could have
been taken up. -/
theorem scanStatement_eq_prospect (pool : Pool) (safe : SafeVariables) (start : Nat) :
    scanStatement pool safe start =
      (after pool safe start (pool.size + 1)).prospect pool safe 0 := by
  rw [prospect_after, Nat.zero_add, scanStatement]
  cases entry : (pool.token? start).any Token.isEntry with
  | false => simp [prospect, Walk.start, entry]
  | true =>
    simp only [prospect, Walk.start, entry, if_true, Option.getD_none, map_nil_append]
    rfl

/-- What is known of a scan that has not ended after some turns: it has followed the links, and
what it has found are the exposures of the tokens on its way. -/
structure Underway (pool : Pool) (table : LineTable NameSet) (start turns : Nat) (walk : Walk) :
    Prop where
  going : walk.outcome = none
  place : walk.place = pool.follow turns (some start)
  passed : walk.passed = (List.range turns).filterMap fun links => pool.follow links (some start)
  length : walk.passed.length = turns
  inside : ∀ place ∈ walk.passed, place < pool.size
  joining : walk.joining = decide (JoinsOn (walk.passed.filterMap pool.token?))
  found : walk.found = exposures table (walk.passed.filterMap pool.token?)

theorem underway_start (entry : (pool.token? start).any Token.isEntry) :
    (Walk.start pool start).Underway pool table start 0 :=
  ⟨by simp [Walk.start, entry], rfl, rfl, rfl, by simp [Walk.start], rfl, rfl⟩

/-- A token that neither ends the statement nor fails is passed. -/
theorem Underway.step (underway : walk.Underway pool table start turns)
    (goes : pool.GoesOn (pool.follow turns (some start))) :
    (walk.turn pool ⟨some table⟩).Underway pool table start (turns + 1) := by
  obtain ⟨index, node, here, inside, clean⟩ := goes
  obtain ⟨place, known⟩ := Pool.node?_eq_some.mp here
  have token : pool.token? index = some node.token := by simp [Pool.token?, known]
  have seen : (walk.passed ++ [index]).filterMap pool.token? =
      walk.passed.filterMap pool.token? ++ [node.token] := by
    simp [token]
  have read := @readToken_of_not_fails table node.token (walk.passed.filterMap pool.token?) inside
    clean
  rw [← underway.joining] at read
  rw [← underway.place] at here
  rw [turn_take underway.going here]
  simp only [take, inside, if_false, read]
  refine {
    going := underway.going
    place := ?_
    passed := ?_
    length := by rw [List.length_append, underway.length]; rfl
    inside := ?_
    joining := by rw [seen]
    found := ?_ }
  · rw [Pool.follow_succ, place]
    simp [Pool.next?, known]
  · simp [List.range_succ, underway.passed, place]
  · intro other member
    rcases List.mem_append.mp member with early | late
    · exact underway.inside other early
    · rw [List.mem_singleton.mp late]
      exact (Array.getElem?_eq_some_iff.mp known).1
  · rw [seen, exposures_concat, underway.found]

theorem underway_after (entry : (pool.token? start).any Token.isEntry)
    (goes : ∀ links < turns, pool.GoesOn (pool.follow links (some start))) :
    (after pool ⟨some table⟩ start turns).Underway pool table start turns := by
  induction turns with
  | zero => exact underway_start entry
  | succ turns ih =>
    have earlier := ih fun links before => goes links (Nat.lt_succ_of_lt before)
    rw [after_succ]
    exact earlier.step (goes turns (Nat.lt_succ_self turns))

/-- At any other token, and behind the last one, the scan ends. -/
theorem Underway.ends (underway : walk.Underway pool table start turns)
    (stops : ¬ pool.GoesOn (pool.follow turns (some start))) :
    ∃ scan, (walk.turn pool ⟨some table⟩).outcome = some scan ∧
      scan ≠ .failed .endlessStatement ∧
      ((walk.turn pool ⟨some table⟩).passed = walk.passed ∨ ∃ index < pool.size,
        pool.follow turns (some start) = some index ∧
        (walk.turn pool ⟨some table⟩).passed = walk.passed ++ [index]) := by
  rw [← underway.place] at stops ⊢
  cases here : pool.node? walk.place with
  | none =>
    rw [turn_behind underway.going here]
    exact ⟨_, rfl, by simp, .inl rfl⟩
  | some found =>
    obtain ⟨index, node⟩ := found
    obtain ⟨place, known⟩ := Pool.node?_eq_some.mp here
    have bound := (Array.getElem?_eq_some_iff.mp known).1
    rw [turn_take underway.going here]
    by_cases ended : node.token.kind = .terminator
    · simp only [take, ended, if_true]
      exact ⟨_, rfl, by simp, .inr ⟨index, bound, place, rfl⟩⟩
    · have fails : node.token.Fails := by
        by_contra clean
        exact stops ⟨index, node, here, ended, clean⟩
      obtain ⟨fault, literal, result, own⟩ := fails.exists_fault table
      simp only [take, ended, if_false, readToken_literal literal, result, Except.map]
      refine ⟨_, rfl, ?_, .inr ⟨index, bound, place, rfl⟩⟩
      cases fault <;> simp_all [StatementScan.ofReading]

/-- The tokens taken up until the scan is stopped are different ones of the pool. -/
theorem passed_last (entry : (pool.token? start).any Token.isEntry)
    (goes : ∀ links < last, pool.GoesOn (pool.follow links (some start)))
    (stops : ¬ pool.GoesOn (pool.follow last (some start))) :
    let final := after pool ⟨some table⟩ start (last + 1)
    final.passed.Nodup ∧ (∀ place ∈ final.passed, place < pool.size) ∧
      last ≤ final.passed.length := by
  intro final
  have underway := @underway_after pool table start last entry goes
  have distinct := Pool.nodup_follow goes stops
  rw [List.range_succ, List.filterMap_append, ← underway.passed] at distinct
  obtain ⟨_, _, _, passed⟩ := underway.ends stops
  rw [← after_succ] at passed
  rcases passed with same | ⟨index, bound, here, more⟩
  · rw [show final.passed = _ from same]
    exact ⟨distinct.of_append_left, underway.inside, Nat.le_of_eq underway.length.symm⟩
  · rw [show final.passed = _ from more]
    refine ⟨by simpa [here] using distinct, ?_, ?_⟩
    · intro place member
      rcases List.mem_append.mp member with early | late
      · exact underway.inside place early
      · exact List.mem_singleton.mp late ▸ bound
    · rw [List.length_append, underway.length]
      exact Nat.le_add_right last _

/-- The links lead from the start of a query to one token after the other for ever, and none of
them stops the scan. -/
def Endless (pool : Pool) (start : Nat) : Prop :=
  (pool.token? start).any Token.isEntry ∧ ∀ links, pool.GoesOn (pool.follow links (some start))

theorem scanStatement_endless (endless : Endless pool start) :
    scanStatement pool ⟨some table⟩ start = .failed .endlessStatement := by
  have underway := @underway_after pool table start (pool.size + 1) endless.1
    fun links _ => endless.2 links
  obtain ⟨index, _, here, _⟩ := endless.2 (pool.size + 1)
  have place := underway.place.trans (Pool.node?_eq_some.mp here).1
  rw [scanStatement_eq_prospect, prospect, underway.going, place]
  rfl

/-- A scan that is not endless comes to a first position that stops it. -/
theorem exists_stop (entry : (pool.token? start).any Token.isEntry)
    (ends : ¬ Endless pool start) :
    ∃ last, (∀ links < last, pool.GoesOn (pool.follow links (some start))) ∧
      ¬ pool.GoesOn (pool.follow last (some start)) := by
  classical
  have stops : ∃ links, ¬ pool.GoesOn (pool.follow links (some start)) := by
    by_contra goes
    exact ends ⟨entry, fun links => not_not.mp (not_exists.mp goes links)⟩
  exact ⟨Nat.find stops, fun links before => not_not.mp (Nat.find_min stops before),
    Nat.find_spec stops⟩

/-- A scan that is not endless comes to rest within the bound. -/
theorem exists_final (table : LineTable NameSet) (ends : ¬ Endless pool start) :
    ∃ scan, let final := after pool ⟨some table⟩ start (pool.size + 1)
      final.outcome = some scan ∧ scan ≠ .failed .endlessStatement ∧
      final.passed.Nodup ∧ (∀ place ∈ final.passed, place < pool.size) := by
  by_cases entry : (pool.token? start).any Token.isEntry
  · obtain ⟨last, goes, stops⟩ := exists_stop entry ends
    obtain ⟨scan, outcome, own, _⟩ := (@underway_after pool table start last entry goes).ends stops
    obtain ⟨nodup, inside, length⟩ := @passed_last pool table start last entry goes stops
    rw [← after_succ] at outcome
    have small := Pool.length_le_size nodup inside
    have rest : after pool ⟨some table⟩ start (pool.size + 1) =
        after pool ⟨some table⟩ start (last + 1) :=
      after_ended (by simp [outcome]) (by omega)
    rw [rest]
    exact ⟨scan, outcome, own, nodup, inside⟩
  · have ended : (after pool ⟨some table⟩ start 0).outcome = some (.complete []) := by
      simp [after, Walk.start, entry]
    have rest : after pool ⟨some table⟩ start (pool.size + 1) = Walk.start pool start :=
      after_ended (by simp [ended]) (Nat.zero_le _)
    rw [rest]
    exact ⟨_, ended, by simp, by simp [Walk.start], by simp [Walk.start]⟩

theorem going_iff_endless :
    (∀ turns, (after pool ⟨some table⟩ start turns).outcome = none) ↔ Endless pool start := by
  constructor
  · intro going
    by_contra ends
    obtain ⟨scan, outcome, _⟩ := exists_final table ends
    rw [going] at outcome
    contradiction
  · intro endless turns
    exact (underway_after endless.1 fun links _ => endless.2 links).going

/-- A scan that has ended stays as it is, whichever of two turns comes first. -/
theorem after_eq_of_ended {others : Nat} (ended : (after pool safe start turns).outcome.isSome)
    (ended' : (after pool safe start others).outcome.isSome) :
    after pool safe start turns = after pool safe start others := by
  rcases Nat.le_total turns others with early | late
  · exact (after_ended ended early).symm
  · exact after_ended ended' late

/-- The bounded scan ends as the scan turn by turn does. -/
theorem after_of_outcome {scan : StatementScan}
    (outcome : (after pool ⟨some table⟩ start turns).outcome = some scan) :
    after pool ⟨some table⟩ start turns = after pool ⟨some table⟩ start (pool.size + 1) ∧
      ¬ Endless pool start ∧ scanStatement pool ⟨some table⟩ start = scan := by
  have ends : ¬ Endless pool start := by
    intro endless
    rw [going_iff_endless.mpr endless] at outcome
    contradiction
  obtain ⟨final, ended, _⟩ := exists_final table ends
  have same := after_eq_of_ended (Option.isSome_of_eq_some outcome) (Option.isSome_of_eq_some ended)
  refine ⟨same, ends, ?_⟩
  rw [scanStatement_eq_prospect, prospect, ← same, outcome]
  rfl

/-- A scan that ends has taken up different tokens, hence no more than the pool holds, and ends
as the bounded scan says. It does not end exactly when it starts at a query and the links lead on
for ever, to no terminator and to no token that fails; the bounded scan tells this too. -/
theorem scan_halting (pool : Pool) (table : LineTable NameSet) (start : Nat) :
    (∀ turns scan, (after pool ⟨some table⟩ start turns).outcome = some scan →
      let walk := after pool ⟨some table⟩ start turns
      walk.passed.Nodup ∧ (∀ place ∈ walk.passed, place < pool.size) ∧
      walk.passed.length ≤ pool.size ∧ scanStatement pool ⟨some table⟩ start = scan) ∧
    ((∀ turns, (after pool ⟨some table⟩ start turns).outcome = none) ↔
      (pool.token? start).any Token.isEntry ∧
        ∀ links, pool.GoesOn (pool.follow links (some start))) ∧
    (scanStatement pool ⟨some table⟩ start = .failed .endlessStatement ↔
      ∀ turns, (after pool ⟨some table⟩ start turns).outcome = none) := by
  refine ⟨fun turns scan outcome => ?_, going_iff_endless, ?_⟩
  · obtain ⟨same, ends, result⟩ := after_of_outcome outcome
    obtain ⟨_, _, _, nodup, inside⟩ := exists_final table ends
    rw [← same] at nodup inside
    exact ⟨nodup, inside, Pool.length_le_size nodup inside, result⟩
  · rw [going_iff_endless]
    refine ⟨fun failed => ?_, scanStatement_endless⟩
    by_contra ends
    obtain ⟨scan, outcome, own, _⟩ := exists_final table ends
    obtain ⟨_, _, result⟩ := after_of_outcome outcome
    exact own (result.symm.trans failed)

/-- A query, an operator and a third token, which leads back to the operator. -/
def circlingPool (third : TokenKind) : Pool := #[
  ⟨{ kind := .literalDouble, content := "SELECT $a", line := 1 }, some 1⟩,
  ⟨{ kind := .operator, content := ".", line := 1 }, some 2⟩,
  ⟨{ kind := third, content := "$b", line := 1 }, some 1⟩]

theorem circlingPool_scans :
    (after (circlingPool .terminator) ⟨some []⟩ 0 3).passed = [0, 1, 2] ∧
    (∃ scan, (after (circlingPool .terminator) ⟨some []⟩ 0 3).outcome = some scan ∧
      scanStatement (circlingPool .terminator) ⟨some []⟩ 0 = scan) ∧
    scanStatement (circlingPool .symbol) ⟨some []⟩ 0 = .failed .endlessStatement ∧
    ∀ turns, (after (circlingPool .symbol) ⟨some []⟩ 0 turns).outcome = none := by
  have ended : (after (circlingPool .terminator) ⟨some []⟩ 0 3).outcome.isSome := by
    decide +kernel
  obtain ⟨scan, outcome⟩ := Option.isSome_iff_exists.mp ended
  obtain ⟨_, _, _, result⟩ := (scan_halting (circlingPool .terminator) [] 0).1 3 scan outcome
  have circle : scanStatement (circlingPool .symbol) ⟨some []⟩ 0 = .failed .endlessStatement := rfl
  exact ⟨by decide +kernel, ⟨scan, outcome, result⟩, circle,
    (scan_halting (circlingPool .symbol) [] 0).2.2.mp circle⟩

end Walk

end QueryLint
