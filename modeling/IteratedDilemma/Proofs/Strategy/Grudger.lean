import Mathlib.Data.List.Basic
import IteratedDilemma.Proofs.Match.Rounds
import IteratedDilemma.Proofs.Tree.Horizon

/-! The grudge as a tree. A tree cannot look back over a match of any length, so it bears a grudge
only as long as it remembers. Main statement: it betrays exactly if it remembers a betrayal, it
plays the grudger's matches as long as it remembers all of them, and no longer
(`Builtin.grudgerTree_bears_grudge`). -/
namespace IteratedDilemma
set_option autoImplicit false

/-! ## Bearing a grudge -/

/-- Moves of a side that cooperates up to the round in which the other side first betrays, that
round included, and betrays ever after. Both are given the oldest first. -/
def BearsGrudge (own opponent : List Move) : Prop :=
  ∀ (i : Nat) (h : i < own.length),
    own[i] = if i ≤ opponent.idxOf .betray then .cooperate else .betray

theorem bearsGrudge_nil : BearsGrudge [] [] := fun _ h => absurd h (Nat.not_lt_zero _)

theorem bearsGrudge_concat {own opponent : List Move} (h : BearsGrudge own opponent)
    (lengths : own.length = opponent.length) (b : Move) :
    BearsGrudge (own ++ [if .betray ∈ opponent then .betray else .cooperate])
      (opponent ++ [b]) := by
  intro i hi
  rw [List.length_append, List.length_singleton] at hi
  rw [List.idxOf_append]
  rcases Nat.lt_or_eq_of_le (Nat.le_of_lt_succ hi) with old | rfl
  · rw [List.getElem_append_left old, h i old]
    by_cases betrayed : Move.betray ∈ opponent
    · rw [if_pos betrayed]
    · -- nobody has betrayed before this round, so it is too early for a grudge either way
      have first := List.idxOf_eq_length_iff.2 betrayed
      rw [if_neg betrayed, first, if_pos (by omega), if_pos (by omega)]
  · rw [List.getElem_concat_length rfl]
    by_cases betrayed : Move.betray ∈ opponent
    · have first := List.idxOf_lt_length_iff.2 betrayed
      rw [if_pos betrayed, if_pos betrayed, if_neg (by omega)]
    · rw [if_neg betrayed, if_neg betrayed, if_pos (by omega)]

namespace Builtin

/-- A built-in decision as a side of a match. -/
def player (b : Builtin) : Decision Attempt := Decision.lifted b.decision

theorem player_apply (b : Builtin) (own opponent : History) (source : RandomSource) :
    b.player own opponent source =
      (.ok (b.decision own opponent source).1, (b.decision own opponent source).2) := rfl

theorem decision_grudger (own opponent : History) (source : RandomSource) :
    grudger.decision own opponent source =
      (if .betray ∈ opponent then .betray else .cooperate, source) := by
  change (if opponent.contains .betray then Move.betray else .cooperate, source) = _
  simp only [List.contains_iff_mem]

/-- The moves of both sides so far, the most recent first: one bears a grudge against the other,
and they have moved equally often. -/
structure IsGrudge (own opponent : History) : Prop where
  bears : BearsGrudge own.reverse opponent.reverse
  lengths : own.length = opponent.length

theorem isGrudge_nil : IsGrudge [] [] := ⟨bearsGrudge_nil, rfl⟩

theorem IsGrudge.extend {own opponent : History} {source last : RandomSource} {a : Move}
    (h : IsGrudge own opponent) (decided : grudger.player own opponent source = (.ok a, last))
    (b : Move) : IsGrudge (a :: own) (b :: opponent) := by
  have move : a = if .betray ∈ opponent.reverse then .betray else .cooperate := by
    rw [player_apply, decision_grudger] at decided
    cases decided
    simp only [List.mem_reverse]
  refine ⟨?_, congrArg (· + 1) h.lengths⟩
  rw [List.reverse_cons, List.reverse_cons, move]
  exact bearsGrudge_concat h.bears (by simpa using h.lengths) b

variable {opponent : Decision Attempt} {source last : RandomSource} {m : Match}

/-- On either side of a match the grudger bears a grudge. -/
theorem player_grudger_bearsGrudge (rounds : Json) :
    (Match.simulate grudger.player opponent rounds source = (.ok m, last) →
      BearsGrudge m.moves1.reverse m.moves2.reverse) ∧
    (Match.simulate opponent grudger.player rounds source = (.ok m, last) →
      BearsGrudge m.moves2.reverse m.moves1.reverse) := by
  have first : Match.Keeps grudger.player opponent fun m _ => IsGrudge m.moves1 m.moves2 :=
    fun _ _ _ _ _ b h decided _ => h.extend decided b
  have second : Match.Keeps opponent grudger.player fun m _ => IsGrudge m.moves2 m.moves1 :=
    fun _ _ _ _ a _ h _ decided => h.extend decided a
  exact ⟨fun h => (Match.simulate_keeps first isGrudge_nil h).bears,
    fun h => (Match.simulate_keeps second isGrudge_nil h).bears⟩

/-! ## The tree -/

theorem memory_eq (rounds : Int) : (memory rounds : Int) = max rounds 2 - 1 := by
  unfold memory
  omega

/-- A condition of the tree holds exactly if the opponent betrayed in its round. -/
theorem holds_grudge (own opponent : History) (i : Nat) :
    Condition.holds ⟨.known ⟨.opponent, .nth⟩, i + 1, .betray⟩ own opponent =
      decide (opponent[i]? = some .betray) := by
  have looked : Condition.holds ⟨.known ⟨.opponent, .nth⟩, i + 1, .betray⟩ own opponent =
      (opponent.nth? (i + 1) == some .betray) := rfl
  rw [looked, History.nth?_succ, List.getD_eq_getElem?_getD]
  cases opponent[i]? with
  | none => rfl
  | some move => cases move <;> rfl

/-- Some condition of the tree holds exactly if the opponent betrayed within its memory. -/
theorem any_grudges (rounds : Int) (own opponent : History) :
    (grudges rounds).any (fun d => d.holds own opponent) =
      decide (.betray ∈ opponent.take (memory rounds)) := by
  rw [grudges, List.any_map, Bool.eq_iff_iff, decide_eq_true_iff, List.any_eq_true,
    List.mem_iff_getElem?]
  refine exists_congr fun i => ?_
  rw [List.mem_range, Function.comp_apply, holds_grudge, decide_eq_true_iff, List.getElem?_take]
  by_cases near : i < memory rounds
  · rw [if_pos near, and_iff_right near]
  · rw [if_neg near]
    exact ⟨fun h => absurd h.1 near, nofun⟩

/-- The tree betrays exactly if the opponent betrayed within its memory. -/
theorem decide_grudgerTree (rounds : Int) (own opponent : History) (source : RandomSource) :
    (grudgerTree rounds).decide own opponent source =
      (if .betray ∈ opponent.take (memory rounds) then .betray else .cooperate, source) := by
  have someGrudge : (grudges rounds).isEmpty = false := by
    have long := memory_eq rounds
    rw [List.isEmpty_eq_false_iff, grudges, ne_eq, List.map_eq_nil_iff, List.range_eq_nil]
    omega
  have first : Clause.isMet ⟨.opening, grudges rounds, .any, .play .betray⟩ own opponent =
      decide (.betray ∈ opponent.take (memory rounds)) := by
    rw [← any_grudges rounds own opponent, Clause.isMet, someGrudge]
    rfl
  rw [LogicTree.decide, grudgerTree, Chain.action_or_fallback _ rfl, first]
  by_cases betrayed : Move.betray ∈ opponent.take (memory rounds)
  · rw [if_pos betrayed, if_pos (decide_eq_true betrayed)]
    rfl
  · rw [if_neg betrayed, if_neg (by simpa using betrayed)]
    rfl

/-- As long as the tree remembers the whole match it decides like the grudger. -/
theorem grudgerTree_agreesWithin (rounds : Int) :
    (grudgerTree rounds).decision.lifted.AgreesWithin (memory rounds + 1) grudger.player := by
  refine Decision.AgreesWithin.lifted fun own opponent _ short => funext fun source => ?_
  rw [decision_grudger, LogicTree.decision, decide_grudgerTree,
    List.take_of_length_le (Nat.le_of_lt_succ short)]

/-- The tree of a grudge for so many rounds looks back one round less, and one at least. It betrays
exactly if the opponent betrayed in these. In a match that is no longer, on either side and against
anybody, it plays as the grudger does: it cooperates up to the round of the first betrayal, that
round included, and betrays ever after. In a longer match it may forget. -/
theorem grudgerTree_bears_grudge (rounds : Int) :
    (memory rounds : Int) = max rounds 2 - 1 ∧
    (∀ own opponent source, (grudgerTree rounds).decide own opponent source =
      (if .betray ∈ opponent.take (memory rounds) then .betray else .cooperate, source)) ∧
    (∀ (opponent : Decision Attempt) (count : Int) (source : RandomSource),
      count ≤ memory rounds + 1 →
      Match.simulate (grudgerTree rounds).decision.lifted opponent (.int count) source =
        Match.simulate grudger.player opponent (.int count) source ∧
      Match.simulate opponent (grudgerTree rounds).decision.lifted (.int count) source =
        Match.simulate opponent grudger.player (.int count) source ∧
      ∀ m last,
        (Match.simulate (grudgerTree rounds).decision.lifted opponent (.int count) source =
          (.ok m, last) → BearsGrudge m.moves1.reverse m.moves2.reverse) ∧
        (Match.simulate opponent (grudgerTree rounds).decision.lifted (.int count) source =
          (.ok m, last) → BearsGrudge m.moves2.reverse m.moves1.reverse)) ∧
    ∃ opponent : History, opponent.length = memory rounds + 1 ∧ ∀ own source,
      ((grudgerTree rounds).decide own opponent source).1 = .cooperate ∧
        (grudger.decision own opponent source).1 = .betray := by
  refine ⟨memory_eq rounds, decide_grudgerTree rounds, fun opponent count source short => ?_, ?_⟩
  · have agrees := grudgerTree_agreesWithin rounds
    have same := Decision.agreesWithin_refl (memory rounds + 1) opponent
    have within : count ≤ (memory rounds + 1 : Nat) := by omega
    rw [Match.simulate_congr agrees same within, Match.simulate_congr same agrees within]
    exact ⟨rfl, rfl, fun m last => player_grudger_bearsGrudge (.int count)⟩
  · -- a betrayal in the round before those that the tree remembers
    have forgotten : Move.betray ∉
        (List.replicate (memory rounds) Move.cooperate ++ [Move.betray]).take (memory rounds) := by
      rw [List.take_left' List.length_replicate]
      exact fun h => Move.noConfusion (List.eq_of_mem_replicate h)
    refine ⟨List.replicate (memory rounds) Move.cooperate ++ [Move.betray], by simp,
      fun own source => ?_⟩
    rw [decide_grudgerTree, decision_grudger, if_neg forgotten, if_pos (by simp)]
    exact ⟨rfl, rfl⟩

/-- A grudge for five rounds, against one that betrays in the second round only. -/
theorem grudgerTree_bears_grudge_five (source : RandomSource) :
    let opponent := Decision.scripted
      ([.cooperate, .betray, .cooperate, .cooperate, .cooperate].map Move.toJson)
    memory 5 = 4 ∧ (5 : Int) ≤ memory 5 + 1 ∧ ∃ m last,
      Match.simulate (grudgerTree 5).decision.lifted opponent (.int 5) source = (.ok m, last) ∧
      m.moves1.reverse = [.cooperate, .cooperate, .betray, .betray, .betray] ∧
      BearsGrudge m.moves1.reverse m.moves2.reverse := by
  intro opponent
  have short : (5 : Int) ≤ memory 5 + 1 := by decide
  have played : (Match.simulate (grudgerTree 5).decision.lifted opponent (.int 5)
      source).1.toOption.map (fun m => m.moves1.reverse) =
      some [.cooperate, .cooperate, .betray, .betray, .betray] := rfl
  obtain ⟨m, found, moves⟩ := Option.map_eq_some_iff.1 played
  obtain ⟨last, run⟩ := Work.exists_of_toOption found
  have grudge := ((grudgerTree_bears_grudge 5).2.2.1 opponent 5 source short).2.2 m last
  exact ⟨rfl, short, m, last, run, moves, grudge.1 run⟩

end Builtin
end IteratedDilemma
