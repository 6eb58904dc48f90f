import IteratedDilemma.Proofs.Strategy.Grudger

/-! Trees in place of functions. Main statement: the tree under a key and the decision under
the same key play the same matches, on either side and against anybody, and draw the same numbers
(`Builtin.trees_stand_in`). -/
namespace IteratedDilemma
set_option autoImplicit false

namespace Builtin

/-! ## Trees -/

theorem holds_opponentLast (target : Move) (own opponent : History) :
    (opponentLast target).holds own opponent = (opponent.last == target) := by
  change (some opponent.last == some target) = _
  rw [Option.some_beq_some]

theorem decide_always (action : Action) (own opponent : History) (source : RandomSource) :
    (always action).decide own opponent source = action.resolve source := by
  have met : Clause.isMet ⟨.opening, [opponentLast .cooperate, opponentLast .betray], .any, action⟩
      own opponent = true := by
    change ((opponentLast .cooperate).holds own opponent ||
      ((opponentLast .betray).holds own opponent || false)) = true
    -- the last move is one of two
    rw [holds_opponentLast, holds_opponentLast]
    cases opponent.last <;> rfl
  rw [LogicTree.decide, always, Chain.action, List.find?_cons, met]

theorem decide_titForTatTree (own opponent : History) (source : RandomSource) :
    titForTatTree.decide own opponent source = (opponent.last, source) := by
  have met : Clause.isMet ⟨.opening, [opponentLast .betray], .all, .play .betray⟩ own opponent =
      (opponent.last == .betray) := by
    rw [← holds_opponentLast .betray own opponent]
    exact Bool.and_true _
  rw [LogicTree.decide, titForTatTree, Chain.action_or_fallback _ rfl, met]
  cases opponent.last <;> rfl

/-- Tree and function decide alike on all histories, or on those that a grudge remembers. -/
theorem tree_agreesWithin (b : Builtin) {count : Nat} (short : b = grudger → count ≤ 20) :
    b.tree.decision.lifted.AgreesWithin count b.player := by
  cases b with
  | grudger =>
    intro own opponent l1 l2
    have near := short rfl
    exact grudgerTree_agreesWithin 20 own opponent (Nat.lt_of_lt_of_le l1 near)
      (Nat.lt_of_lt_of_le l2 near)
  | titForTat =>
    exact Decision.AgreesWithin.lifted fun own opponent _ _ =>
      funext (decide_titForTatTree own opponent)
  | alwaysCooperate | alwaysBetray | random =>
    exact Decision.AgreesWithin.lifted fun own opponent _ _ =>
      funext (decide_always _ own opponent)

/-- How many numbers a decision of the strategy draws. -/
def draws (b : Builtin) : Nat := if b = random then 1 else 0

theorem player_draws (b : Builtin) : b.player.Draws b.draws := by
  cases b <;> intro own opponent source <;> rfl

theorem tree_draws (b : Builtin) : b.tree.decision.lifted.Draws b.draws := by
  cases b with
  | grudger =>
    exact fun own opponent source => congrArg Prod.snd (decide_grudgerTree 20 own opponent source)
  | titForTat =>
    exact fun own opponent source => congrArg Prod.snd (decide_titForTatTree own opponent source)
  | alwaysCooperate | alwaysBetray | random =>
    exact fun own opponent source => congrArg Prod.snd (decide_always _ own opponent source)

/-- What is under a key belongs to the built-in strategy of that name. -/
theorem named_of_treeUnder {key : Text} {t : LogicTree} (listed : treeUnder (.text key) = .ok t) :
    ∃ b : Builtin, key = b.name ∧ t = b.tree ∧ decisionOf (.text key) = .ok b.decision := by
  cases found : ofName? key with
  | none =>
    have missing : ofKey (.text key) = .ok none := congrArg Except.ok found
    rw [treeUnder, missing] at listed
    cases listed
  | some b =>
    have known : ofKey (.text key) = .ok (some b) := congrArg Except.ok found
    rw [treeUnder, known] at listed
    cases listed
    rw [decisionOf, known]
    have named := List.find?_some (p := fun b : Builtin => decide ((b.name : Text) = key)) found
    exact ⟨b, (of_decide_eq_true named).symm, rfl, rfl⟩

/-- Whatever key has a tree has a decision, and one can stand in for the other: a match of so many
rounds, on either side and against anybody, has the same outcome and draws the same numbers. A tree
bears a grudge for 20 rounds. Tree and decision draw one number in each round if they are random,
and else none. -/
theorem trees_stand_in {key : Text} {t : LogicTree} (listed : treeUnder (.text key) = .ok t) :
    let count := if key = "random" then 1 else 0
    ∃ d : Decision Drawing, decisionOf (.text key) = .ok d ∧
      (∀ (opponent : Decision Attempt) (rounds : Int), (key = "grudger" → rounds ≤ 20) →
        ∀ source,
          Match.simulate t.decision.lifted opponent (.int rounds) source =
            Match.simulate d.lifted opponent (.int rounds) source ∧
          Match.simulate opponent t.decision.lifted (.int rounds) source =
            Match.simulate opponent d.lifted (.int rounds) source) ∧
      ∀ player ∈ [t.decision.lifted, d.lifted], player.Draws count ∧
        ∀ (opponent : Decision Attempt) (others : Nat), opponent.Draws others →
          ∀ (rounds : Json) (source last : RandomSource) (m : Match),
            Match.simulate player opponent rounds source = (.ok m, last) ∨
              Match.simulate opponent player rounds source = (.ok m, last) →
            last = source.after ((count + others) * m.rounds) := by
  intro count
  obtain ⟨b, rfl, rfl, found⟩ := named_of_treeUnder listed
  refine ⟨b.decision, found, fun opponent rounds short source => ?_, fun player either => ?_⟩
  · have within : b = grudger → rounds.toNat ≤ 20 := by
      rintro rfl
      have few := short rfl
      omega
    have agrees := tree_agreesWithin b within
    have same := Decision.agreesWithin_refl rounds.toNat opponent
    have whole : rounds ≤ rounds.toNat := Int.self_le_toNat rounds
    exact ⟨congrFun (Match.simulate_congr agrees same whole) source,
      congrFun (Match.simulate_congr same agrees whole) source⟩
  · have counted : b.draws = count := by
      cases b <;> decide
    have drawn : player.Draws count := by
      rw [← counted]
      rcases List.mem_pair.1 either with rfl | rfl
      · exact tree_draws b
      · exact player_draws b
    refine ⟨drawn, fun opponent others theirs rounds source last m played => ?_⟩
    rcases played with first | second
    · exact Match.simulate_draws drawn theirs first
    · rw [Nat.add_comm]
      exact Match.simulate_draws theirs drawn second

/-- A grudge of 20 rounds against random moves, of which the third is the first betrayal. -/
theorem trees_stand_in_grudger :
    let source := RandomSource.ofNumbers [1 / 4, 1 / 4, 3 / 4]
    treeUnder (.text "grudger") = .ok (grudgerTree 20) ∧ random.player.Draws 1 ∧
    ∃ d m last, decisionOf (.text "grudger") = .ok d ∧
      Match.simulate (grudgerTree 20).decision.lifted random.player (.int 20) source =
        (.ok m, last) ∧
      Match.simulate d.lifted random.player (.int 20) source = (.ok m, last) ∧
      m.moves1.reverse = List.replicate 3 .cooperate ++ List.replicate 17 .betray ∧
      last = source.after 20 := by
  intro source
  have drawing : random.player.Draws 1 := player_draws random
  have played : (Match.simulate (grudgerTree 20).decision.lifted random.player (.int 20)
      source).1.toOption.map (fun m => m.moves1.reverse) =
      some (List.replicate 3 .cooperate ++ List.replicate 17 .betray) := by decide +kernel
  obtain ⟨m, found, moves⟩ := Option.map_eq_some_iff.1 played
  obtain ⟨last, run⟩ := Work.exists_of_toOption found
  have listed : treeUnder (.text "grudger") = .ok (grudgerTree 20) := rfl
  obtain ⟨d, decided, same, drawn⟩ := trees_stand_in listed
  have first := (same random.player 20 (fun _ => Int.le_refl 20) source).1
  have numbers := (drawn _ List.mem_cons_self).2 random.player 1 drawing (.int 20) source last m
    (.inl run)
  have rounds : m.rounds = 20 := by
    rw [Match.rounds, ← List.length_reverse, moves]
    rfl
  rw [rounds] at numbers
  exact ⟨listed, drawing, d, m, last, decided, run, first ▸ run, moves, numbers⟩

end Builtin
end IteratedDilemma
