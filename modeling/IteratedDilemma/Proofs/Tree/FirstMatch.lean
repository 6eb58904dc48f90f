import IteratedDilemma.Proofs.Match.Rounds
import IteratedDilemma.Proofs.Match.Simultaneous
import IteratedDilemma.Proofs.Tree.Reachable

/-! The first clause that matches decides, and nothing else does. A tree draws a number only where
its winning clause gambles, so a match draws as many numbers as it has decisions that were won by a
random action. Main statement: `LogicTree.first_match_decides`. -/
namespace IteratedDilemma
set_option autoImplicit false

/-! ## Clauses that are satisfied -/

namespace Clause

/-- A fallback asks for nothing. Any other clause asks for conditions, and that all of them hold or
that one of them does. -/
def IsSatisfied (c : Clause) (own opponent : History) : Prop :=
  c.role = .fallback ∨ c.conditions ≠ [] ∧
    match c.mode with
    | .all => ∀ d ∈ c.conditions, d.holds own opponent = true
    | .any => ∃ d ∈ c.conditions, d.holds own opponent = true

variable {c : Clause} {own opponent : History}

theorem isMet_iff : c.isMet own opponent = true ↔ c.IsSatisfied own opponent := by
  by_cases fallback : c.role = .fallback
  · exact iff_of_true (Chain.isMet_of_fallback own opponent fallback) (.inl fallback)
  · have asks : c.isMet own opponent = (!c.conditions.isEmpty &&
        match c.mode with
        | .all => c.conditions.all fun d => d.holds own opponent
        | .any => c.conditions.any fun d => d.holds own opponent) := by
      unfold isMet
      split
      · contradiction
      · rfl
    rw [asks, IsSatisfied, or_iff_right fallback, Bool.and_eq_true, Bool.not_eq_true',
      List.isEmpty_eq_false_iff]
    refine and_congr_right fun _ => ?_
    cases c.mode with
    | all => exact List.all_eq_true
    | any => exact List.any_eq_true

theorem isMet_eq_false_iff : c.isMet own opponent = false ↔ ¬c.IsSatisfied own opponent := by
  rw [← isMet_iff, Bool.not_eq_true]

end Clause

theorem Condition.holds_unknown {d : Condition} (unknown : d.kind.isKnown = false)
    (own opponent : History) : d.holds own opponent = false := by
  obtain ⟨kind, n, target⟩ := d
  cases kind with
  | known kind => cases unknown
  | unknown name unlisted => rfl

namespace LogicTree

variable {t : LogicTree} {own opponent : History}

/-! ## The winning clause -/

/-- The clause stands at this place and is satisfied, and none before it is. -/
structure Wins (t : LogicTree) (i : Nat) (c : Clause) (own opponent : History) : Prop where
  there : t.clauses[i]? = some c
  satisfied : c.IsSatisfied own opponent
  first : ∀ j d, j < i → t.clauses[j]? = some d → ¬d.IsSatisfied own opponent

theorem deciding?_eq_some {i : Nat} :
    t.deciding? own opponent = some i ↔ ∃ c, t.Wins i c own opponent := by
  rw [deciding?, Chain.firstMet?, List.findIdx?_eq_some_iff_getElem]
  constructor
  · rintro ⟨within, met, first⟩
    refine ⟨t.clauses[i], List.getElem?_eq_getElem within, Clause.isMet_iff.1 met,
      fun j d before there => ?_⟩
    obtain ⟨_, rfl⟩ := List.getElem?_eq_some_iff.1 there
    exact fun satisfied => first j before (Clause.isMet_iff.2 satisfied)
  · rintro ⟨c, there, satisfied, first⟩
    obtain ⟨within, rfl⟩ := List.getElem?_eq_some_iff.1 there
    refine ⟨within, Clause.isMet_iff.2 satisfied, fun j before met => ?_⟩
    exact first j _ before (List.getElem?_eq_getElem _) (Clause.isMet_iff.1 met)

theorem deciding?_eq_none :
    t.deciding? own opponent = none ↔ ∀ c ∈ t.clauses, ¬c.IsSatisfied own opponent := by
  rw [deciding?, Chain.firstMet?, List.findIdx?_eq_none_iff]
  simp only [Clause.isMet_eq_false_iff]

/-- With a fallback there always is a winner. -/
theorem deciding?_ne_none (fallback : t.hasFallback = true) :
    t.deciding? own opponent ≠ none := fun absent => by
  obtain ⟨c, member, role⟩ := List.any_eq_true.1 fallback
  exact deciding?_eq_none.1 absent c member (.inl (of_decide_eq_true role))

/-- The clause that wins. -/
def winner? (t : LogicTree) (own opponent : History) : Option Clause :=
  (t.deciding? own opponent).bind (t.clauses[·]?)

theorem find?_eq_winner? (t : LogicTree) (own opponent : History) :
    (t.clauses.find? fun c => c.isMet own opponent) = t.winner? own opponent :=
  List.find?_eq_bind_findIdx?_getElem?

theorem winner?_of_wins {i : Nat} {c : Clause} (wins : t.Wins i c own opponent) :
    t.winner? own opponent = some c := by
  rw [winner?, deciding?_eq_some.2 ⟨c, wins⟩]
  exact wins.there

theorem decide_of_wins {i : Nat} {c : Clause} (wins : t.Wins i c own opponent)
    (source : RandomSource) : t.decide own opponent source = c.action.resolve source := by
  rw [decide, Chain.action, find?_eq_winner?, winner?_of_wins wins]

theorem decide_of_none (absent : t.deciding? own opponent = none) (source : RandomSource) :
    t.decide own opponent source = (.cooperate, source) := by
  rw [decide, Chain.action, find?_eq_winner?, winner?, absent]
  rfl

/-! ## Draws -/

/-- The winning clause leaves the move to chance. -/
def gambles (t : LogicTree) (own opponent : History) : Bool :=
  (t.winner? own opponent).any fun c => c.action = .random

theorem gambles_iff : t.gambles own opponent = true ↔
    ∃ i c, t.Wins i c own opponent ∧ c.action = .random := by
  constructor
  · intro chance
    rcases decides : t.deciding? own opponent with _ | i
    · rw [gambles, winner?, decides] at chance
      cases chance
    · obtain ⟨c, wins⟩ := deciding?_eq_some.1 decides
      rw [gambles, winner?_of_wins wins] at chance
      exact ⟨i, c, wins, of_decide_eq_true chance⟩
  · rintro ⟨i, c, wins, random⟩
    rw [gambles, winner?_of_wins wins]
    exact decide_eq_true random

/-- A decision draws one number where it is left to chance, and otherwise none. -/
theorem decide_draws (t : LogicTree) (own opponent : History) (source : RandomSource) :
    (t.decide own opponent source).2 = source.after (t.gambles own opponent).toNat := by
  rw [decide, Chain.action, find?_eq_winner?, gambles]
  rcases t.winner? own opponent with _ | ⟨role, conditions, mode, move | _⟩ <;> rfl

/-- How many decisions of a match are left to chance on one side, if these are the moves of this
side and of the other, the oldest first. -/
def gamblesIn (t : LogicTree) (own opponent : List Move) : Nat :=
  (List.range own.length).countP fun i => t.gambles (own.take i).reverse (opponent.take i).reverse

theorem gamblesIn_concat (t : LogicTree) {own opponent : List Move}
    (lengths : own.length = opponent.length) (a b : Move) :
    t.gamblesIn (own ++ [a]) (opponent ++ [b]) =
      t.gamblesIn own opponent + (t.gambles own.reverse opponent.reverse).toNat := by
  have old {i : Nat} (h : i ∈ List.range own.length) :
      t.gambles ((own ++ [a]).take i).reverse ((opponent ++ [b]).take i).reverse =
        t.gambles (own.take i).reverse (opponent.take i).reverse := by
    have within := List.mem_range.1 h
    rw [List.take_append_of_le_length (Nat.le_of_lt within),
      List.take_append_of_le_length (by omega)]
  have earlier := List.countP_congr fun i h => Bool.eq_iff_iff.1 (old h)
  rw [gamblesIn, List.length_append, List.length_singleton, List.range_succ, List.countP_append,
    earlier, List.countP_singleton, List.take_left' rfl, List.take_left' lengths.symm]
  cases t.gambles own.reverse opponent.reverse <;> rfl

/-- What a match of two trees has drawn: a number for each decision of either side that was left to
chance. -/
structure HasDrawn (first second : LogicTree) (source : RandomSource) (m : Match)
    (last : RandomSource) : Prop where
  lengths : m.moves1.length = m.moves2.length
  draws : last = source.after (first.gamblesIn m.moves1.reverse m.moves2.reverse +
    second.gamblesIn m.moves2.reverse m.moves1.reverse)

theorem hasDrawn_keeps (first second : LogicTree) (source : RandomSource) :
    Match.Keeps first.decision.lifted second.decision.lifted (first.HasDrawn second source) := by
  rintro past before between last a b ⟨lengths, draws⟩ one two
  have own : (first.decide past.moves1 past.moves2 before).2 = between := congrArg Prod.snd one
  have theirs : (second.decide past.moves2 past.moves1 between).2 = last := congrArg Prod.snd two
  rw [decide_draws] at own theirs
  have reversed : past.moves1.reverse.length = past.moves2.reverse.length := by
    rw [List.length_reverse, List.length_reverse, lengths]
  refine ⟨congrArg Nat.succ lengths, ?_⟩
  rw [Match.extend, List.reverse_cons, List.reverse_cons, gamblesIn_concat _ reversed,
    gamblesIn_concat _ reversed.symm, List.reverse_reverse, List.reverse_reverse, ← theirs, ← own,
    draws, RandomSource.after_after, RandomSource.after_after]
  congr 1
  omega

/-- A match of two trees is played to its end, and draws for nothing else. -/
theorem simulate_hasDrawn (first second : LogicTree) (rounds : Nat) (source : RandomSource) :
    ∃ m last, Match.simulate first.decision.lifted second.decision.lifted (.int rounds) source =
        (.ok m, last) ∧ m.rounds = rounds ∧ first.HasDrawn second source m last := by
  obtain ⟨m, last, played⟩ := Match.exists_of_isSound
    (Answering.ofDecision_isSound first.decision) (Answering.ofDecision_isSound second.decision)
    rounds source
  have length := (Match.play_eq_ok.1 played).length1
  rw [Answering.decision_ofDecision, Answering.decision_ofDecision,
    ← Match.simulate_count] at played
  exact ⟨m, last, played, length,
    Match.simulate_keeps (hasDrawn_keeps first second source) ⟨rfl, rfl⟩ played⟩

/-- The clause that decides is the first that is satisfied; there is none exactly if no clause is,
which cannot be with a fallback, and conditions of unknown kinds do not count. Without a winner the
tree cooperates. Else the winning clause makes its move, and draws one number for it if it leaves it
to chance and none if it does not. So a match of two trees draws one number for each decision that
a random action has won. -/
theorem first_match_decides (t : LogicTree) :
    (∀ own opponent : History,
      (∀ i, t.deciding? own opponent = some i ↔ ∃ c, t.Wins i c own opponent) ∧
      (t.deciding? own opponent = none ↔ ∀ c ∈ t.clauses, ¬c.IsSatisfied own opponent) ∧
      (t.hasFallback = true → t.deciding? own opponent ≠ none) ∧
      (∀ d : Condition, d.kind.isKnown = false → d.holds own opponent = false) ∧
      (t.gambles own opponent = true ↔
        ∃ i c, t.Wins i c own opponent ∧ c.action = .random) ∧
      ∀ source : RandomSource,
        (t.deciding? own opponent = none → t.decide own opponent source = (.cooperate, source)) ∧
        ∀ i c, t.Wins i c own opponent →
          (∀ move, c.action = .play move → t.decide own opponent source = (move, source)) ∧
          (c.action = .random →
            t.decide own opponent source =
              (if source.draw.1 < 1 / 2 then .cooperate else .betray, source.draw.2))) ∧
    ∀ (other : LogicTree) (rounds : Nat) (source : RandomSource), ∃ m last,
      Match.simulate t.decision.lifted other.decision.lifted (.int rounds) source =
        (.ok m, last) ∧
      m.rounds = rounds ∧ t.HasDrawn other source m last ∧
      last.drawn = source.drawn + (t.gamblesIn m.moves1.reverse m.moves2.reverse +
        other.gamblesIn m.moves2.reverse m.moves1.reverse) := by
  refine ⟨fun own opponent => ⟨fun i => deciding?_eq_some, deciding?_eq_none, deciding?_ne_none,
    fun d unknown => Condition.holds_unknown unknown own opponent, gambles_iff, fun source =>
      ⟨fun absent => decide_of_none absent source, fun i c wins => ⟨fun move fixed => ?_,
        fun random => ?_⟩⟩⟩, fun other rounds source => ?_⟩
  · rw [decide_of_wins wins, fixed]
    rfl
  · rw [decide_of_wins wins, random]
    rfl
  · obtain ⟨m, last, played, length, drawn⟩ := t.simulate_hasDrawn other rounds source
    refine ⟨m, last, played, length, drawn, ?_⟩
    rw [drawn.draws, RandomSource.drawn_after]

/-- A tree in which only the first of three random clauses can win: the second has no conditions,
and the third one of a kind that is not known. -/
def wary : LogicTree where
  clauses :=
    [⟨.opening, [Builtin.opponentLast .betray], .all, .random⟩,
      ⟨.alternative, [], .all, .random⟩,
      ⟨.alternative, [⟨.ofName "moon", 1, .cooperate⟩], .any, .random⟩,
      ⟨.fallback, [], .all, .play .cooperate⟩]
  sound := by rfl

/-- Against random moves it draws a number after a betrayal, and else cooperates. -/
theorem first_match_decides_wary :
    wary.deciding? [] [] = some 3 ∧ wary.deciding? [.cooperate] [.betray] = some 0 ∧
    ∃ m last, Match.simulate wary.decision.lifted Builtin.random.tree.decision.lifted (.int 3)
        (.ofNumbers [1 / 4, 3 / 4]) = (.ok m, last) ∧
      m.moves1.reverse = [.cooperate, .cooperate, .cooperate] ∧
      m.moves2.reverse = [.cooperate, .betray, .betray] ∧ last.drawn = 4 := by
  have moves : (Match.simulate wary.decision.lifted Builtin.random.tree.decision.lifted (.int 3)
      (.ofNumbers [1 / 4, 3 / 4])).1.toOption.map (fun m => (m.moves1.reverse, m.moves2.reverse)) =
        some ([.cooperate, .cooperate, .cooperate], [.cooperate, .betray, .betray]) := by
    decide +kernel
  obtain ⟨m, last, run, -, -, drawn⟩ :=
    (first_match_decides wary).2 Builtin.random.tree 3 (.ofNumbers [1 / 4, 3 / 4])
  rw [show ((3 : Nat) : Int) = 3 from rfl] at run
  rw [run] at moves
  obtain ⟨moves1, moves2⟩ := Prod.mk.inj (Option.some.inj moves)
  rw [moves1, moves2] at drawn
  have chances :
      wary.gamblesIn [.cooperate, .cooperate, .cooperate] [.cooperate, .betray, .betray] +
        Builtin.random.tree.gamblesIn [.cooperate, .betray, .betray]
          [.cooperate, .cooperate, .cooperate] = 4 := by decide +kernel
  rw [chances] at drawn
  exact ⟨by decide +kernel, by decide +kernel, m, last, run, moves1, moves2, drawn⟩

end LogicTree
end IteratedDilemma
