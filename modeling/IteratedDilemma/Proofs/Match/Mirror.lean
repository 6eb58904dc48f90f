import IteratedDilemma.Match
import IteratedDilemma.Strategy.Basic

/-! Matches seen from the other side. If at least one side draws no random numbers, a match with
its sides exchanged is the mirror image of the match (`play_mirror`), and so it is with trees of
which at most one uses random actions (`simulate_mirror`). Two trees that use no random action
always play the same match, whatever the source of random moves (`play_meeting`). -/
namespace IteratedDilemma
set_option autoImplicit false

/-! ## Sides that draw nothing -/

/-- The histories alone decide, and no random number is drawn. -/
def Decision.IsFixed (d : Decision Drawing) (fixed : Decision Id) : Prop :=
  ∀ own opponent source, d own opponent source = (fixed own opponent, source)

namespace LogicTree

/-- The move of a tree in which a random action counts as cooperation. -/
def fixedMove (t : LogicTree) : Decision Id := fun own opponent =>
  ((Chain.action t.clauses own opponent).move?).getD .cooperate

theorem action_ne_random {t : LogicTree} (h : t.usesRandom = false) (own opponent : History) :
    Chain.action t.clauses own opponent ≠ .random := by
  intro e
  unfold Chain.action at e
  split at e
  · next c found =>
    have used : t.usesRandom = true :=
      List.any_eq_true.2 ⟨c, List.mem_of_find?_eq_some found, decide_eq_true e⟩
    rw [h] at used
    cases used
  · cases e

theorem decide_isFixed {t : LogicTree} (h : t.usesRandom = false) :
    Decision.IsFixed (fun own opponent => t.decide own opponent) t.fixedMove := by
  intro own opponent source
  have notRandom := action_ne_random h own opponent
  change (Chain.action t.clauses own opponent).resolve source = _
  unfold fixedMove
  cases ha : Chain.action t.clauses own opponent with
  | play move => rfl
  | random => exact absurd ha notRandom

end LogicTree

namespace Match

theorem run_playOn_succ (first second : Decision Drawing) (rounds : Nat) (past : Match)
    (source : RandomSource) :
    (playOn first second (rounds + 1) past).run source =
      (playOn first second rounds ((round first second past).run source).1).run
        ((round first second past).run source).2 := rfl

/-! ## The mirror law -/

/-- A match with its sides exchanged. -/
def mirror (m : Match) : Match := ⟨m.moves2, m.moves1, m.score2, m.score1⟩

@[simp] theorem mirror_mirror (m : Match) : m.mirror.mirror = m := rfl

@[simp] theorem mirror_empty : empty.mirror = empty := rfl

theorem payoff_swap (a b : Move) : payoff b a = ⟨(payoff a b).second, (payoff a b).first⟩ := by
  cases a <;> cases b <;> rfl

theorem mirror_extend (m : Match) (a b : Move) :
    (m.extend a b).mirror = m.mirror.extend b a := by
  unfold extend mirror
  rw [payoff_swap a b]

theorem round_mirror {first second : Decision Drawing} {fixed : Decision Id}
    (h : first.IsFixed fixed) (past : Match) (source : RandomSource) :
    (round second first past.mirror).run source =
      (((round first second past).run source).1.mirror,
        ((round first second past).run source).2) := by
  have swapped : (round second first past.mirror).run source =
      (past.mirror.extend (second past.moves2 past.moves1 source).1
          (first past.moves1 past.moves2 (second past.moves2 past.moves1 source).2).1,
        (first past.moves1 past.moves2 (second past.moves2 past.moves1 source).2).2) := rfl
  have straight : (round first second past).run source =
      (past.extend (first past.moves1 past.moves2 source).1
          (second past.moves2 past.moves1 (first past.moves1 past.moves2 source).2).1,
        (second past.moves2 past.moves1 (first past.moves1 past.moves2 source).2).2) := rfl
  rw [swapped, straight, h, h, mirror_extend]

theorem playOn_mirror {first second : Decision Drawing} {fixed : Decision Id}
    (h : first.IsFixed fixed) (rounds : Nat) (past : Match) (source : RandomSource) :
    (playOn second first rounds past.mirror).run source =
      (((playOn first second rounds past).run source).1.mirror,
        ((playOn first second rounds past).run source).2) := by
  induction rounds generalizing past source with
  | zero => rfl
  | succ rounds ih =>
    rw [run_playOn_succ, run_playOn_succ, round_mirror h past source]
    exact ih _ _

/-- Exchanging the sides of a match gives its mirror image and draws the same numbers, if one side
draws none. -/
theorem play_mirror {first second : Decision Drawing} {fixed : Decision Id}
    (h : first.IsFixed fixed) (rounds : Nat) (source : RandomSource) :
    (play second first rounds).run source =
      (((play first second rounds).run source).1.mirror,
        ((play first second rounds).run source).2) :=
  playOn_mirror h rounds empty source

/-- Exchanging the sides exchanges the winners. -/
theorem winner_mirror (m : Match) :
    (m.mirror.winner = 1 ↔ m.winner = 2) ∧ (m.mirror.winner = 2 ↔ m.winner = 1) := by
  unfold winner mirror
  dsimp only
  constructor <;> split <;> split <;> omega

end Match

/-! ## Matches of trees -/

/-- A decision that always gives a move, among those that may fail. -/
def Decision.lifted (d : Decision Drawing) : Decision Attempt :=
  fun own opponent => ExceptT.lift (d own opponent)

namespace Match

theorem playOn_lifted (first second : Decision Drawing) (rounds : Nat) (past : Match)
    (source : RandomSource) :
    playOn first.lifted second.lifted rounds past source =
      (.ok ((playOn first second rounds past).run source).1,
        ((playOn first second rounds past).run source).2) := by
  induction rounds generalizing past source with
  | zero => rfl
  | succ rounds ih =>
    rw [run_playOn_succ]
    exact ih ((round first second past).run source).1 ((round first second past).run source).2

/-- A match of decisions that give moves never fails. -/
theorem simulate_lifted (first second : Decision Drawing) (rounds : Nat) (source : RandomSource) :
    simulate first.lifted second.lifted (.int rounds) source =
      (.ok ((play first second rounds).run source).1,
        ((play first second rounds).run source).2) := by
  rw [simulate_count]
  exact playOn_lifted first second rounds empty source

end Match

namespace LogicTree

/-- The decision of a tree in a match. -/
def decision (t : LogicTree) : Decision Drawing :=
  fun own opponent => t.decide own opponent

theorem play_exchanged {t1 t2 : LogicTree} (h : ¬(t1.usesRandom = true ∧ t2.usesRandom = true))
    (rounds : Nat) (source : RandomSource) :
    (Match.play t2.decision t1.decision rounds).run source =
      (((Match.play t1.decision t2.decision rounds).run source).1.mirror,
        ((Match.play t1.decision t2.decision rounds).run source).2) := by
  cases h1 : t1.usesRandom with
  | false => exact Match.play_mirror (decide_isFixed h1) rounds source
  | true =>
    have h2 : t2.usesRandom = false := Bool.eq_false_iff.2 fun h2 => h ⟨h1, h2⟩
    have fixed : t2.decision.IsFixed t2.fixedMove := decide_isFixed h2
    -- the law with the sides exchanged, read from right to left
    rw [Match.play_mirror fixed rounds source]
    rfl

/-- Exchanging two trees of which at most one uses random actions exchanges the sides of their match
and nothing else: the same random numbers are drawn. -/
theorem simulate_mirror {t1 t2 : LogicTree} (h : ¬(t1.usesRandom = true ∧ t2.usesRandom = true))
    (rounds : Nat) (source : RandomSource) :
    ∃ m last,
      Match.simulate t1.decision.lifted t2.decision.lifted (.int rounds) source = (.ok m, last) ∧
      Match.simulate t2.decision.lifted t1.decision.lifted (.int rounds) source =
        (.ok m.mirror, last) ∧
      (m.mirror.winner = 1 ↔ m.winner = 2) ∧ (m.mirror.winner = 2 ↔ m.winner = 1) := by
  refine ⟨_, _, Match.simulate_lifted _ _ rounds source, ?_, Match.winner_mirror _⟩
  rw [Match.simulate_lifted, play_exchanged h rounds source]

theorem simulate_mirror_random :
    let random := Builtin.random.tree
    let titForTat := Builtin.titForTat.tree
    let source := RandomSource.ofNumbers [3 / 4, 1 / 4]
    ¬(random.usesRandom = true ∧ titForTat.usesRandom = true) ∧
    ∃ m last,
      Match.simulate random.decision.lifted titForTat.decision.lifted (.int 3) source =
        (.ok m, last) ∧
      Match.simulate titForTat.decision.lifted random.decision.lifted (.int 3) source =
        (.ok m.mirror, last) ∧
      m.winner = 1 ∧ m.mirror.winner = 2 := by
  intro random titForTat source
  have apart : ¬(random.usesRandom = true ∧ titForTat.usesRandom = true) := by decide +kernel
  have won : (Match.simulate random.decision.lifted titForTat.decision.lifted (.int 3)
      source).1.toOption.map Match.winner = some 1 := by decide +kernel
  obtain ⟨m, last, straight, swapped, -, loser⟩ := simulate_mirror apart 3 source
  have e : m.winner = 1 := by
    rw [show (3 : Int) = ((3 : Nat) : Int) from rfl, straight] at won
    exact Option.some.inj won
  exact ⟨apart, m, last, straight, swapped, e, loser.2 e⟩

end LogicTree

namespace Match

/-! ## Matches without random moves -/

theorem playOn_isFixed {first second : Decision Drawing} {fixed1 fixed2 : Decision Id}
    (h1 : first.IsFixed fixed1) (h2 : second.IsFixed fixed2) (rounds : Nat) (past : Match)
    (source : RandomSource) :
    (playOn first second rounds past).run source =
      ((playOn fixed1 fixed2 rounds past).run, source) := by
  induction rounds generalizing past with
  | zero => rfl
  | succ rounds ih =>
    have one : (round first second past).run source =
        ((round fixed1 fixed2 past).run, source) := by
      change (past.extend (first past.moves1 past.moves2 source).1
          (second past.moves2 past.moves1 (first past.moves1 past.moves2 source).2).1,
        (second past.moves2 past.moves1 (first past.moves1 past.moves2 source).2).2) = _
      rw [h1, h2]
      rfl
    rw [run_playOn_succ, one]
    exact ih _

end Match

/-- The match of two trees in which random actions count as cooperation. -/
def LogicTree.meeting (first second : LogicTree) (rounds : Nat) : Match :=
  (Match.play first.fixedMove second.fixedMove rounds).run

namespace Match

/-- Trees without random actions play one and the same match at any time. -/
theorem play_meeting {s t : Strategy} (hs : s.tree.usesRandom = false)
    (ht : t.tree.usesRandom = false) (rounds : Nat) (source : RandomSource) :
    (play s.decision t.decision rounds).run source = (s.tree.meeting t.tree rounds, source) :=
  playOn_isFixed (LogicTree.decide_isFixed hs) (LogicTree.decide_isFixed ht) rounds empty source

end Match

theorem LogicTree.meeting_mirror (first second : LogicTree) (rounds : Nat) :
    second.meeting first rounds = (first.meeting second rounds).mirror := by
  let drawing (t : LogicTree) : Decision Drawing :=
    fun own opponent source => (t.fixedMove own opponent, source)
  have fixed (t : LogicTree) : (drawing t).IsFixed t.fixedMove := fun _ _ _ => rfl
  have law : (Match.play (drawing second) (drawing first) rounds).run (.ofNumbers []) = _ :=
    Match.play_mirror (fixed first) rounds (.ofNumbers [])
  have left := Match.playOn_isFixed (fixed second) (fixed first) rounds .empty (.ofNumbers [])
  have right := Match.playOn_isFixed (fixed first) (fixed second) rounds .empty (.ofNumbers [])
  rw [Match.play, Match.play, left, right] at law
  exact congrArg Prod.fst law

end IteratedDilemma
