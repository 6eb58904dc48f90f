import IteratedDilemma.Proofs.Match.Simultaneous
import IteratedDilemma.Strategy.Builtin

/-! Points and betrayals. In each round a betrayal moves the lead by two points, and two points are
paid unless both sides betray. Main statement: so a match is won by the side that betrays more
often, by two points for each betrayal more, and its points are two for each round without a mutual
betrayal (`Match.betrayals_decide`). -/
namespace IteratedDilemma
set_option autoImplicit false

/-! ## One round -/

theorem payoff_lead (a b : Move) :
    (payoff a b).first + 2 * (if b = .betray then 1 else 0) =
      (payoff a b).second + 2 * (if a = .betray then 1 else 0) := by
  cases a <;> cases b <;> rfl

theorem payoff_total (a b : Move) :
    (payoff a b).first + (payoff a b).second + 2 * (if (a, b) = (.betray, .betray) then 1 else 0) =
      2 := by
  cases a <;> cases b <;> rfl

/-! ## All rounds -/

theorem pointsOver_cons (side : Payoff → Nat) (a b : Move) (rest1 rest2 : List Move) :
    pointsOver side (a :: rest1) (b :: rest2) =
      side (payoff a b) + pointsOver side rest1 rest2 := rfl

/-- Each betrayal is worth a lead of two points. -/
theorem pointsOver_lead {moves1 moves2 : List Move} (lengths : moves1.length = moves2.length) :
    pointsOver Payoff.first moves1 moves2 + 2 * moves2.count .betray =
      pointsOver Payoff.second moves1 moves2 + 2 * moves1.count .betray := by
  induction moves1 generalizing moves2 with
  | nil =>
    rw [List.eq_nil_of_length_eq_zero lengths.symm]
    rfl
  | cons a rest1 ih =>
    obtain ⟨b, rest2, rfl⟩ := List.exists_cons_of_length_eq_add_one lengths.symm
    have round := payoff_lead a b
    have rest := ih (Nat.succ.inj lengths)
    simp only [pointsOver_cons, List.count_cons, beq_iff_eq]
    omega

/-- Each round pays two points to both sides together, unless both betray. -/
theorem pointsOver_total {moves1 moves2 : List Move} (lengths : moves1.length = moves2.length) :
    pointsOver Payoff.first moves1 moves2 + pointsOver Payoff.second moves1 moves2 +
      2 * (moves1.zip moves2).count (.betray, .betray) = 2 * moves1.length := by
  induction moves1 generalizing moves2 with
  | nil => rfl
  | cons a rest1 ih =>
    obtain ⟨b, rest2, rfl⟩ := List.exists_cons_of_length_eq_add_one lengths.symm
    have round := payoff_total a b
    have rest := ih (Nat.succ.inj lengths)
    simp only [pointsOver_cons, List.zip_cons_cons, List.count_cons, List.length_cons, beq_iff_eq]
    omega

namespace Match

variable {first second : Answering} {source last : RandomSource} {count : Nat} {m : Match}

theorem IsSimultaneous.lengths (h : m.IsSimultaneous first second count source last) :
    m.moves1.reverse.length = m.moves2.reverse.length := by
  rw [List.length_reverse, List.length_reverse, h.length1, h.length2]

theorem IsSimultaneous.lead (h : m.IsSimultaneous first second count source last) :
    m.score1 + 2 * m.moves2.count .betray = m.score2 + 2 * m.moves1.count .betray := by
  have lead := pointsOver_lead h.lengths
  rwa [← h.score1, ← h.score2, List.count_reverse, List.count_reverse] at lead

theorem IsSimultaneous.total (h : m.IsSimultaneous first second count source last) :
    m.score1 + m.score2 + 2 * (m.moves1.reverse.zip m.moves2.reverse).count (.betray, .betray) =
      2 * count := by
  have total := pointsOver_total h.lengths
  rwa [← h.score1, ← h.score2, List.length_reverse, h.length1] at total

theorem winner_iff (m : Match) : (m.winner = 1 ↔ m.score2 < m.score1) ∧
    (m.winner = 2 ↔ m.score1 < m.score2) ∧ (m.winner = 0 ↔ m.score1 = m.score2) := by
  unfold winner
  grind

/-- Two players who answer moves come to a match of as many rounds as asked for. The lead is two
points for each betrayal more, so the side that betrays more often wins; both sides together have
two points for each round in which not both betray; and no side has more than two points a round. -/
theorem betrayals_decide (sound1 : first.IsSound) (sound2 : second.IsSound) (rounds : Nat)
    (source : RandomSource) :
    ∃ m last, simulate first.decision second.decision (.int rounds) source = (.ok m, last) ∧
      m.moves1.length = rounds ∧ m.moves2.length = rounds ∧
      (m.score1 : Int) - m.score2 = 2 * ((m.moves1.count .betray : Int) - m.moves2.count .betray) ∧
      (m.winner = 1 ↔ m.moves2.count .betray < m.moves1.count .betray) ∧
      (m.winner = 2 ↔ m.moves1.count .betray < m.moves2.count .betray) ∧
      (m.winner = 0 ↔ m.moves1.count .betray = m.moves2.count .betray) ∧
      (m.score1 : Int) + m.score2 = 2 * ((rounds : Int) -
        (m.moves1.reverse.zip m.moves2.reverse).count (.betray, .betray)) ∧
      m.score1 ≤ 2 * rounds ∧ m.score2 ≤ 2 * rounds := by
  obtain ⟨m, last, played⟩ := exists_of_isSound sound1 sound2 rounds source
  have simultaneous := play_eq_ok.1 played
  have lead := simultaneous.lead
  have total := simultaneous.total
  obtain ⟨wins1, wins2, draws⟩ := m.winner_iff
  refine ⟨m, last, ?_, simultaneous.length1, simultaneous.length2, by omega,
    wins1.trans (by omega), wins2.trans (by omega), draws.trans (by omega), by omega,
    simultaneous.scores_le⟩
  rw [simulate_count, played]

/-- A traitor against one who betrays in return: only the first round pays. -/
theorem betrayals_decide_traitor :
    let source := RandomSource.ofNumbers []
    let traitor := Answering.ofDecision Builtin.alwaysBetray.decision
    let avenger := Answering.ofDecision Builtin.titForTat.decision
    traitor.IsSound ∧ avenger.IsSound ∧ ∃ m last,
      simulate traitor.decision avenger.decision (.int 4) source = (.ok m, last) ∧
      m.moves1.count .betray = 4 ∧ m.moves2.count .betray = 3 ∧
      (m.score1 : Int) - m.score2 = 2 ∧ (m.score1 : Int) + m.score2 = 2 ∧ m.winner = 1 := by
  intro source traitor avenger
  have sound1 := Answering.ofDecision_isSound Builtin.alwaysBetray.decision
  have sound2 := Answering.ofDecision_isSound Builtin.titForTat.decision
  have moves : (simulate traitor.decision avenger.decision (.int 4) source).1.toOption.map
      (fun m => (m.moves1, m.moves2)) = some ([.betray, .betray, .betray, .betray],
        [.betray, .betray, .betray, .cooperate]) := by decide +kernel
  obtain ⟨m, last, run, -, -, lead, winner, -, -, total, -⟩ :=
    betrayals_decide sound1 sound2 4 source
  rw [show ((4 : Nat) : Int) = 4 from rfl] at run total
  rw [run] at moves
  obtain ⟨moves1, moves2⟩ := Prod.mk.inj (Option.some.inj moves)
  rw [moves1, moves2] at lead winner total
  refine ⟨sound1, sound2, m, last, run, ?_, ?_, lead, total, winner.2 (by decide)⟩
  · rw [moves1]
    rfl
  · rw [moves2]
    rfl

end Match
end IteratedDilemma
