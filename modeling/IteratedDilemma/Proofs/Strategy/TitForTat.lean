import IteratedDilemma.Proofs.Match.Betrayals
import IteratedDilemma.Proofs.Strategy.StandIns

/-! Tit for tat: cooperation first, and then what the other side did a round before. Whoever plays
so, as a function or as a tree, has betrayed as often as the other side, its last move left out; so
it never wins, and loses by two points at most. Main statement: so it is on either side of a match
and against anybody, and nobody betrays in a match of two who are ready to cooperate
(`Builtin.titForTat_repays`). -/
namespace IteratedDilemma
set_option autoImplicit false

/-! ## Echoes -/

theorem History.last_take_succ {moves : List Move} {i : Nat} (h : i < moves.length) :
    History.last (moves.take (i + 1)).reverse = moves[i] := by
  rw [← List.take_concat_get' moves i h, List.reverse_append]
  rfl

/-- Both sides' moves, the oldest first, and their points: one side has cooperated first and then
repeated the other side's moves a round later, and it is two points behind if the other side
betrayed last. -/
structure Echoes (own opponent : List Move) (ownScore otherScore : Nat) : Prop where
  moves : own = (.cooperate :: opponent).dropLast
  behind : (otherScore : Int) - ownScore = if opponent.getLast? = some .betray then 2 else 0

theorem eq_of_repeats {own opponent : List Move} (lengths : own.length = opponent.length)
    (repeats : ∀ (i : Nat) (h : i < own.length),
      own[i] = History.last (opponent.take i).reverse) :
    own = (.cooperate :: opponent).dropLast := by
  refine List.ext_getElem (by simp [lengths]) fun i h1 h2 => ?_
  rw [repeats i h1, List.getElem_dropLast]
  cases i with
  | zero => rfl
  | succ i =>
    rw [History.last_take_succ (by omega)]
    rfl

/-- An echo lacks the last betrayal. -/
theorem count_echo (opponent : List Move) :
    ((Move.cooperate :: opponent).dropLast).count .betray +
      (if opponent.getLast? = some .betray then 1 else 0) = opponent.count .betray := by
  rcases List.eq_nil_or_concat opponent with rfl | ⟨before, last, rfl⟩
  · rfl
  · rw [List.concat_eq_append, ← List.cons_append, List.dropLast_concat, List.getLast?_concat,
      List.count_append]
    cases last <;> simp

theorem echoes_of_lead {own opponent : List Move} {ownScore otherScore : Nat}
    (moves : own = (.cooperate :: opponent).dropLast)
    (lead : ownScore + 2 * opponent.count .betray = otherScore + 2 * own.count .betray) :
    Echoes own opponent ownScore otherScore := by
  have betrayals := count_echo opponent
  rw [← moves] at betrayals
  refine ⟨moves, ?_⟩
  split_ifs at betrayals ⊢ <;> omega

/-- Whoever echoes has no more points than the other side. -/
theorem Echoes.le {own opponent : List Move} {ownScore otherScore : Nat}
    (h : Echoes own opponent ownScore otherScore) : ownScore ≤ otherScore := by
  have behind := h.behind
  split_ifs at behind <;> omega

/-! ## Peace -/

namespace Decision

/-- Cooperates as long as both sides have done nothing else. -/
def IsFriendly (d : Decision Attempt) : Prop :=
  ∀ n source, ∃ last,
    d (List.replicate n .cooperate) (List.replicate n .cooperate) source = (.ok .cooperate, last)

end Decision

namespace Match

/-- A match in which nobody betrays. -/
def peace (rounds : Nat) : Match :=
  ⟨List.replicate rounds .cooperate, List.replicate rounds .cooperate, rounds, rounds⟩

/-- Nobody is the first to betray in a match of two who are friendly. -/
theorem play_friendly {first second : Decision Attempt} (friendly1 : first.IsFriendly)
    (friendly2 : second.IsFriendly) (rounds : Nat) (source : RandomSource) :
    ∃ last, play first second rounds source = (.ok (peace rounds), last) := by
  induction rounds with
  | zero => exact ⟨source, rfl⟩
  | succ rounds ih =>
    obtain ⟨before, past⟩ := ih
    obtain ⟨between, one⟩ := friendly1 rounds before
    obtain ⟨last, two⟩ := friendly2 rounds between
    refine ⟨last, ?_⟩
    rw [play_succ, Work.bind_of_ok past]
    exact (Work.bind_of_ok one).trans (Work.bind_of_ok two)

end Match

/-! ## Tit for tat -/

namespace Builtin

/-- The function and the tree. -/
def titForTats : List (Decision Attempt) := [titForTat.player, titForTat.tree.decision.lifted]

theorem eq_player_of_mem {player : Decision Attempt} (h : player ∈ titForTats) :
    player = titForTat.player := by
  rcases List.mem_pair.1 h with rfl | rfl
  · rfl
  · have same : titForTat.tree.decision = titForTat.decision :=
      funext fun own => funext fun opponent => funext (decide_titForTatTree own opponent)
    exact congrArg Decision.lifted same

theorem isFriendly_titForTat : titForTat.player.IsFriendly := fun n source => by
  refine ⟨source, ?_⟩
  cases n <;> rfl

theorem isFriendly_grudger : grudger.player.IsFriendly := fun n source => by
  have loyal : Move.betray ∉ List.replicate n Move.cooperate :=
    fun h => Move.noConfusion (List.eq_of_mem_replicate h)
  refine ⟨source, ?_⟩
  rw [player_apply, decision_grudger, if_neg loyal]

/-- Tit for tat as a player who answers words. -/
def repeater : Answering := .ofDecision titForTat.decision

theorem decision_repeater : repeater.decision = titForTat.player :=
  Answering.decision_ofDecision _

theorem eq_last_of_plays {own opponent : List Move} {source after : RandomSource} {move : Move}
    (h : repeater.Plays own opponent source move after) :
    move = History.last opponent.reverse := by
  obtain ⟨value, answered, read⟩ := h
  cases answered
  rw [Move.ofJson_toJson] at read
  cases read
  rfl

variable {opponent : Answering} {count : Nat} {source last : RandomSource} {m : Match}

theorem echoes_first (h : m.IsSimultaneous repeater opponent count source last) :
    Echoes m.moves1.reverse m.moves2.reverse m.score1 m.score2 := by
  obtain ⟨sources, -, -, answered⟩ := h.threads
  refine echoes_of_lead (eq_of_repeats h.lengths fun i hi => ?_) ?_
  · obtain ⟨between, own, -⟩ := answered i hi (h.lengths ▸ hi)
    exact eq_last_of_plays own
  · rw [List.count_reverse, List.count_reverse]
    exact h.lead

theorem echoes_second (h : m.IsSimultaneous opponent repeater count source last) :
    Echoes m.moves2.reverse m.moves1.reverse m.score2 m.score1 := by
  obtain ⟨sources, -, -, answered⟩ := h.threads
  refine echoes_of_lead (eq_of_repeats h.lengths.symm fun i hi => ?_) ?_
  · obtain ⟨between, -, own⟩ := answered i (h.lengths ▸ hi) hi
    exact eq_last_of_plays own
  · rw [List.count_reverse, List.count_reverse]
    exact h.lead.symm

/-- Tit for tat, as a function or as a tree, on either side and against anybody who answers moves:
it cooperates first and then repeats what the other side did a round before, so it is two points
behind if the other side betrayed last and else even, and never wins. Against anybody who cooperates
as long as nobody has betrayed, itself included, both cooperate in every round. -/
theorem titForTat_repays (rounds : Nat) (source : RandomSource) {player : Decision Attempt}
    (either : player ∈ titForTats) :
    (∀ opponent : Answering, opponent.IsSound →
      (∃ m last, Match.simulate player opponent.decision (.int rounds) source = (.ok m, last) ∧
        m.rounds = rounds ∧ Echoes m.moves1.reverse m.moves2.reverse m.score1 m.score2 ∧
        m.winner ≠ 1) ∧
      ∃ m last, Match.simulate opponent.decision player (.int rounds) source = (.ok m, last) ∧
        m.rounds = rounds ∧ Echoes m.moves2.reverse m.moves1.reverse m.score2 m.score1 ∧
        m.winner ≠ 2) ∧
    (∀ friend : Decision Attempt, friend.IsFriendly →
      (∃ last, Match.simulate player friend (.int rounds) source =
        (.ok (Match.peace rounds), last)) ∧
      ∃ last, Match.simulate friend player (.int rounds) source =
        (.ok (Match.peace rounds), last)) ∧
    ∀ other ∈ titForTats, ∃ last,
      Match.simulate player other (.int rounds) source = (.ok (Match.peace rounds), last) := by
  rw [eq_player_of_mem either]
  simp only [Match.simulate_count]
  refine ⟨fun opponent sound => ?_, fun friend friendly => ?_, fun other either => ?_⟩
  · have repeats : repeater.IsSound := Answering.ofDecision_isSound _
    constructor
    · obtain ⟨m, last, played⟩ := Match.exists_of_isSound repeats sound rounds source
      have simultaneous := Match.play_eq_ok.1 played
      have echoes := echoes_first simultaneous
      rw [decision_repeater] at played
      refine ⟨m, last, played, simultaneous.length1, echoes, fun won => ?_⟩
      exact absurd (m.winner_iff.1.1 won) (Nat.not_lt.2 echoes.le)
    · obtain ⟨m, last, played⟩ := Match.exists_of_isSound sound repeats rounds source
      have simultaneous := Match.play_eq_ok.1 played
      have echoes := echoes_second simultaneous
      rw [decision_repeater] at played
      refine ⟨m, last, played, simultaneous.length1, echoes, fun won => ?_⟩
      exact absurd (m.winner_iff.2.1.1 won) (Nat.not_lt.2 echoes.le)
  · exact ⟨Match.play_friendly isFriendly_titForTat friendly rounds source,
      Match.play_friendly friendly isFriendly_titForTat rounds source⟩
  · rw [eq_player_of_mem either]
    exact Match.play_friendly isFriendly_titForTat isFriendly_titForTat rounds source

/-- The tree against random moves that end in a betrayal, and against a grudge that sleeps on. -/
theorem titForTat_repays_random :
    let tree := titForTat.tree.decision.lifted
    let gambler := Answering.ofDecision random.decision
    let source := RandomSource.ofNumbers [1 / 4, 3 / 4, 3 / 4]
    tree ∈ titForTats ∧ gambler.IsSound ∧ grudger.player.IsFriendly ∧
    (∃ m last, Match.simulate tree gambler.decision (.int 3) source = (.ok m, last) ∧
      m.moves1.reverse = [.cooperate, .cooperate, .betray] ∧
      (m.score2 : Int) - m.score1 = 2 ∧ m.winner ≠ 1) ∧
    ∃ last, Match.simulate tree grudger.player (.int 3) source = (.ok (Match.peace 3), last) := by
  intro tree gambler source
  have either : tree ∈ titForTats := List.mem_pair.2 (.inr rfl)
  have sound : gambler.IsSound := Answering.ofDecision_isSound _
  obtain ⟨repays, peaceful, -⟩ := titForTat_repays 3 source either
  obtain ⟨m, last, run, -, echoes, never⟩ := (repays gambler sound).1
  have theirs : (Match.simulate tree gambler.decision (.int 3) source).1.toOption.map
      (fun m => m.moves2.reverse) = some [.cooperate, .betray, .betray] := by decide +kernel
  rw [show ((3 : Nat) : Int) = 3 from rfl] at run
  rw [run] at theirs
  have theirs : m.moves2.reverse = [.cooperate, .betray, .betray] := Option.some.inj theirs
  have moves := echoes.moves
  have behind := echoes.behind
  rw [theirs] at moves behind
  exact ⟨either, sound, isFriendly_grudger, ⟨m, last, run, moves, behind, never⟩,
    (peaceful grudger.player isFriendly_grudger).1⟩

end Builtin
end IteratedDilemma
