import Mathlib.Algebra.BigOperators.Group.List.Basic
import Mathlib.Algebra.Ring.Nat
import IteratedDilemma.Tournament.Record

/-! Transcripts of matches: both sides have played equally often, the scores are what the moves pay,
and every move is one that its side's tree allows after the moves before it. Main statement: a match
of any number of rounds between two trees is one (`isPlayed_play`). -/
namespace IteratedDilemma
set_option autoImplicit false

/-! ## Moves that a tree allows -/

namespace LogicTree

/-- What a tree may play after moves, the oldest first: the action of the first clause that is met,
anything if that is random, and cooperation if no clause is met. -/
def Allows (t : LogicTree) (own opponent : List Move) (m : Move) : Prop :=
  match t.clauses.find? fun c => c.isMet own.reverse opponent.reverse with
  | none => m = .cooperate
  | some c => match c.action with
    | .play fixed => m = fixed
    | .random => True

/-- Every move is allowed after the moves of both sides before it. -/
def Follows (t : LogicTree) (own opponent : List Move) : Prop :=
  ∀ (i : Nat) (h : i < own.length), t.Allows (own.take i) (opponent.take i) own[i]

theorem decide_allows (t : LogicTree) (own opponent : History) (source : RandomSource) :
    t.Allows own.reverse opponent.reverse (t.decide own opponent source).1 := by
  rw [Allows, List.reverse_reverse, List.reverse_reverse, LogicTree.decide, Chain.action]
  cases t.clauses.find? fun c => c.isMet own opponent with
  | none => rfl
  | some c => cases hc : c.action <;> simp [hc, Action.resolve]

theorem follows_nil (t : LogicTree) : t.Follows [] [] :=
  fun _ h => absurd h (Nat.not_lt_zero _)

theorem follows_concat {t : LogicTree} {own opponent : List Move} {a b : Move}
    (h : t.Follows own opponent) (lengths : own.length = opponent.length)
    (ha : t.Allows own opponent a) : t.Follows (own ++ [a]) (opponent ++ [b]) := by
  intro i hi
  rw [List.length_append, List.length_singleton] at hi
  rcases Nat.lt_or_eq_of_le (Nat.le_of_lt_succ hi) with hlt | rfl
  · -- an old round: its prefixes and its move are those of the shorter lists
    have h' := h i hlt
    rw [List.take_append_of_le_length (Nat.le_of_lt hlt),
      List.take_append_of_le_length (by omega), List.getElem_append_left hlt]
    exact h'
  · rw [List.getElem_concat_length rfl, List.take_left' rfl, List.take_left' lengths.symm]
    exact ha

end LogicTree

/-! ## Matches -/

/-- What a side has won in all rounds. -/
def pointsOver (side : Payoff → Nat) (moves1 moves2 : List Move) : Nat :=
  ((moves1.zip moves2).map fun (a, b) => side (payoff a b)).sum

theorem pointsOver_concat (side : Payoff → Nat) {moves1 moves2 : List Move} (a b : Move)
    (lengths : moves1.length = moves2.length) :
    pointsOver side (moves1 ++ [a]) (moves2 ++ [b]) =
      pointsOver side moves1 moves2 + side (payoff a b) := by
  rw [pointsOver, List.zip_append lengths, List.map_append, List.sum_append]
  simp [pointsOver]

/-- No side wins more than two points in a round. -/
theorem pointsOver_le {side : Payoff → Nat} (h : ∀ a b, side (payoff a b) ≤ 2)
    (moves1 moves2 : List Move) : pointsOver side moves1 moves2 ≤ 2 * moves1.length := by
  induction moves1 generalizing moves2 with
  | nil => exact Nat.le_refl 0
  | cons a rest1 ih =>
    cases moves2 with
    | nil => exact Nat.zero_le _
    | cons b rest2 =>
      have round := h a b
      have rest := ih rest2
      change side (payoff a b) + pointsOver side rest1 rest2 ≤ 2 * (rest1.length + 1)
      omega

/-- The moves of two trees, the oldest first, with the points of both sides. -/
structure Transcript (t1 t2 : LogicTree) (moves1 moves2 : List Move) (score1 score2 : Int) :
    Prop where
  lengths : moves1.length = moves2.length
  score1 : score1 = pointsOver Payoff.first moves1 moves2
  score2 : score2 = pointsOver Payoff.second moves1 moves2
  follows1 : t1.Follows moves1 moves2
  follows2 : t2.Follows moves2 moves1

namespace Match

/-- A match that two trees have played. -/
def IsPlayed (t1 t2 : LogicTree) (m : Match) : Prop :=
  Transcript t1 t2 m.moves1.reverse m.moves2.reverse m.score1 m.score2

theorem isPlayed_empty (t1 t2 : LogicTree) : IsPlayed t1 t2 empty where
  lengths := rfl
  score1 := rfl
  score2 := rfl
  follows1 := t1.follows_nil
  follows2 := t2.follows_nil

theorem isPlayed_extend {t1 t2 : LogicTree} {m : Match} {a b : Move} (h : m.IsPlayed t1 t2)
    (ha : t1.Allows m.moves1.reverse m.moves2.reverse a)
    (hb : t2.Allows m.moves2.reverse m.moves1.reverse b) : (m.extend a b).IsPlayed t1 t2 := by
  have h1 := pointsOver_concat Payoff.first a b h.lengths
  have h2 := pointsOver_concat Payoff.second a b h.lengths
  have s1 := h.score1
  have s2 := h.score2
  unfold IsPlayed extend
  rw [List.reverse_cons, List.reverse_cons]
  exact {
    lengths := by rw [List.length_append, List.length_append, h.lengths]; rfl
    score1 := by rw [h1]; push_cast; omega
    score2 := by rw [h2]; push_cast; omega
    follows1 := LogicTree.follows_concat h.follows1 h.lengths ha
    follows2 := LogicTree.follows_concat h.follows2 h.lengths.symm hb }

theorem isPlayed_round {s1 s2 : Strategy} {past : Match} (h : past.IsPlayed s1.tree s2.tree)
    (source : RandomSource) :
    ((round s1.decision s2.decision past).run source).1.IsPlayed s1.tree s2.tree :=
  isPlayed_extend h (s1.tree.decide_allows _ _ _) (s2.tree.decide_allows _ _ _)

theorem isPlayed_playOn {s1 s2 : Strategy} (n : Nat) {past : Match}
    (h : past.IsPlayed s1.tree s2.tree) (source : RandomSource) :
    ((playOn s1.decision s2.decision n past).run source).1.IsPlayed s1.tree s2.tree := by
  induction n generalizing past source with
  | zero => exact h
  | succ n ih => exact ih (isPlayed_round h source) _

/-- Whatever random numbers come, the match of two strategies is a transcript of their trees. -/
theorem isPlayed_play (s1 s2 : Strategy) (rounds : Nat) (source : RandomSource) :
    ((play s1.decision s2.decision rounds).run source).1.IsPlayed s1.tree s2.tree :=
  isPlayed_playOn rounds (isPlayed_empty _ _) source

end Match

/-! ## Records -/

/-- A record that says what two trees have played. -/
def MatchRecord.IsTranscript (t1 t2 : LogicTree) (r : MatchRecord) : Prop :=
  Transcript t1 t2 r.first.moves r.second.moves r.first.score r.second.score

theorem MatchRecord.isTranscript_ofMatch {t1 t2 : LogicTree} {m : Match}
    (h : m.IsPlayed t1 t2) (id : Text) (playedAt : Timestamp) (first second : Strategy) :
    (MatchRecord.ofMatch id playedAt first second m).IsTranscript t1 t2 := h

end IteratedDilemma
