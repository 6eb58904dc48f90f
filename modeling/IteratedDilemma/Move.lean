import IteratedDilemma.Text.Basic

/-! Moves, what a round pays, and what a player can see of the moves played so far. -/
namespace IteratedDilemma
set_option autoImplicit false

/-- What a player does in a round. -/
inductive Move where
  | cooperate
  | betray
deriving DecidableEq, Repr

namespace Move

def word : Move → String
  | cooperate => "Cooperate"
  | betray => "Betray"

def ofWord? (t : Text) : Option Move :=
  if t = "Cooperate" then some cooperate else if t = "Betray" then some betray else none

/-- The first letter of the word. -/
def letter : Move → Char
  | cooperate => 'C'
  | betray => 'B'

def ofLetter? : Char → Option Move
  | 'C' => some cooperate
  | 'B' => some betray
  | _ => none

@[simp] theorem ofWord?_word (m : Move) : ofWord? m.word = some m := by
  cases m <;> decide +kernel

@[simp] theorem ofLetter?_letter (m : Move) : ofLetter? m.letter = some m := by
  cases m <;> rfl

end Move

/-- Moves as letters, in order. -/
def lettersOf (moves : List Move) : String :=
  String.ofList (moves.map Move.letter)

/-! ## Payoffs -/

/-- The points of the two players in one round. -/
structure Payoff where
  first : Nat
  second : Nat
deriving DecidableEq

/-- Cooperation pays 1 to each, a lone traitor takes 2, and nothing else pays. -/
def payoff : Move → Move → Payoff
  | .cooperate, .cooperate => ⟨1, 1⟩
  | .cooperate, .betray => ⟨0, 2⟩
  | .betray, .cooperate => ⟨2, 0⟩
  | .betray, .betray => ⟨0, 0⟩

/-! ## Histories -/

/-- The moves that one player has played, the most recent first. -/
abbrev History := List Move

namespace History

/-- The last move; before the first round it counts as cooperation. -/
def last (h : History) : Move :=
  h.headD .cooperate

/-- The move `n` rounds ago, 1 being the last round. Beyond the first round it counts as
cooperation; below 1 there is none. -/
def nth? (h : History) (n : Int) : Option Move :=
  if n < 1 then none else some (h.getD (n.toNat - 1) .cooperate)

/-- Betrayal if more than half of the moves betray. -/
def mostCommon (h : History) : Move :=
  if h.length - h.count .betray < h.count .betray then .betray else .cooperate

/-- The last move is the move one round ago. -/
theorem nth?_one (h : History) : h.nth? 1 = some h.last := by
  cases h <;> rfl

end History
end IteratedDilemma
