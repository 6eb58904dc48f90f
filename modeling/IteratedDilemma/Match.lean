import IteratedDilemma.Tree.Document

/-! A match: a number of rounds in which both players decide from the moves of the rounds before.
Players are decisions in a monad, which may draw random numbers or fail. -/
namespace IteratedDilemma
set_option autoImplicit false

/-- A decision from the own history and the opponent's. -/
abbrev Decision (m : Type → Type) := History → History → m Move

/-- The effect of drawing random numbers. -/
abbrev Drawing := StateM RandomSource

/-- The effect of drawing random numbers and perhaps giving something that is no move. -/
abbrev Attempt := ExceptT Fault Drawing

/-- The decision of a player who follows a script, over and over. What it says need not be moves. -/
def Decision.scripted (script : List Json) : Decision Attempt := fun own _ =>
  match script[own.length % script.length]? with
  | some value => (Move.ofJson value : Except Fault Move)
  | none => throw .emptyScript

/-- The rounds of a match so far, with the points of both sides. -/
structure Match where
  moves1 : History
  moves2 : History
  score1 : Nat
  score2 : Nat
deriving DecidableEq

namespace Match

def empty : Match := ⟨[], [], 0, 0⟩

/-- One more round. -/
def extend (m : Match) (move1 move2 : Move) : Match :=
  let won := payoff move1 move2
  ⟨move1 :: m.moves1, move2 :: m.moves2, m.score1 + won.first, m.score2 + won.second⟩

/-- One round after those of a match, the first side deciding first. -/
def round {m : Type → Type} [Monad m] (first second : Decision m) (past : Match) : m Match := do
  let move1 ← first past.moves1 past.moves2
  let move2 ← second past.moves2 past.moves1
  return past.extend move1 move2

/-- So many rounds after those of a match. A player who fails ends it at once. -/
@[specialize]
def playOn {m : Type → Type} [Monad m] (first second : Decision m) : Nat → Match → m Match
  | 0, past => pure past
  | n + 1, past => do playOn first second n (← round first second past)

/-- So many rounds between two decisions. -/
def play {m : Type → Type} [Monad m] (first second : Decision m) (rounds : Nat) : m Match :=
  playOn first second rounds empty

theorem playOn_succ {m : Type → Type} [Monad m] [LawfulMonad m] (first second : Decision m)
    (n : Nat) (past : Match) :
    playOn first second (n + 1) past =
      playOn first second n past >>= round first second := by
  induction n generalizing past with
  | zero => simp [playOn]
  | succ n ih =>
    rw [playOn, playOn, bind_assoc]
    exact congrArg _ (funext ih)

/-- The last round of a match comes after a match with one round less. -/
theorem play_succ {m : Type → Type} [Monad m] [LawfulMonad m] (first second : Decision m)
    (n : Nat) :
    play first second (n + 1) = play first second n >>= round first second :=
  playOn_succ first second n empty

/-- The number of rounds that a value stands for. It must be whole and not negative. -/
def roundsOf (rounds : Json) : Except Fault Nat :=
  match rounds with
  | .bool b => .ok b.toNat
  | .int n => if n < 0 then .error (.negativeRounds rounds.plain) else .ok n.toNat
  | .float x =>
    if x.isBelow 0 then .error (.negativeRounds rounds.plain)
    else .error (.notAnIndex rounds.typeName)
  | _ => .error (.unordered "<" rounds.typeName "int")

/-- A match of players that may fail, of so many rounds as a value stands for. -/
def simulate (first second : Decision Attempt) (rounds : Json) : Attempt Match := do
  let count ← (roundsOf rounds : Except Fault Nat)
  play first second count

theorem simulate_negative (first second : Decision Attempt) {rounds : Int} (h : rounds < 0) :
    simulate first second (.int rounds) = throw (.negativeRounds (Json.int rounds).plain) := by
  have refused : roundsOf (.int rounds) = .error (.negativeRounds (Json.int rounds).plain) :=
    if_pos h
  rw [simulate, refused]
  rfl

theorem simulate_count (first second : Decision Attempt) (count : Nat) :
    simulate first second (.int count) = play first second count := by
  have whole : roundsOf (.int count) = .ok count := by
    rw [roundsOf, if_neg (Int.not_lt.2 (Int.natCast_nonneg count)), Int.toNat_natCast]
  rw [simulate, whole]
  rfl

def rounds (m : Match) : Nat := m.moves1.length

/-- The side with more points, or 0. -/
def winner (m : Match) : Nat :=
  if m.score2 < m.score1 then 1 else if m.score1 < m.score2 then 2 else 0

/-- A line for each round, counted against the announced number of rounds. -/
def roundLines (m : Match) (announced : Text) : List Text :=
  let moves := m.moves1.reverse.zip m.moves2.reverse
  moves.mapIdx fun i (a, b) =>
    let won := payoff a b
    s!"    Round {i + 1}/" ++ announced ++
      s!": {a.word} vs {b.word} -> {won.first}-{won.second}"

end Match
end IteratedDilemma
