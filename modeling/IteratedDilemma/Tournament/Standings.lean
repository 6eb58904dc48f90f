import IteratedDilemma.Json.Arithmetic
import IteratedDilemma.Strategy.Basic

/-! Standings: strategies by score, the table that shows them. -/
namespace IteratedDilemma
set_option autoImplicit false

/-- What decides about a place: the higher score, then the earlier creation. Strategies whose
creation is not known come last among equals. -/
structure StandingKey where
  score : Rat
  created : Option Rat
deriving DecidableEq

namespace StandingKey

def of (s : Strategy) : StandingKey :=
  ⟨s.score.worth, s.createdAt.map Timestamp.instant⟩

/-- Whether a creation is no later than another. -/
def noLater : Option Rat → Option Rat → Bool
  | _, none => true
  | none, some _ => false
  | some a, some b => a ≤ b

/-- Whether the first key may stand before the second. -/
def le (a b : StandingKey) : Bool :=
  b.score < a.score || (a.score == b.score && noLater a.created b.created)

end StandingKey

namespace Standings

/-- Strategies in the order of their places; equals keep their order. -/
def sorted (strategies : List Strategy) : List Strategy :=
  strategies.mergeSort fun a b => (StandingKey.of a).le (.of b)

/-- Whether the creation of a strategy has an instant to sort by. -/
def isRankable (s : Strategy) : Bool :=
  s.createdAt.all Timestamp.hasInstant

/-- The strategies in order, if all of them can be ranked. -/
def ranked (strategies : List Strategy) : Except Fault (List Strategy) :=
  if strategies.all isRankable then .ok (sorted strategies) else .error (.timestamp (.year 0))

/-- A row of the standings as a document. -/
def rowJson (s : Strategy) : Json :=
  .object [("id", s.id), ("strategy", s.name), ("author", s.author), ("score", s.score)]

/-! ## The table -/

/-- A text filled up with blanks on the right. -/
def leftAligned (width : Nat) (t : Text) : Text :=
  t ++ Text.repeated (width - t.length) ' '

/-- A text filled up with blanks on the left. -/
def rightAligned (width : Nat) (t : Text) : Text :=
  Text.repeated (width - t.length) ' ' ++ t

/-- The first characters of a text in a column of its own. -/
def column (cut width : Nat) : Json → Except Fault Text
  | .text t => .ok (leftAligned width (t.take cut))
  | .list _ => .error .paddedList
  | .object _ => .error (.unhashable "slice")
  | value => .error (.notSubscriptable value.typeName)

def rule (c : Char) : Text := Text.repeated 64 c

def row (rank : Nat) (s : Strategy) : Except Fault Text := do
  let name ← column 24 25 s.name
  let author ← column 22 23 s.author
  return leftAligned 6 (toString rank) ++ name ++ author ++ rightAligned 10 s.score.plain

/-- Rows with their ranks, counted from `rank`. -/
def rows (rank : Nat) : List Strategy → Except Fault (List Text)
  | [] => .ok []
  | s :: rest => do
    let first ← row rank s
    return first :: (← rows (rank + 1) rest)

/-- The table of standings, line by line. -/
def table (strategies : List Strategy) : Except Fault (List Text) := do
  let ranked ← ranked strategies
  let rows ← rows 1 ranked
  return [rule '=', "ARENA STANDINGS", rule '=',
    leftAligned 6 "Rank" ++ leftAligned 25 "Strategy" ++ leftAligned 23 "Author" ++
      rightAligned 10 "Score", rule '-'] ++ rows ++ [rule '=']

end Standings
end IteratedDilemma
