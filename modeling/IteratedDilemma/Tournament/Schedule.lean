import IteratedDilemma.Strategy.Basic

/-! Schedules: everybody against everybody, or a new strategy against all others. -/
namespace IteratedDilemma
set_option autoImplicit false

/-- A match that is to be played, with its place in the schedule. -/
structure Fixture where
  index : Nat
  first : Strategy
  second : Strategy

/-- The fixture as messages show it. -/
def Fixture.shown (f : Fixture) : Text :=
  s!"ScheduledMatch({f.index}: " ++ f.first.name.plain ++ " vs " ++ f.second.name.plain ++ ")"

namespace Schedule

/-- All pairs of two places of a list, by the first place and then by the second. -/
def pairs {α : Type} : List α → List (α × α)
  | [] => []
  | x :: rest => rest.map (fun y => (x, y)) ++ pairs rest

/-- Pairs as fixtures, numbered in order. -/
def numbered (pairs : List (Strategy × Strategy)) : List Fixture :=
  pairs.mapIdx fun i pair => ⟨i, pair.1, pair.2⟩

/-- Every strategy meets every later one, the earlier on the first side. -/
def roundRobin (strategies : List Strategy) : List Fixture :=
  numbered (pairs strategies)

/-- The new strategy meets everyone of another identifier, itself on the first side. -/
def challenge (new : Strategy) (existing : List Strategy) : List Fixture :=
  numbered ((existing.filter fun s => s.key ≠ new.key).map fun s => (new, s))

/-- The number of matches between so many strategies. -/
def totalMatches (count : Int) : Int :=
  if count < 2 then 0 else count * (count - 1) / 2

/-- The number of matches between a number of strategies that may have a fraction, without the
fraction that it may have itself. -/
def totalMatchesOf (count : Json) : Except Fault Json :=
  match count with
  | .bool b => .ok (.int (totalMatches b.toNat))
  | .int n => .ok (.int (totalMatches n))
  | .float x =>
    if x.isBelow 2 then .ok (.int 0)
    else .ok (.float ((x.mul (x.add (.ofInt (-1)))).half))
  | _ => .error (.unordered "<" count.typeName "int")

end Schedule
end IteratedDilemma
