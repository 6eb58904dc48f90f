import IteratedDilemma.Json.Equality

/-! Points by identifier, in the order in which the identifiers were first counted. Identifiers that
count as the same are one. Main statement: giving points changes those of one identifier and nothing
else (`points?_set`). -/
namespace IteratedDilemma
set_option autoImplicit false

/-- A list of identifiers with their points, no two of them the same if built by `set` and `add`. -/
abbrev Tally (π : Type) := List (Json × π)

namespace Tally

variable {π : Type}

/-- The points of an identifier, if it has been counted. -/
def points? (t : Tally π) (id : Json) : Option π :=
  match t with
  | [] => none
  | (other, points) :: rest => if other.same id then some points else points? rest id

/-- Gives an identifier its points. One that is there keeps its place and its form. -/
def set (t : Tally π) (id : Json) (points : π) : Tally π :=
  match t with
  | [] => [(id, points)]
  | (other, p) :: rest =>
    if other.same id then (other, points) :: rest else (other, p) :: set rest id points

def ids (t : Tally π) : List Json := t.map (·.1)

def points (t : Tally π) : List π := t.map (·.2)

/-- Pairs counted one after another, the last one of an identifier being final. -/
def ofPairs (pairs : List (Json × π)) : Tally π :=
  pairs.foldl (fun t pair => t.set pair.1 pair.2) []

/-- Adds to the points of an identifier. -/
def add (t : Tally Int) (id : Json) (points : Int) : Tally Int :=
  t.set id ((t.points? id).getD 0 + points)

/-- The tally with its points as values. -/
def toJson (t : Tally Int) : Tally Json :=
  t.map fun pair => (pair.1, .int pair.2)

/-- Giving points changes those of one identifier and nothing else. -/
theorem points?_set (t : Tally π) (id other : Json) (points : π) :
    (t.set id points).points? other =
      if id.same other then some points else t.points? other := by
  induction t with
  | nil => simp [set, points?]
  | cons pair rest ih =>
    obtain ⟨n, p⟩ := pair
    by_cases hn : n.same id
    · have : n.same other = id.same other := by
        simp only [Json.same, decide_eq_true_eq] at hn ⊢
        rw [hn]
      by_cases ho : id.same other <;> simp [set, points?, hn, this, ho]
    · simp only [set, hn, Bool.false_eq_true, if_false, points?, ih]
      simp only [Json.same, decide_eq_true_eq] at hn ⊢
      split <;> split <;> simp_all

theorem points?_toJson (t : Tally Int) (id : Json) :
    t.toJson.points? id = (t.points? id).map .int := by
  induction t with
  | nil => rfl
  | cons pair rest ih =>
    simp only [toJson, List.map_cons, points?] at ih ⊢
    split <;> simp [ih]

end Tally
end IteratedDilemma
