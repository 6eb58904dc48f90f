import IteratedDilemma.Move
import IteratedDilemma.Text.Quoted

/-! Conditions: a test of one player's past moves against a target. A kind of condition that is not
known keeps its name and never holds. -/
namespace IteratedDilemma
set_option autoImplicit false

/-- Whose moves a condition looks at, seen from the player who decides. -/
inductive Subject where
  | opponent
  | own
deriving DecidableEq

/-- Which move of a history a condition looks up. -/
inductive Lookup where
  | last
  | nth
  | mostCommon
deriving DecidableEq

/-- One of the six kinds of condition. -/
structure KnownKind where
  subject : Subject
  lookup : Lookup
deriving DecidableEq

namespace KnownKind

def all : List KnownKind :=
  [⟨.opponent, .last⟩, ⟨.own, .last⟩, ⟨.opponent, .nth⟩, ⟨.own, .nth⟩, ⟨.opponent, .mostCommon⟩,
    ⟨.own, .mostCommon⟩]

def name : KnownKind → String
  | ⟨.opponent, .last⟩ => "opponent_last_move"
  | ⟨.own, .last⟩ => "your_last_move"
  | ⟨.opponent, .nth⟩ => "opponent_nth_last_move"
  | ⟨.own, .nth⟩ => "your_nth_last_move"
  | ⟨.opponent, .mostCommon⟩ => "opponent_most_common"
  | ⟨.own, .mostCommon⟩ => "your_most_common"

def ofName? (t : Text) : Option KnownKind :=
  all.find? fun kind => kind.name = t

@[simp] theorem ofName?_name (kind : KnownKind) : ofName? kind.name = some kind := by
  obtain ⟨s, l⟩ := kind
  cases s <;> cases l <;> decide +kernel

/-- How far back to look matters only to the lookup that counts rounds. -/
def usesN (kind : KnownKind) : Bool :=
  kind.lookup == .nth

/-- What a condition of this kind says, with `nth` for the place that is looked up. -/
def labelWith (kind : KnownKind) (nth : String) : String :=
  let whose := match kind.subject with
    | .opponent => "Opponent's "
    | .own => "Your "
  whose ++ match kind.lookup with
    | .last => "last move is"
    | .nth => nth ++ " last move is"
    | .mostCommon => "most common move is"

def label (kind : KnownKind) : String :=
  kind.labelWith "Nth"

/-- The move of the two histories that is looked up, if there is one. -/
def find? (kind : KnownKind) (n : Int) (own opponent : History) : Option Move :=
  let history := match kind.subject with
    | .opponent => opponent
    | .own => own
  match kind.lookup with
  | .last => some history.last
  | .nth => history.nth? n
  | .mostCommon => some history.mostCommon

end KnownKind

/-- The kind of a condition, or the name of one that is not known. -/
inductive Kind where
  | known (kind : KnownKind)
  | unknown (name : Text) (unlisted : KnownKind.ofName? name = none)
deriving DecidableEq

namespace Kind

def ofName (t : Text) : Kind :=
  match h : KnownKind.ofName? t with
  | some kind => known kind
  | none => unknown t h

def name : Kind → Text
  | known kind => kind.name
  | unknown name _ => name

def isKnown : Kind → Bool
  | known _ => true
  | unknown _ _ => false

@[simp] theorem ofName_name (kind : Kind) : ofName kind.name = kind := by
  cases kind with
  | known kind =>
    unfold ofName
    split
    · next h => simp only [name, KnownKind.ofName?_name, Option.some.injEq] at h; rw [h]
    · next h => simp [name] at h
  | unknown name h =>
    unfold ofName
    split
    · next h' => simp [Kind.name, h] at h'
    · rfl

@[simp] theorem name_ofName (t : Text) : (ofName t).name = t := by
  unfold ofName
  split
  · next kind h =>
    have := List.find?_some h
    simpa [name] using this
  · rfl

end Kind

/-- A test of a move in the past. `n` counts rounds back and matters only to some kinds. -/
structure Condition where
  kind : Kind
  n : Int
  target : Move
deriving DecidableEq

namespace Condition

/-- Whether the move that is looked up is the target. -/
def holds (c : Condition) (own opponent : History) : Bool :=
  match c.kind with
  | .known kind => kind.find? c.n own opponent == some c.target
  | .unknown _ _ => false

/-- The condition in words. -/
def describe (c : Condition) : Text :=
  match c.kind with
  | .known kind => kind.labelWith s!"{c.n}th" ++ " " ++ c.target.word
  | .unknown name _ => "<unknown condition " ++ name.quoted ++ "> " ++ c.target.word

end Condition
end IteratedDilemma
