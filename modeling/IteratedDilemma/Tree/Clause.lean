import IteratedDilemma.Tree.Condition

/-! Clauses: a role in the chain, conditions with a way to combine them, and an action. -/
namespace IteratedDilemma
set_option autoImplicit false

/-- What a clause does when it is the first to match: a fixed move, or a random one. -/
inductive Action where
  | play (move : Move)
  | random
deriving DecidableEq

namespace Action

def word : Action → String
  | play move => move.word
  | random => "Random"

def ofWord? (t : Text) : Option Action :=
  if t = "Random" then some random else (Move.ofWord? t).map play

/-- The move of a fixed action. -/
def move? : Action → Option Move
  | play move => some move
  | random => none

@[simp] theorem ofWord?_word (a : Action) : ofWord? a.word = some a := by
  rcases a with (_ | _) | _ <;> decide +kernel

end Action

/-- The place of a clause in the chain. -/
inductive Role where
  | opening
  | alternative
  | fallback
deriving DecidableEq

namespace Role

def word : Role → String
  | opening => "IF"
  | alternative => "ELSEIF"
  | fallback => "ELSE"

def ofWord? (t : Text) : Option Role :=
  if t = "IF" then some opening
  else if t = "ELSEIF" then some alternative
  else if t = "ELSE" then some fallback
  else none

@[simp] theorem ofWord?_word (r : Role) : ofWord? r.word = some r := by
  cases r <;> decide +kernel

end Role

/-- How the conditions of a clause are combined. -/
inductive MatchMode where
  | all
  | any
deriving DecidableEq

namespace MatchMode

def word : MatchMode → String
  | all => "ALL"
  | any => "ANY"

/-- The capital form of the letters `a` to `z`. The words for the modes hold no letter that is the
capital of any other character. -/
def capitals (t : Text) : Text :=
  t.map fun c => if 'a'.toNat ≤ c.val ∧ c.val ≤ 'z'.toNat then .ofNat (c.val - 32) else c

/-- A mode by either of its two words, in letters of any case. -/
def ofWord? (t : Text) : Option MatchMode :=
  if capitals t = "ALL" ∨ capitals t = "AND" then some all
  else if capitals t = "ANY" ∨ capitals t = "OR" then some any
  else none

@[simp] theorem ofWord?_word (m : MatchMode) : ofWord? m.word = some m := by
  cases m <;> decide +kernel

/-- What stands between the conditions of a clause. -/
def joiner : MatchMode → String
  | all => " AND "
  | any => " OR "

end MatchMode

/-- One rule of a strategy. -/
structure Clause where
  role : Role
  conditions : List Condition
  mode : MatchMode
  action : Action
deriving DecidableEq

namespace Clause

/-- A fallback always matches. Any other clause needs conditions, and all or some of them must
hold. -/
def isMet (c : Clause) (own opponent : History) : Bool :=
  match c.role with
  | .fallback => true
  | _ =>
    !c.conditions.isEmpty &&
      match c.mode with
      | .all => c.conditions.all fun d => d.holds own opponent
      | .any => c.conditions.any fun d => d.holds own opponent

/-- The clause in words. -/
def describe (c : Clause) : Text :=
  match c.role with
  | .fallback => "ELSE -> " ++ c.action.word
  | role =>
    let body := Text.joined c.mode.joiner (c.conditions.map Condition.describe)
    let body : Text := if body.isEmpty then "<no conditions>" else body
    role.word ++ " " ++ body ++ " -> " ++ c.action.word

end Clause
end IteratedDilemma
