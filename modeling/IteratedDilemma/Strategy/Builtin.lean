import IteratedDilemma.Match

/-! The five built-in strategies, each once as a decision and once as a logic tree. -/
namespace IteratedDilemma
set_option autoImplicit false

/-- The built-in strategies. -/
inductive Builtin where
  | alwaysCooperate
  | alwaysBetray
  | random
  | titForTat
  | grudger
deriving DecidableEq

namespace Builtin

def all : List Builtin := [alwaysCooperate, alwaysBetray, random, titForTat, grudger]

def name : Builtin → String
  | alwaysCooperate => "alwaysCooperate"
  | alwaysBetray => "alwaysBetray"
  | random => "random"
  | titForTat => "titForTat"
  | grudger => "grudger"

def ofName? (t : Text) : Option Builtin :=
  all.find? fun b => b.name = t

/-- The strategy that a value names, if any. -/
def ofKey (key : Json) : Except Fault (Option Builtin) := do
  match ← key.asName with
  | .text t => return ofName? t
  | _ => return none

/-- The strategy as a decision. -/
def decision (b : Builtin) (_own opponent : History) : Drawing Move :=
  match b with
  | alwaysCooperate => pure .cooperate
  | alwaysBetray => pure .betray
  | random => RandomSource.move
  | titForTat => pure opponent.last
  | grudger => pure (if opponent.contains .betray then .betray else .cooperate)

/-- The decision under a name. -/
def decisionOf (name : Json) : Except Fault (Decision Drawing) := do
  match ← ofKey name with
  | some b => return b.decision
  | none => throw (.unknownBuiltin name.plain)

/-! ## Trees -/

/-- A condition on the opponent's last move. -/
def opponentLast (target : Move) : Condition :=
  ⟨.known ⟨.opponent, .last⟩, 1, target⟩

/-- One clause that always matches, as the last move is one of two. -/
def always (action : Action) : LogicTree where
  clauses := [⟨.opening, [opponentLast .cooperate, opponentLast .betray], .any, action⟩]
  sound := by
    simp [Chain.violations, Chain.openingsFrom, Chain.smallNsFrom, Chain.firstFallback?,
      opponentLast]

/-- How far the tree of a grudge for so many rounds looks back. -/
def memory (rounds : Int) : Nat := (max rounds 2 - 1).toNat

/-- The conditions that find a betrayal among the opponent's last moves. -/
def grudges (rounds : Int) : List Condition :=
  (List.range (memory rounds)).map fun (i : Nat) => ⟨.known ⟨.opponent, .nth⟩, i + 1, .betray⟩

/-- A grudge for matches of up to so many rounds: one clause looks back over every earlier round. -/
def grudgerTree (rounds : Int) : LogicTree where
  clauses := [⟨.opening, grudges rounds, .any, .play .betray⟩,
    ⟨.fallback, [], .all, .play .cooperate⟩]
  sound := by
    have h : (grudges rounds).filter (fun d => decide (d.n < 1)) = [] := by
      simp only [grudges, List.filter_eq_nil_iff, List.mem_map]
      rintro d ⟨i, -, rfl⟩
      simp only [decide_eq_true_eq]
      omega
    simp [Chain.violations, Chain.openingsFrom, Chain.smallNsFrom, Chain.firstFallback?, h,
      List.findIdx?, List.findIdx?.go]

/-- A grudge for as many rounds as a value stands for, two at least. -/
def grudgerTreeOf (rounds : Json) : Except Fault LogicTree :=
  match rounds with
  | .bool b => .ok (grudgerTree b.toNat)
  | .int n => .ok (grudgerTree n)
  | .float x => if x.isBelow 2 then .ok (grudgerTree 2) else .error (.notAnIndex rounds.typeName)
  | _ => .error (.unordered ">" "int" rounds.typeName)

/-- Betray after a betrayal, else cooperate. -/
def titForTatTree : LogicTree where
  clauses := [⟨.opening, [opponentLast .betray], .all, .play .betray⟩,
    ⟨.fallback, [], .all, .play .cooperate⟩]
  sound := by
    simp [Chain.violations, Chain.openingsFrom, Chain.smallNsFrom, Chain.firstFallback?,
      opponentLast, List.findIdx?, List.findIdx?.go]

/-- The strategy as a tree. The grudge lasts for matches of 20 rounds. -/
def tree : Builtin → LogicTree
  | alwaysCooperate => always (.play .cooperate)
  | alwaysBetray => always (.play .betray)
  | random => always .random
  | titForTat => titForTatTree
  | grudger => grudgerTree 20

/-- The tree under a key, which must be there. -/
def treeUnder (key : Json) : Except Fault LogicTree := do
  match ← ofKey key with
  | some b => return b.tree
  | none => throw (.missingField key)

end Builtin
end IteratedDilemma
