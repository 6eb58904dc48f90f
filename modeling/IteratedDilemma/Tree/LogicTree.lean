import IteratedDilemma.Tree.Clause
import IteratedDilemma.Random.Source

/-! Logic trees: chains of clauses of which the first that matches decides. The chain opens with the
only opening clause, goes on with alternatives and may end in one fallback. -/
namespace IteratedDilemma
set_option autoImplicit false

/-- A way in which a chain of clauses breaks the rules. Positions count from 0. -/
inductive TreeViolation where
  | empty
  | wrongStart
  | secondOpening (position : Nat)
  | manyFallbacks
  | earlyFallback
  | smallN (position : Nat) (n : Int)
deriving DecidableEq

namespace TreeViolation

def message : TreeViolation → String
  | empty => "A logic tree needs at least one clause"
  | wrongStart => "The first clause must be IF"
  | secondOpening position => s!"Clause {position + 1} is a second IF clause"
  | manyFallbacks => "Only one ELSE clause is allowed"
  | earlyFallback => "The ELSE clause must be the last clause"
  | smallN position n => s!"Clause {position + 1}: N must be at least 1 (got {n})"

end TreeViolation

/-! ## Rules of a chain -/

namespace Chain

/-- The opening clauses among those from a position on. -/
def openingsFrom (position : Nat) : List Clause → List TreeViolation
  | [] => []
  | c :: rest =>
    if c.role = .opening then .secondOpening position :: openingsFrom (position + 1) rest
    else openingsFrom (position + 1) rest

/-- The conditions of clauses from a position on that look back less than one round. -/
def smallNsFrom (position : Nat) : List Clause → List TreeViolation
  | [] => []
  | c :: rest =>
    (c.conditions.filter fun d => d.n < 1).map (fun d => .smallN position d.n) ++
      smallNsFrom (position + 1) rest

/-- The place of the first fallback. -/
def firstFallback? (cs : List Clause) : Option Nat :=
  cs.findIdx? fun c => c.role = .fallback

/-- All that is wrong with a chain of clauses, in the order in which it is reported. -/
def violations : List Clause → List TreeViolation
  | [] => [.empty]
  | first :: rest =>
    let cs := first :: rest
    (if first.role = .opening then [] else [.wrongStart]) ++
    openingsFrom 1 rest ++
    (if 1 < cs.countP (·.role = .fallback) then [.manyFallbacks] else []) ++
    (match firstFallback? cs with
      | none => []
      | some i => if i + 1 = cs.length then [] else [.earlyFallback]) ++
    smallNsFrom 0 cs

/-- The clauses up to the first fallback: no clause after it can be reached. -/
def reachable : List Clause → List Clause
  | [] => []
  | c :: rest => if c.role = .fallback then [c] else c :: reachable rest

/-- The place of the first clause that is met. -/
def firstMet? (cs : List Clause) (own opponent : History) : Option Nat :=
  cs.findIdx? fun c => c.isMet own opponent

/-- The action of the first clause that is met; without one, cooperation. -/
def action (cs : List Clause) (own opponent : History) : Action :=
  match cs.find? fun c => c.isMet own opponent with
  | some c => c.action
  | none => .play .cooperate

end Chain

/-- A chain of clauses that keeps the rules. -/
structure LogicTree where
  clauses : List Clause
  sound : Chain.violations clauses = []
deriving DecidableEq

/-- The move of an action. Only a random action draws a number, and only one. -/
def Action.resolve (a : Action) (source : RandomSource) : Move × RandomSource :=
  match a with
  | .play move => (move, source)
  | .random => source.move

namespace LogicTree

def hasFallback (t : LogicTree) : Bool :=
  t.clauses.any fun c => c.role = .fallback

def usesRandom (t : LogicTree) : Bool :=
  t.clauses.any fun c => c.action = .random

/-- The place of the clause that decides. -/
def deciding? (t : LogicTree) (own opponent : History) : Option Nat :=
  Chain.firstMet? t.clauses own opponent

/-- The next move. -/
def decide (t : LogicTree) (own opponent : History) (source : RandomSource) :
    Move × RandomSource :=
  (Chain.action t.clauses own opponent).resolve source

/-- The tree in words, a line for each clause. -/
def describe (t : LogicTree) : Text :=
  Text.joined "\n" (t.clauses.map Clause.describe)

end LogicTree
end IteratedDilemma
