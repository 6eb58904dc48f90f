import IteratedDilemma.Json.Equality
import IteratedDilemma.Strategy.Builtin
import IteratedDilemma.Time.Reading
import IteratedDilemma.Tree.Document

/-! Strategies as an arena keeps them: a logic tree with a name, an author and a score. -/
namespace IteratedDilemma
set_option autoImplicit false

/-- A strategy. The identifiers and names that an arena gives are texts, and its scores are numbers;
a strategy that takes part elsewhere may have any values in their place. -/
structure Strategy where
  id : Json
  name : Json
  tree : LogicTree
  author : Json
  authorId : Json
  score : Json
  createdAt : Option Timestamp

/-- A timestamp from the text of a value, none from null. -/
def Timestamp.ofJson (value : Json) : Except Fault (Option Timestamp) :=
  match value with
  | .null => .ok none
  | value => ((Timestamp.read value.plain).map some).mapError .timestamp

/-- The written form of a timestamp, or null. -/
def Timestamp.toJson (t : Option Timestamp) : Json :=
  .ofOption (t.map fun t => t.isoText)

namespace Strategy

/-- A built-in tree as a strategy, which is called after the tree unless named. -/
def builtin (key : Json) (id name : Option Json) : Except Fault Strategy := do
  let some b ← Builtin.ofKey key | throw (.noBuiltinTree key.plain)
  return {
    id := (id.filter Json.isTruthy).getD (.text b.name)
    name := (name.filter Json.isTruthy).getD (.text b.name)
    tree := b.tree
    author := .text "Arena"
    authorId := .null
    score := .int 0
    createdAt := none }

/-- The part of a document that holds the tree. -/
def treePart (fields : Json.Fields) : Json :=
  fields.firstOf ["logic_tree", "clauses"] (.list [])

/-- The strategy of a document. -/
def ofJson (strict : Bool) (data : Json) : Except Fault Strategy := do
  let fields ← data.fields
  let id ← data.required "id"
  let tree ← LogicTree.ofJson strict (treePart fields)
  let score ← (fields.firstOf ["score"] (.int 0)).whole
  let createdAt ← Timestamp.ofJson (fields.firstOf ["created_at", "createdAt"] .null)
  return {
    id := .text id.plain
    name := fields.firstOf ["name"] (.text "")
    tree
    author := fields.firstOf ["author_display_name", "authorDisplayName"] (.text "")
    authorId := fields.firstOf ["author_id", "authorId"] .null
    score := .int score
    createdAt }

/-- What reading a document reports: nothing before its tree is reached. -/
def notices (strict : Bool) (data : Json) : List Entry :=
  match data.fields, data.required "id" with
  | .ok fields, .ok _ => LogicTree.notices strict (treePart fields)
  | _, _ => []

def toJson (s : Strategy) : Json :=
  .object [("id", s.id), ("name", s.name), ("author_display_name", s.author),
    ("author_id", s.authorId), ("logic_tree", s.tree.toJson), ("score", s.score),
    ("created_at", Timestamp.toJson s.createdAt)]

def withScore (s : Strategy) (score : Json) : Strategy := { s with score }

/-- What tells strategies apart: one value for all identifiers that count as the same. -/
def key (s : Strategy) : Json := s.id.key

/-- Name, author and size of a strategy on one line. -/
def displayInfo (s : Strategy) : Text :=
  let author : Text := if s.author.isTruthy then " by " ++ s.author.plain else []
  s.name.plain ++ author ++ s!" ({s.tree.clauses.length} clauses, score " ++ s.score.plain ++ ")"

/-- The strategy as messages show it. -/
def shown (s : Strategy) : Text :=
  "Strategy(id=" ++ s.id.shown ++ ", name=" ++ s.name.shown ++ ", score=" ++ s.score.plain ++ ")"

/-- The strategy's decisions. -/
def decision (s : Strategy) : Decision Drawing :=
  fun own opponent => s.tree.decide own opponent

/-- The entry that is logged when a strategy is made ready to play. -/
def readyEntry (s : Strategy) : Entry :=
  ⟨.debug, "Compiling strategy " ++ s.name.plain ++ " (" ++ s.id.plain ++ ")"⟩

end Strategy
end IteratedDilemma
