import IteratedDilemma.Json.Arithmetic
import IteratedDilemma.Json.Printer
import IteratedDilemma.Tournament.Record
import IteratedDilemma.Tournament.Tally

/-! The outcome of a tournament pass: the points and records that a store is asked to take over. -/
namespace IteratedDilemma
set_option autoImplicit false

/-- Which kind of pass. A kind that is not known keeps its value. -/
inductive PassKind where
  | grand
  | onSave
  | other (value : Json)

namespace PassKind

def toJson : PassKind → Json
  | grand => .text "grand"
  | onSave => .text "on_save"
  | other value => value

/-- The kind in words. -/
def name (k : PassKind) : Text := k.toJson.plain

def ofJson (value : Json) : PassKind :=
  match value with
  | .text t => if t = "grand" then grand else if t = "on_save" then onSave else other value
  | value => other value

/-- Any pass that is not grand is announced as one on saving. -/
def label : PassKind → String
  | grand => "Grand tournament"
  | _ => "On-save tournament"

/-- A pass in one line: its matches, its points and its strategies. -/
def summary (k : PassKind) (matchCount : Nat) (points : Text) (strategyCount : Nat) : Text :=
  k.label ++ s!": {matchCount} matches, " ++ points ++
    s!" points across {strategyCount} strategies"

end PassKind

/-- An outcome. The points that a pass finds are whole numbers; those of an outcome that comes from
elsewhere may be any values. No new strategy is null. -/
structure Outcome where
  kind : PassKind
  deltas : Tally Json
  records : List MatchRecord
  newStrategyId : Json
  startedAt : Option Timestamp
  finishedAt : Option Timestamp

namespace Outcome

/-- The points that a list of pairs gives to identifiers. -/
def deltasOf (pairs : List Json) : Except Fault (Tally Json) := do
  let pairs ← pairs.mapM fun item => do
    let (id, points) ← item.pair
    return (← id.asName, points)
  return .ofPairs pairs

/-- An outcome of named parts. One that is left out has its usual value. -/
def made (now : Timestamp) (data : Json) : Except Fault Outcome := do
  let fields ← data.fields
  let part (name : Text) (default : Json) := fields.firstOf [name] default
  let deltas ← deltasOf (← (part "deltas" (.list [])).items)
  let records ← (← (part "records" (.list [])).items).mapM (MatchRecord.ofJson now)
  return {
    kind := .ofJson (part "kind" (.text "grand"))
    deltas
    records
    newStrategyId := part "new_strategy_id" .null
    startedAt := ← Timestamp.ofJson (part "started_at" .null)
    finishedAt := ← Timestamp.ofJson (part "finished_at" .null) }

/-- Whether there is nothing to take over. -/
def isEmpty (o : Outcome) : Bool :=
  o.records.isEmpty && o.deltas.points.all fun points => !points.isTruthy

/-- The points of the new strategy, if there is one. -/
def newStrategyDelta (o : Outcome) : Except Fault Json :=
  match o.newStrategyId with
  | .null => .ok (.int 0)
  | id => id.asName.map fun id => (o.deltas.points? id).getD (.int 0)

/-- The points of all others. -/
def opponentDeltas (o : Outcome) : Tally Json :=
  o.deltas.filter fun pair => !pair.1.same o.newStrategyId

def totalPoints (o : Outcome) : Except Fault Json := Json.total o.deltas.points

/-- The outcome in one line. -/
def summary (o : Outcome) : Except Fault Text :=
  o.totalPoints.map fun points => o.kind.summary o.records.length points.plain o.deltas.length

/-- The name of a field that stands for an identifier. -/
def fieldName : Json → Text
  | .text t => t
  | id => Text.ofChars (Json.written 0 id)

def fields (o : Outcome) : Json.Fields :=
  let always : Json.Fields := [("kind", o.kind.toJson),
    ("score_deltas", .object (o.deltas.map fun pair => (fieldName pair.1, pair.2))),
    ("records", .list (o.records.map MatchRecord.toJson)),
    ("start_time", Timestamp.toJson o.startedAt), ("end_time", Timestamp.toJson o.finishedAt),
    ("total_matches", .int o.records.length)]
  let onSave : Json.Fields := [("new_strategy_id", o.newStrategyId)]
  match o.kind with
  | .onSave => always ++ onSave
  | _ => always

def toJson (o : Outcome) : Json := .object o.fields

end Outcome
end IteratedDilemma
