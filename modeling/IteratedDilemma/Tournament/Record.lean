import IteratedDilemma.Strategy.Basic

/-! Match records: the log entry of one played match. -/
namespace IteratedDilemma
set_option autoImplicit false

/-- One player's part of a record. The name and the author are those at the time of the match. -/
structure RecordSide where
  id : Json
  name : Json
  author : Json
  moves : List Move
  score : Int

/-- A played match. Moves are in the order of the rounds. -/
structure MatchRecord where
  id : Text
  first : RecordSide
  second : RecordSide
  playedAt : Timestamp

namespace MatchRecord

/-- A player's part of a match. -/
def sideOf (s : Strategy) (history : History) (score : Nat) : RecordSide :=
  ⟨s.id, s.name, s.author, history.reverse, score⟩

/-- The record of a match between two strategies. -/
def ofMatch (id : Text) (playedAt : Timestamp) (first second : Strategy) (m : Match) :
    MatchRecord :=
  ⟨id, sideOf first m.moves1 m.score1, sideOf second m.moves2 m.score2, playedAt⟩

/-- The record of a document. A record without a time was played `now`. -/
def ofJson (now : Timestamp) (data : Json) : Except Fault MatchRecord := do
  let id ← data.required "id"
  let id1 ← data.required "strategy1_id"
  let id2 ← data.required "strategy2_id"
  let fields ← data.fields
  let moves1 ← (← (fields.firstOf ["moves1"] (.list [])).items).mapM Move.ofJson
  let moves2 ← (← (fields.firstOf ["moves2"] (.list [])).items).mapM Move.ofJson
  let score1 ← (fields.firstOf ["score1"] (.int 0)).whole
  let score2 ← (fields.firstOf ["score2"] (.int 0)).whole
  let playedAt ← Timestamp.ofJson (fields.firstOf ["played_at"] .null)
  let textOf (name : Text) := fields.firstOf [name] (.text "")
  return {
    id := id.plain
    first := ⟨.text id1.plain, textOf "strategy1_name", textOf "strategy1_author", moves1, score1⟩
    second := ⟨.text id2.plain, textOf "strategy2_name", textOf "strategy2_author", moves2, score2⟩
    playedAt := playedAt.getD now }

def toJson (r : MatchRecord) : Json :=
  .object [("id", .text r.id),
    ("strategy1_id", r.first.id), ("strategy1_name", r.first.name),
    ("strategy1_author", r.first.author),
    ("strategy2_id", r.second.id), ("strategy2_name", r.second.name),
    ("strategy2_author", r.second.author),
    ("moves1", .list (r.first.moves.map Move.toJson)),
    ("moves2", .list (r.second.moves.map Move.toJson)),
    ("score1", .int r.first.score), ("score2", .int r.second.score),
    ("played_at", .text r.playedAt.isoText)]

end MatchRecord
end IteratedDilemma
