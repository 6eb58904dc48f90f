import IteratedDilemma.Tournament.Outcome
import IteratedDilemma.Tournament.Schedule

/-! A pass while it is played: fixture after fixture, with the points and records so far. -/
namespace IteratedDilemma
set_option autoImplicit false

/-- A pass as far as it has been played. The roster holds the strategies that have been made ready,
each identifier once; records are kept with the newest first. The points are whole numbers. -/
structure Pass where
  kind : PassKind
  newStrategyId : Json
  startedAt : Timestamp
  roster : List Strategy
  deltas : Tally Int
  records : List MatchRecord

/-- What an observer of a pass is told after each match. -/
structure Progress where
  completed : Nat
  total : Nat
  record : MatchRecord

namespace Pass

/-- The start of a pass of everybody against everybody. -/
def grand (startedAt : Timestamp) (strategies : List Strategy) : Pass where
  kind := .grand
  newStrategyId := .null
  startedAt
  roster := []
  deltas := .ofPairs (strategies.map fun s => (s.id, 0))
  records := []

/-- The start of a pass of a new strategy against all others. -/
def onSave (startedAt : Timestamp) (new : Strategy) : Pass where
  kind := .onSave
  newStrategyId := new.id
  startedAt
  roster := []
  deltas := [(new.id, 0)]
  records := []

/-- The strategy of the roster that has the identifier of another. -/
def ready? (p : Pass) (s : Strategy) : Option Strategy :=
  p.roster.find? fun other => other.key = s.key

/-- The pass with one more strategy on its roster. -/
def enlist (p : Pass) (s : Strategy) : Pass :=
  { p with roster := p.roster ++ [s] }

/-- What decides for a strategy: whatever has been made ready under its identifier. -/
def decision (p : Pass) (s : Strategy) : Decision Drawing :=
  ((p.ready? s).getD s).decision

/-- The match of a fixture. -/
def meet (p : Pass) (f : Fixture) (rounds : Nat) : Drawing Match :=
  Match.play (p.decision f.first) (p.decision f.second) rounds

/-- The pass with one more match. -/
def extend (p : Pass) (record : MatchRecord) : Pass :=
  { p with
    deltas := (p.deltas.add record.first.id record.first.score).add record.second.id
      record.second.score
    records := record :: p.records }

/-- The outcome of a pass that is over. -/
def finish (p : Pass) (finishedAt : Timestamp) : Outcome where
  kind := p.kind
  deltas := p.deltas.toJson
  records := p.records.reverse
  newStrategyId := p.newStrategyId
  startedAt := some p.startedAt
  finishedAt := some finishedAt

/-- The points of a pass add up to a whole number. -/
theorem totalPoints_finish (p : Pass) (finishedAt : Timestamp) :
    (p.finish finishedAt).totalPoints =
      .ok (.int (p.deltas.points.foldl (· + ·) 0)) := by
  have : p.deltas.toJson.points = p.deltas.points.map Json.int := by
    simp [Tally.toJson, Tally.points, Function.comp_def]
  rw [Outcome.totalPoints, finish, this, Json.total_int]

/-! ## Log entries -/

/-- The pass in one line, once it is over. -/
def summary (p : Pass) : Text :=
  p.kind.summary p.records.length
    (Text.ofString (toString (p.deltas.points.foldl (· + ·) 0))) p.deltas.length

/-- What is logged about a match: its rounds, and the points. -/
def entries (f : Fixture) (m : Match) (announcedRounds : Text) (total : Nat) : List Entry :=
  (m.roundLines announcedRounds).map (fun line => ⟨.debug, line⟩) ++
  [⟨.info, s!"  Match {f.index + 1}/{total}: " ++ f.first.name.plain ++ " vs " ++
    f.second.name.plain ++ s!": {m.score1}-{m.score2}"⟩]

def bar : Text := Text.repeated 70 '='

/-- What is logged at the start of a pass of everybody against everybody. -/
def heading (title rounds : Text) (strategies : List Strategy) (count : Nat) : List Entry :=
  let before : List Text :=
    [bar, "TOURNAMENT: " ++ title, bar, s!"Participants: {strategies.length}"]
  let participants : List Text := strategies.map fun s => "  - " ++ s.displayInfo
  let after : List Text := ["Rounds per match: " ++ rounds,
    s!"Matches: {count} (expected {Schedule.totalMatches strategies.length})", bar]
  (before ++ participants ++ after).map fun line => ⟨.info, line⟩

end Pass
end IteratedDilemma
