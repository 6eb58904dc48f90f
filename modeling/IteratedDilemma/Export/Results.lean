import IteratedDilemma.Export.Address
import IteratedDilemma.Export.Csv
import IteratedDilemma.Host.Document
import IteratedDilemma.Tournament.Outcome
import IteratedDilemma.Tournament.Standings

/-! Results as files: an outcome as a document, standings and records as tables. -/
namespace IteratedDilemma.Export
set_option autoImplicit false

/-- The folder for results, made if it is missing. -/
def openFolder (dir : Json) : Work Host Path := do
  let folder ← Path.ofJson dir
  Host.onDisk (Disk.makeFolders folder)
  return folder

/-- The time in names of files. -/
def stamp : Work Host Text := do
  return Text.ofString (← get).localNow.compactText

/-- The document of an outcome, with the settings it was played under if there are any. -/
def document (o : Outcome) (settings : Json) (exportedAt : Timestamp) (stamp : Json) : Json :=
  let config : Json.Fields := if settings.isTruthy then [("config", settings)] else []
  let metadata : Json.Fields := [("metadata", .object [
    ("export_time", .text exportedAt.isoText), ("timestamp", stamp)])]
  .object (o.fields ++ config ++ metadata)

/-- Writes the document of an outcome. The stamp in the name of the file may be any value. -/
def outcome (folder : Path) (o : Outcome) (settings stamp : Json) : Work Host Path := do
  let data := document o settings (← get).localNow stamp
  let p := folder.append
    (.ofText ("tournament_" ++ o.kind.name ++ "_" ++ stamp.plain ++ ".json"))
  Host.changeDisk fun d => d.write p p.text data.write
  Host.log .info ("Results saved to: " ++ p.text)
  return p

/-- Writes a table in a folder that must be there. -/
def writeTableAt (p : Path) (rows : List (List Text)) : Work Host Unit := do
  if ← Host.inspect fun d => d.isFolder p.parent then
    Host.onDisk (Disk.writeLines p p.text (Csv.table rows))
  else throw (.file (.noFolder p.parent.text))

/-- Writes a table where a path leads, unless it looks like an address. -/
def writeTable (p : Path) (rows : List (List Text)) : Work Host Unit := do
  if Address.isAddress p.text then Address.fetch p.text
  else writeTableAt (p.expanded (← get).home) rows

/-- The rows of the standings under their header. -/
def standingRows (ranked : List Strategy) : List (List Text) :=
  let ids := Csv.column (ranked.map Strategy.id)
  let names := Csv.column (ranked.map Strategy.name)
  let authors := Csv.column (ranked.map Strategy.author)
  let scores := Csv.column (ranked.map Strategy.score)
  let rows := (ids.zip (names.zip (authors.zip scores))).mapIdx
    fun i (id, name, author, score) => [Text.ofString (toString (i + 1)), id, name, author, score]
  ["rank", "id", "strategy", "author", "score"] :: rows

def standings (folder : Path) (strategies : List Strategy) (stamp : Json) :
    Work Host Path := do
  let ranked ← (Standings.ranked strategies : Except Fault (List Strategy))
  let p := folder.append (.ofText ("tournament_standings_" ++ stamp.plain ++ ".csv"))
  writeTable p (standingRows ranked)
  Host.log .info ("Standings saved to: " ++ p.text)
  return p

/-- The rows of records under their header. -/
def recordRows (records : List MatchRecord) : List (List Text) :=
  let names1 := Csv.column (records.map fun r => r.first.name)
  let names2 := Csv.column (records.map fun r => r.second.name)
  let scores1 := Csv.column (records.map fun r => .int r.first.score)
  let scores2 := Csv.column (records.map fun r => .int r.second.score)
  let rows := (records.zip (names1.zip (names2.zip (scores1.zip scores2)))).map
    fun (r, name1, name2, score1, score2) =>
      [Text.ofString r.playedAt.isoText, name1, name2, score1, score2,
        Text.ofString (lettersOf r.first.moves), Text.ofString (lettersOf r.second.moves)]
  ["played_at", "strategy1", "strategy2", "score1", "score2", "moves1", "moves2"] :: rows

def records (folder : Path) (records : List MatchRecord) (stamp : Json) : Work Host Path := do
  let p := folder.append (.ofText ("tournament_matches_" ++ stamp.plain ++ ".csv"))
  writeTable p (recordRows records)
  Host.log .info ("Matches saved to: " ++ p.text)
  return p

/-- The files of a whole export. -/
structure Files where
  outcome : Path
  standings : Path
  records : Path

/-- Exports an outcome with its records, and the standings. -/
def all (folder : Path) (o : Outcome) (strategies : List Strategy) (settings stamp : Json) :
    Work Host Files := do
  let first ← outcome folder o settings stamp
  let second ← standings folder strategies stamp
  let third ← records folder o.records stamp
  return ⟨first, second, third⟩

/-- Logs the table of standings. -/
def logStandings (strategies : List Strategy) : Work Host Unit := do
  let lines ← (Standings.table strategies : Except Fault (List Text))
  Host.logAll (lines.map fun line => ⟨.info, line⟩)

end IteratedDilemma.Export
