import IteratedDilemma.Arena.Basic
import IteratedDilemma.Host.Document

/-! The file of an arena. Every change of the store is written before it takes effect, so a change
that cannot be written is none. -/
namespace IteratedDilemma
set_option autoImplicit false

namespace Store

/-- The strategies of a document, one after another, with what reading each of them reports. -/
def strategiesOf : List Json → Work Host (List Strategy)
  | [] => return []
  | data :: rest => do
    Host.logAll (Strategy.notices false data)
    let strategy ← Strategy.ofJson false data
    return strategy :: (← strategiesOf rest)

/-- The strategies and records of the fields of a document. -/
def partsOf (fields : Json.Fields) : Work Host (List Strategy × List MatchRecord) := do
  let strategies ← strategiesOf (← (fields.firstOf ["strategies"] (.list [])).items)
  let now := (← get).universalNow
  let records ← (← (fields.firstOf ["match_records"] (.list [])).items).mapM
    fun data => (MatchRecord.ofJson now data : Except Fault MatchRecord)
  return (strategies, records)

/-- Work whose faults of the given families are reported as another fault. -/
def reporting {α : Type} (families : FaultFamily → Bool) (wrap : Fault → Fault)
    (work : Work Host α) : Work Host α := fun host =>
  match work host with
  | (.error fault, host) => (.error (if families fault.family then wrap fault else fault), host)
  | done => done

/-- The store of the document at a path; an empty one if the document is null. -/
def ofDocument (p : Path) : Json → Work Host Store
  | .null => do
    Host.log .info ("No arena file at " ++ p.text ++ "; starting empty")
    return .empty
  | .object fields => do
    let (strategies, records) ← reporting (fun f => f == .key || f == .type || f.isValue)
      (.malformedArena p.text) (partsOf fields)
    Host.log .info ("Loaded arena from " ++ p.text ++
      s!": {strategies.length} strategies, {records.length} match records")
    return .ofLists strategies records
  | data => throw (.notAnArena p.text data.typeName)

/-- The store in the file at a path; an empty one if there is no file, or null in it. -/
def load (purpose : Purpose) (p : Path) : Work Host Store := do
  let data ← reporting (fun f => f.isFile || f.isValue) (.unreadableArena p.text)
    (Host.loadDocument purpose p)
  ofDocument p (data.getD .null)

end Store

namespace Site

/-- Writes a store to the file of the arena. -/
def writeStore (store : Store) (p : Path) : Work Host Unit := fun host =>
  match Host.saveDocument store.toJson p host with
  | (.error fault, host) =>
    (.error (.unwritableArena p.text fault),
      host.record [⟨.error, "Failed to write arena file " ++ p.text ++ ": " ++ fault.message⟩])
  | done => done

/-- Makes a store the one of the arena, after it is written if the arena has a file. -/
def commit (store : Store) : Work Site Unit := do
  match (← get).arena.file with
  | none => pure ()
  | some p => onHost (writeStore store p)
  modify fun site => { site with arena := { site.arena with store } }

/-- Adds a strategy of score 0, created now under a new identifier. -/
def addStrategy (name : Json) (tree : LogicTree) (authorId author : Json) :
    Work Site Strategy := do
  let site ← get
  let (id, host) := site.host.nameStrategy
  set { site with host }
  let strategy : Strategy := {
    id := .text id
    name
    tree
    author
    authorId
    score := .int 0
    createdAt := some host.universalNow }
  commit (site.arena.store.add strategy)
  log .info ("Stored strategy " ++ name.plain ++ " (" ++ id ++ ")")
  return strategy

/-- Takes over an outcome. -/
def applyOutcome (o : Outcome) : Work Site Unit := do
  commit (← (← get).arena.store.apply o)
  log .info ("Committed " ++ o.kind.name ++
    s!" outcome: {o.records.length} records, {o.deltas.length} score updates")

/-- Sets every score to 0. -/
def resetStore : Work Site Unit := do
  commit (← get).arena.store.reset
  log .info "All strategy scores reset to 0"

/-- Removes all strategies and records. -/
def clearStore : Work Site Unit := do
  commit .empty
  log .info "Arena cleared"

end Site
end IteratedDilemma
