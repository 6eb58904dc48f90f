import IteratedDilemma.Arena.Passes
import IteratedDilemma.Arena.StoreFile
import IteratedDilemma.Export.Results
import IteratedDilemma.Text.Blank

/-! What can be done with an arena: saving a strategy, which plays it against all others; the grand
tournament; resetting and clearing. Grand tournaments, resets and clears exclude each other by the
gate, saves do not take it. -/
namespace IteratedDilemma
set_option autoImplicit false

/-- The first parts of a value, in words. -/
def beginning (count : Nat) : Json → Except Fault Text
  | .text t => .ok (t.take count)
  | .list items => .ok (Json.list (items.take count)).plain
  | .object _ => .error (.unhashable "slice")
  | value => .error (.notSubscriptable value.typeName)

/-- The name of an author who gave none: the first characters of the identifier. -/
def defaultDisplayName (authorId : Json) : Except Fault Text := do
  return "User-" ++ (← beginning 6 (if authorId.isTruthy then authorId else .text "anon"))

/-- The text of a value without white space at its ends. -/
def stripped : Json → Except Fault Text
  | .text t => .ok t.trimmed
  | value => .error (.lacks value.typeName "strip")

/-- The name under which an author is shown. -/
def displayName (author authorId : Json) : Except Fault Text := do
  let given ← if author.isTruthy then stripped author else .ok []
  if given.isEmpty then defaultDisplayName authorId else return given

/-- The name of a strategy to be saved, which must not be blank. -/
def requiredName (name : Json) : Except Fault Text := do
  let given ← if name.isTruthy then stripped name else .ok []
  if given.isEmpty then throw .blankName else return given

/-- A strategy that has been stored but has not played yet, with the opponents it will meet. -/
structure PendingSave where
  strategy : Strategy
  opponents : List Strategy

namespace Site

/-- The first half of a save: looks up the opponents and stores the strategy. -/
def beginSave (name : Json) (tree : LogicTree) (authorId author : Json) :
    Work Site PendingSave := do
  let name ← (requiredName name : Except Fault Text)
  let author ← (displayName author authorId : Except Fault Text)
  let opponents ← ranked
  let strategy ← addStrategy (.text name) tree authorId (.text author)
  return ⟨strategy, opponents⟩

/-- The second half of a save: plays the strategy and takes over the outcome. -/
def finishSave (observe : Observer) (pending : PendingSave) :
    Work Site (Strategy × Outcome) := do
  let outcome ← playOnSave observe pending.strategy pending.opponents
  applyOutcome outcome
  let stored := (← get).arena.store.get? pending.strategy.id
  return (stored.getD pending.strategy, outcome)

/-- Stores a strategy and plays it against every one that was there. -/
def saveStrategy (observe : Observer) (name : Json) (tree : LogicTree)
    (authorId author : Json) : Work Site (Strategy × Outcome) := do
  let pending ← beginSave name tree authorId author
  finishSave observe pending

/-- Takes over the outcome of a grand tournament; a failure is logged. -/
def commitGrand (o : Outcome) : Work Site Unit := fun site =>
  match applyOutcome o site with
  | (.error fault, site) =>
    (.error fault,
      { site with host := site.host.record [⟨.error, "Grand tournament failed to commit"⟩] })
  | done => done

/-- Exports an outcome with the standings after it, if the settings ask for that. -/
def exportOutcome (o : Outcome) : Work Site Unit := do
  let settings := (← get).arena.settings
  if settings.exportResults.isTruthy then
    let folder ← onHost (Export.openFolder settings.outputDir)
    let strategies ← ranked
    let stamp ← onHost Export.stamp
    let _ ← onHost (Export.all folder o strategies settings.toJson (.text stamp))

/-- Whether there are strategies enough for a grand tournament. If not, that is logged. -/
def areEnough (strategies : List Strategy) : Work Site Bool := do
  if strategies.length < 2 then
    log .info
      s!"Skipping grand tournament: need at least 2 strategies, got {strategies.length}"
    return false
  return true

/-- Plays everybody against everybody under the gate and leaves the store alone. With fewer than two
strategies nothing is played. -/
def rehearseGrand (observe : Observer) (strategies : List Strategy) :
    Work Site (Option Outcome) := do
  if ← areEnough strategies then
    gated "Grand tournament already in progress; ignoring request" none
      (some <$> playGrand observe strategies)
  else return none

/-- Plays everybody against everybody and takes over the outcome, unless there are fewer than two
strategies. -/
def grandUnderGate (observe : Observer) : Work Site (Option Outcome) := do
  let strategies ← ranked
  if !(← areEnough strategies) then return none
  let outcome ← playGrand observe strategies
  commitGrand outcome
  exportOutcome outcome
  return some outcome

/-- The grand tournament. -/
def runGrand (observe : Observer) : Work Site (Option Outcome) :=
  gated "Tournament already in progress; ignoring request" none (grandUnderGate observe)

/-- Sets every score to 0; tells whether that was done. -/
def resetScores : Work Site Bool :=
  gated "Tournament in progress; not resetting scores" false do
    resetStore
    return true

/-- Removes everything; tells whether that was done. -/
def clearArena : Work Site Bool :=
  gated "Tournament in progress; not clearing arena" false do
    clearStore
    return true

end Site
end IteratedDilemma
