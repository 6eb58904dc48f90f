import IteratedDilemma.Arena.Basic

/-! Playing passes in an arena. The store is left alone: what a pass earns is in its outcome. An
observer is told of each match and may do anything, even give up. -/
namespace IteratedDilemma
set_option autoImplicit false

/-- What is done after each match of a pass. -/
abbrev Observer := Progress → Work Site Unit

/-- The observer that does nothing. -/
def Observer.silent : Observer := fun _ => pure ()

/-- The observer that notes what it is told, and gives up after a certain match, if any. -/
def Observer.noting (lastMatch : Option Int) (complaint : Text) : Observer := fun progress => do
  modify fun site => { site with noted := progress :: site.noted }
  if lastMatch = some (progress.completed : Int) then throw (.observer complaint)

namespace Site

/-- Makes a strategy ready for a pass, if nothing is yet under its identifier. -/
def makeReady (s : Strategy) (p : Pass) : Work Site Pass := do
  let _ ← s.id.asName
  match p.ready? s with
  | some _ => return p
  | none =>
    onHost (Host.logAll [s.readyEntry])
    return p.enlist s

/-- Plays the match of a fixture: the record gets a new identifier and the time of the clock. -/
def playMatch (total : Nat) (f : Fixture) (p : Pass) : Work Site (Pass × MatchRecord) :=
  fun site =>
    let (m, source) := p.meet f site.arena.rounds site.arena.source
    let (id, host) := site.host.nameRecord
    let record := MatchRecord.ofMatch id host.universalNow f.first f.second m
    let entries := Pass.entries f m site.arena.settings.rounds.plain total
    (.ok (p.extend record, record),
      { site with host := host.record entries, arena := { site.arena with source } })

/-- Plays one fixture of a pass, its strategies made ready. -/
def playFixture (total : Nat) (f : Fixture) (p : Pass) : Work Site (Pass × MatchRecord) := do
  playMatch total f (← makeReady f.second (← makeReady f.first p))

/-- Plays fixtures one after another. -/
def playFixtures (observe : Observer) (total : Nat) : List Fixture → Pass → Work Site Pass
  | [], p => return p
  | f :: rest, p => do
    let (p, record) ← playFixture total f p
    observe ⟨p.records.length, total, record⟩
    playFixtures observe total rest p

/-- Plays all fixtures of a pass and logs the summary of its outcome. -/
def playPass (observe : Observer) (fixtures : List Fixture) (p : Pass) : Work Site Outcome := do
  let p ← playFixtures observe fixtures.length fixtures p
  let outcome := p.finish (← get).host.universalNow
  log .info p.summary
  return outcome

/-- Refuses strategies whose identifiers cannot be counted under. -/
def checkNames (strategies : List Strategy) : Except Fault Unit :=
  strategies.forM fun s => do let _ ← s.id.asName

/-- Plays everybody against everybody. -/
def playGrand (observe : Observer) (strategies : List Strategy) : Work Site Outcome := do
  let site ← get
  checkNames strategies
  let fixtures := Schedule.roundRobin strategies
  let settings := site.arena.settings
  onHost (Host.logAll
    (Pass.heading settings.name.plain settings.rounds.plain strategies fixtures.length))
  playPass observe fixtures (.grand site.host.universalNow strategies)

/-- Plays a new strategy against all others. -/
def playOnSave (observe : Observer) (new : Strategy) (existing : List Strategy) :
    Work Site Outcome := do
  checkNames [new]
  let fixtures := Schedule.challenge new existing
  log .info ("On-save tournament: " ++ new.name.plain ++ s!" vs {fixtures.length} opponents")
  playPass observe fixtures (.onSave (← get).host.universalNow new)

end Site
end IteratedDilemma
