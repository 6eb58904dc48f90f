import IteratedDilemma.Arena.Operations
import IteratedDilemma.CommandLine.Options
import IteratedDilemma.Strategy.Builtin

/-! What the program does on the command line. It answers with an exit status: 0 for success, 1 for
a failure, 2 for a request that is incomplete or not confirmed. -/
namespace IteratedDilemma.CommandLine
set_option autoImplicit false

/-- An option that counts only if it is not empty. -/
def given (option : Option Text) : Option Text :=
  option.filter fun t => !t.isEmpty

/-- The settings: from a file or the usual ones, then the environment, then the options. -/
def settingsFor (o : Options) (environment : Json.Fields) : Work Host Settings := do
  let settings ← match given o.config with
    | some file => Settings.ofJson (← Host.loadDocumentAt .commandSettings file)
    | none => (pure .default : Except Fault Settings)
  let s ← settings.applyEnvironment environment
  return { s with
    arenaFile := ((given o.arena).map Json.text).getD s.arenaFile
    seed := (o.seed.map Json.int).getD s.seed
    rounds := (o.rounds.map Json.int).getD s.rounds
    outputDir := ((given o.outputDir).map Json.text).getD s.outputDir }

/-- What a command works with: its options, its environment, and whether the gate of its arena is
held by somebody else. -/
structure Context where
  options : Options
  environment : Json.Fields
  isBusy : Bool

/-- The arena in the file that the settings name. -/
def openArena (c : Context) : Work Host Arena := do
  let settings ← settingsFor c.options c.environment
  let file ← Path.ofJson settings.arenaFile
  let store ← Store.load .commandArena file
  let arena ← Arena.build store (some file) settings none (← get).entropy
  return { arena with isHeld := c.isBusy }

/-- Work in an arena, with the arena after it. -/
def inArena {α : Type} (arena : Arena) (work : Work Site α) : Work Host (α × Arena) :=
  fun host =>
    match work ⟨host, arena, []⟩ with
    | (.ok a, site) => (.ok (a, site.arena), site.host)
    | (.error fault, site) => (.error fault, site.host)

/-- Work whose faults of some families are handled; others end the program. -/
def handling {α : Type} (families : FaultFamily → Bool) (work : Work Host α)
    (onFault : Fault → Work Host Nat) (next : α → Work Host Nat) : Work Host Nat := fun host =>
  match work host with
  | (.ok a, host) => next a host
  | (.error fault, host) =>
    if families fault.family then onFault fault host else (.error fault, host)

/-- Logs an error and ends with a status. -/
def failWith (status : Nat) (text : Text) : Work Host Nat := do
  Host.log .error text
  return status

def printAll : List Text → Work Host Unit
  | [] => return
  | line :: rest => do
    Host.print line
    printAll rest

def standings (arena : Arena) : Work Host Nat := do
  let strategies ← arena.store.ranked
  if strategies.isEmpty then Host.print "The arena is empty."
  else printAll (← (Standings.table strategies : Except Fault (List Text)))
  return 0

def save (c : Context) : Work Host Nat := do
  let o := c.options
  match given o.logicFile, given o.name with
  | none, _ => failWith 2 "--logic-file is required for save mode"
  | _, none => failWith 2 "--name is required for save mode"
  | some file, some name =>
    handling (fun f => f.isFile || f.isValue) (Host.loadTree .commandTree file true)
      (fun fault =>
        failWith 1 ("Could not load logic tree from " ++ file ++ ": " ++ fault.message))
      fun tree => do
        let arena ← openArena c
        handling (fun f => f.isValue || f == .storage)
          (inArena arena
            (Site.saveStrategy .silent (.text name) tree (.text o.authorId) (.ofOption o.author)))
          (fun fault =>
            if fault.family.isValue then failWith 1 ("Invalid strategy: " ++ fault.message)
            else failWith 1 ("Failed to save or run tournament: " ++ fault.message))
          fun ((strategy, outcome), _) => do
            printAll ["Saved '" ++ strategy.name.plain ++ "' (" ++ strategy.id.plain ++ ") by " ++
              strategy.author.plain, tree.describe, ← outcome.summary]
            printAll (outcome.records.map fun r =>
              "  vs " ++ r.second.name.plain ++ s!": {r.first.score}-{r.second.score}")
            Host.print ("Score: " ++ strategy.score.plain)
            return 0

def tournament (c : Context) : Work Host Nat := do
  let arena ← openArena c
  handling (· == .storage) (inArena arena (Site.runGrand .silent))
    (fun fault => failWith 1 ("Grand tournament failed: " ++ fault.message))
    fun (outcome, arena) => do
      match outcome with
      | none =>
        Host.print "Grand tournament skipped (need at least 2 strategies)."
        return 0
      | some outcome =>
        Host.print (← outcome.summary)
        standings arena

/-- A record on three lines. -/
def linesOf (r : MatchRecord) : List Text :=
  [r.first.name.plain ++ " vs " ++ r.second.name.plain ++
      s!"  {r.first.score} - {r.second.score}",
    "  " ++ lettersOf r.first.moves, "  " ++ lettersOf r.second.moves]

def logs (c : Context) : Work Host Nat := do
  let arena ← openArena c
  let records := arena.store.log (some c.options.limit)
  if records.isEmpty then Host.print "No matches played yet."
  else printAll (records.flatMap linesOf)
  return 0

/-- The lines and the fault text of a command that must be confirmed. -/
structure Wording where
  unconfirmed : Text
  failed : Text
  refused : Text
  done : Text

/-- A command that changes everything in an arena and therefore must be confirmed. -/
def sweeping (c : Context) (w : Wording) (work : Work Site Bool) : Work Host Nat := do
  if !c.options.isConfirmed then
    Host.print w.unconfirmed
    return 2
  let arena ← openArena c
  handling (· == .storage) (inArena arena work)
    (fun fault => failWith 1 (w.failed ++ fault.message))
    fun (isDone, _) => do
      Host.print (if isDone then w.done else w.refused)
      return if isDone then 0 else 1

def resetWording : Wording where
  unconfirmed := "Refusing to reset scores without --yes."
  failed := "Failed to reset scores: "
  refused := "A tournament is in progress; scores were not reset."
  done := "All strategy scores have been reset to 0."

def clearWording : Wording where
  unconfirmed := "Refusing to clear the arena without --yes."
  failed := "Failed to clear arena: "
  refused := "A tournament is in progress; the arena was not cleared."
  done := "The entire arena (all strategies and logs) has been cleared."

def exportResults (c : Context) : Work Host Nat := do
  let arena ← openArena c
  let folder ← Export.openFolder arena.settings.outputDir
  let stamp := Json.text (← Export.stamp)
  let strategies ← arena.store.ranked
  let standings ← Export.standings folder strategies stamp
  let records ← Export.records folder (arena.store.log none) stamp
  Export.logStandings strategies
  printAll ["Standings: " ++ standings.text, "Matches:   " ++ records.text]
  return 0

/-- Saves the built-in strategies one after another. -/
def seedAll (arena : Arena) : List Builtin → Work Host Nat
  | [] => return 0
  | b :: rest =>
    handling (· == .storage)
      (inArena arena (Site.saveStrategy .silent (.text b.name) b.tree (.text "arena") (.text "Arena")))
      (fun fault => failWith 1 ("Failed to seed built-in strategies: " ++ fault.message))
      fun ((strategy, outcome), arena) => do
        Host.print ("Saved " ++ strategy.name.plain ++ ": " ++ (← outcome.summary))
        seedAll arena rest

/-- Does what the options ask for. -/
def run (c : Context) : Work Host Nat := do
  match c.options.mode with
  | .save => save c
  | .tournament => tournament c
  | .standings => standings (← openArena c)
  | .logs => logs c
  | .resetScores => sweeping c resetWording Site.resetScores
  | .clear => sweeping c clearWording Site.clearArena
  | .exportResults => exportResults c
  | .seedBuiltins => seedAll (← openArena c) Builtin.all

/-- The program: its arguments, its environment, and whether its arena is busy. -/
def execute (arguments : List Text) (environment : Json.Fields) (isBusy : Bool) :
    Work Host Nat :=
  match Request.ofArguments arguments with
  | .run options => run ⟨options, environment, isBusy⟩
  | .help => return 0
  | .refused => return 2

end IteratedDilemma.CommandLine
