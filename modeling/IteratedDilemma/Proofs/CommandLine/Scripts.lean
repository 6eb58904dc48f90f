import IteratedDilemma.CommandLine.Program
import IteratedDilemma.Proofs.Work

/-! The commands of the program as scripts: sequences of steps that may fail, each with the families
of faults from which it is guarded. `run_script` says that the program runs its script, so that how
it ends can be proved by induction on the script instead of command by command. -/
namespace IteratedDilemma.CommandLine
set_option autoImplicit false

/-! ## Scripts -/

/-- What a step of a command is for. -/
inductive Stage where
  /-- Reads the file of a logic tree. -/
  | tree
  /-- Reads the settings and the file of the arena, and builds the arena. -/
  | opening
  /-- Asks for a change of the store. -/
  | change
  /-- Shows or exports something. -/
  | showing
deriving DecidableEq

/-- The families of faults from which a step is guarded. -/
def guards (mode : Mode) : Stage → FaultFamily → Bool
  | .tree, f => f.isFile || f.isValue
  | .change, f => (decide (mode = .save) && f.isValue) || f == .storage
  | .opening, _ | .showing, _ => false

theorem guards_storage (mode : Mode) : guards mode .change .storage = true := Bool.or_true _

/-- What the program says when it refuses to do something. -/
def refusals : List Text :=
  [resetWording, clearWording].flatMap fun w => [w.unconfirmed, w.refused]

theorem mem_refusals {w : Wording} (h : w ∈ [resetWording, clearWording]) :
    w.unconfirmed ∈ refusals ∧ w.refused ∈ refusals :=
  ⟨List.mem_flatMap.2 ⟨w, h, List.mem_cons_self⟩,
    List.mem_flatMap.2 ⟨w, h, List.mem_cons_of_mem _ List.mem_cons_self⟩⟩

/-- A command, cut into the steps in which something may fail. -/
inductive Script : Type 1 where
  /-- Prints lines and ends well. -/
  | done (lines : List Text)
  /-- Prints why nothing is done. -/
  | refuse (status : Nat) (line : Text) (known : line ∈ refusals)
      (failing : status = 1 ∨ status = 2)
  /-- Logs what is missing. -/
  | reject (text : Text)
  /-- Does something. If it fails with a fault from which it is guarded, a text is logged. -/
  | step {α : Type} (stage : Stage) (work : Work Host α) (report : Fault → Text)
      (next : α → Script)

namespace Script

/-- Runs a script. -/
def run (mode : Mode) : Script → Work Host Nat
  | done lines => do
    printAll lines
    return 0
  | refuse status line _ _ => do
    Host.print line
    return status
  | reject text => failWith 2 text
  | step stage work report next =>
    handling (guards mode stage) work (fun fault => failWith 1 (report fault))
      fun a => run mode (next a)

/-- A step that is not guarded. -/
def plain {α : Type} (stage : Stage) (work : Work Host α) (next : α → Script) : Script :=
  step stage work Fault.message next

end Script

theorem handling_none {α : Type} (work : Work Host α) (onFault : Fault → Work Host Nat)
    (next : α → Work Host Nat) : handling (fun _ => false) work onFault next = work >>= next := by
  funext host
  rw [handling, Work.bind_apply]
  rcases work host with ⟨_ | _, _⟩ <;> rfl

theorem handling_congr {α : Type} {families families' : FaultFamily → Bool} {work : Work Host α}
    {onFault onFault' : Fault → Work Host Nat} {next next' : α → Work Host Nat}
    (guarded : ∀ f, families f = families' f) (reported : ∀ fault, onFault fault = onFault' fault)
    (goesOn : ∀ a, next a = next' a) :
    handling families work onFault next = handling families' work onFault' next' := by
  rw [funext guarded, funext reported, funext goesOn]

namespace Script

variable {α : Type} (mode : Mode)

@[simp] theorem run_opening (work : Work Host α) (next : α → Script) :
    (plain .opening work next).run mode = work >>= fun a => (next a).run mode :=
  handling_none _ _ _

@[simp] theorem run_showing (work : Work Host α) (next : α → Script) :
    (plain .showing work next).run mode = work >>= fun a => (next a).run mode :=
  handling_none _ _ _

end Script

/-! ## The script of each command -/

/-- The standings of an arena. -/
def standingsScript (arena : Arena) : Script :=
  .plain .showing (arena.store.ranked : Except Fault (List Strategy)) fun strategies =>
    if strategies.isEmpty then .done ["The arena is empty."]
    else .plain .showing (Standings.table strategies : Except Fault (List Text)) .done

theorem printAll_append (first second : List Text) :
    printAll (first ++ second) = (do printAll first; printAll second) := by
  induction first with
  | nil => rfl
  | cons line rest ih =>
    change (Host.print line >>= fun _ => printAll (rest ++ second)) = _
    rw [ih]
    exact (bind_assoc _ _ _).symm

theorem printAll_single (line : Text) : printAll [line] = Host.print line := by
  change (Host.print line >>= fun _ => pure ()) = _
  exact bind_pure_unit

theorem run_standingsScript (mode : Mode) (arena : Arena) :
    (standingsScript arena).run mode = standings arena := by
  unfold standings standingsScript
  rw [Script.run_showing]
  congr 1
  funext strategies
  split
  · rw [Script.run, printAll_single]
  · rw [Script.run_showing]
    rfl

/-- What is printed of a strategy that has been saved. -/
def linesOfSaved (strategy : Strategy) (tree : LogicTree) (outcome : Outcome) (summary : Text) :
    List Text :=
  let rows : List Text := outcome.records.map fun r =>
    "  vs " ++ r.second.name.plain ++ s!": {r.first.score}-{r.second.score}"
  let heading : List Text := ["Saved '" ++ strategy.name.plain ++ "' (" ++ strategy.id.plain ++
    ") by " ++ strategy.author.plain, tree.describe, summary]
  heading ++ (rows ++ ["Score: " ++ strategy.score.plain])

def saveScript (c : Context) : Script :=
  match given c.options.logicFile, given c.options.name with
  | none, _ => .reject "--logic-file is required for save mode"
  | _, none => .reject "--name is required for save mode"
  | some file, some name =>
    .step .tree (Host.loadTree .commandTree file true)
      (fun fault => "Could not load logic tree from " ++ file ++ ": " ++ fault.message)
      fun tree => .plain .opening (openArena c) fun arena =>
        .step .change (inArena arena (Site.saveStrategy .silent (.text name) tree
            (.text c.options.authorId) (.ofOption c.options.author)))
          (fun fault =>
            if fault.family.isValue then "Invalid strategy: " ++ fault.message
            else "Failed to save or run tournament: " ++ fault.message)
          fun ((strategy, outcome), _) =>
            .plain .showing (outcome.summary : Except Fault Text) fun summary =>
              .done (linesOfSaved strategy tree outcome summary)

theorem run_saveScript (c : Context) : (saveScript c).run .save = save c := by
  unfold save saveScript
  dsimp only
  rcases given c.options.logicFile with _ | file
  · rfl
  rcases given c.options.name with _ | name
  · rfl
  simp only [Script.run, Script.run_opening, Script.run_showing]
  refine handling_congr (fun _ => rfl) (fun _ => rfl) fun tree => ?_
  congr 1
  funext arena
  refine handling_congr (fun _ => rfl) (fun fault => ?_) fun saved => ?_
  · split <;> rfl
  · congr 1
    funext summary
    rw [linesOfSaved, printAll_append, printAll_append, printAll_single]
    simp only [bind_assoc]

def tournamentScript (c : Context) : Script :=
  .plain .opening (openArena c) fun arena =>
    .step .change (inArena arena (Site.runGrand .silent))
      (fun fault => "Grand tournament failed: " ++ fault.message)
      fun (outcome, arena) =>
        match outcome with
        | none => .done ["Grand tournament skipped (need at least 2 strategies)."]
        | some outcome => .plain .showing (outcome.summary : Except Fault Text) fun summary =>
          .plain .showing (Host.print summary) fun _ => standingsScript arena

theorem run_tournamentScript (c : Context) :
    (tournamentScript c).run .tournament = tournament c := by
  unfold tournament tournamentScript
  simp only [Script.run, Script.run_opening]
  congr 1
  funext arena
  refine handling_congr (fun _ => rfl) (fun _ => rfl) fun answer => ?_
  obtain ⟨outcome, arena⟩ := answer
  cases outcome with
  | none => simp only [Script.run, printAll_single]
  | some outcome => simp only [Script.run_showing, run_standingsScript]

def logsScript (c : Context) : Script :=
  .plain .opening (openArena c) fun arena =>
    let records := arena.store.log (some c.options.limit)
    if records.isEmpty then .done ["No matches played yet."] else .done (records.flatMap linesOf)

theorem run_logsScript (c : Context) : (logsScript c).run .logs = logs c := by
  unfold logs logsScript
  simp only [Script.run_opening]
  congr 1
  funext arena
  split
  · rw [Script.run, printAll_single]
  · rw [Script.run]

/-- A command that must be confirmed. -/
def sweepingScript (c : Context) (w : Wording)
    (known : w.unconfirmed ∈ refusals ∧ w.refused ∈ refusals) (work : Work Site Bool) : Script :=
  if !c.options.isConfirmed then .refuse 2 w.unconfirmed known.1 (.inr rfl)
  else .plain .opening (openArena c) fun arena =>
    .step .change (inArena arena work) (fun fault => w.failed ++ fault.message)
      fun (isDone, _) => if isDone then .done [w.done] else .refuse 1 w.refused known.2 (.inl rfl)

theorem run_sweepingScript (c : Context) {mode : Mode} (other : mode ≠ .save) (w : Wording)
    (known : w.unconfirmed ∈ refusals ∧ w.refused ∈ refusals) (work : Work Site Bool) :
    (sweepingScript c w known work).run mode = sweeping c w work := by
  unfold sweeping sweepingScript
  split
  · rfl
  · simp only [Script.run, Script.run_opening]
    congr 1
    funext arena
    refine handling_congr (fun f => ?_) (fun _ => rfl) fun answer => ?_
    · simp only [guards, other, decide_false, Bool.false_and, Bool.false_or]
    · obtain ⟨isDone, last⟩ := answer
      cases isDone
      · rfl
      · simp only [Script.run, printAll_single, if_true]

def exportScript (c : Context) : Script :=
  .plain .opening (openArena c) fun arena =>
    .plain .showing (Export.openFolder arena.settings.outputDir) fun folder =>
      .plain .showing Export.stamp fun stamp =>
        .plain .showing (arena.store.ranked : Except Fault (List Strategy)) fun strategies =>
          .plain .showing (Export.standings folder strategies (.text stamp)) fun standings =>
            .plain .showing (Export.records folder (arena.store.log none) (.text stamp))
              fun records => .plain .showing (Export.logStandings strategies) fun _ =>
                .done ["Standings: " ++ standings.text, "Matches:   " ++ records.text]

theorem run_exportScript (c : Context) : (exportScript c).run .exportResults = exportResults c := by
  unfold exportResults exportScript
  simp only [Script.run, Script.run_opening, Script.run_showing]

/-- Saves the built-in strategies one after another. -/
def seedScript (arena : Arena) : List Builtin → Script
  | [] => .done []
  | b :: rest =>
    .step .change
      (inArena arena
        (Site.saveStrategy .silent (.text b.name) b.tree (.text "arena") (.text "Arena")))
      (fun fault => "Failed to seed built-in strategies: " ++ fault.message)
      fun ((strategy, outcome), arena) =>
        .plain .showing (outcome.summary : Except Fault Text) fun summary =>
          .plain .showing (Host.print ("Saved " ++ strategy.name.plain ++ ": " ++ summary)) fun _ =>
            seedScript arena rest

theorem run_seedScript (arena : Arena) (builtins : List Builtin) :
    (seedScript arena builtins).run .seedBuiltins = seedAll arena builtins := by
  induction builtins generalizing arena with
  | nil => rfl
  | cons b rest ih =>
    unfold seedAll seedScript
    simp only [Script.run, Script.run_showing, ih]
    rfl

/-- What the options ask for. -/
def script (c : Context) : Script :=
  match c.options.mode with
  | .save => saveScript c
  | .tournament => tournamentScript c
  | .standings => .plain .opening (openArena c) standingsScript
  | .logs => logsScript c
  | .resetScores => sweepingScript c resetWording (mem_refusals (.head _)) Site.resetScores
  | .clear => sweepingScript c clearWording (mem_refusals (.tail _ (.head _))) Site.clearArena
  | .exportResults => exportScript c
  | .seedBuiltins => .plain .opening (openArena c) fun arena => seedScript arena Builtin.all

/-- The program is the run of its script. -/
theorem run_script (c : Context) : (script c).run c.options.mode = run c := by
  unfold script run
  cases c.options.mode with
  | save => exact run_saveScript c
  | tournament => exact run_tournamentScript c
  | standings => simp only [Script.run_opening, run_standingsScript]
  | logs => exact run_logsScript c
  | resetScores => exact run_sweepingScript c (by decide) _ _ _
  | clear => exact run_sweepingScript c (by decide) _ _ _
  | exportResults => exact run_exportScript c
  | seedBuiltins => simp only [Script.run_opening, run_seedScript]

end IteratedDilemma.CommandLine
