import IteratedDilemma.Proofs.Arena.Footprint
import IteratedDilemma.Proofs.CommandLine.Exits
import IteratedDilemma.Proofs.Store.File

/-! Which files the program on the command line writes: the file of its arena, if the command may
change the arena, and its exports (`execute_footprint`). Exports go to the folder for results, but
tables do not if that folder is named by a `~` (`tables_leave_folder`). -/
namespace IteratedDilemma
set_option autoImplicit false

/-! ## What a script keeps -/

namespace Host

/-- A host with the same disk. -/
def KeepsDisk (h h' : Host) : Prop := h'.disk = h.disk

instance : IsPreorder Host KeepsDisk where
  refl _ := rfl
  trans _ _ _ ab bc := bc.trans ab

/-- Relations between hosts that do not heed what is logged and printed. -/
class IsDeaf (R : Host → Host → Prop) : Prop extends IsPreorder Host R where
  record : ∀ (host : Host) (entries : List Entry), R host (host.record entries)
  print : ∀ (host : Host) (line : Text), R host { host with printed := line :: host.printed }

instance : IsDeaf KeepsDisk := ⟨fun _ _ => rfl, fun _ _ => rfl⟩

instance (here : Place) (home : Path.Homes) : IsDeaf (Spares here home) :=
  ⟨fun _ _ at_home => ⟨at_home, refl_of (Disk.Spares here) _⟩,
    fun _ _ at_home => ⟨at_home, refl_of (Disk.Spares here) _⟩⟩

end Host

namespace CommandLine

open Host (IsDeaf KeepsDisk Spares HasNoted)

variable {R : Host → Host → Prop} [IsDeaf R] {mode : Mode} {host : Host}

/-- Each step that a run of a script takes on a host keeps a relation. -/
inductive Script.Keeps (R : Host → Host → Prop) : Script → Host → Prop where
  | done {lines : List Text} {host : Host} : Keeps R (.done lines) host
  | refuse {status : Nat} {line : Text} {known : line ∈ refusals}
      {failing : status = 1 ∨ status = 2} {host : Host} :
      Keeps R (.refuse status line known failing) host
  | reject {text : Text} {host : Host} : Keeps R (.reject text) host
  | step {α : Type} {stage : Stage} {work : Work Host α} {report : Fault → Text}
      {next : α → Script} {host : Host} : R host (work host).2 →
      (∀ a between, work host = (.ok a, between) → Keeps R (next a) between) →
      Keeps R (.step stage work report next) host

theorem printAll_keeps (lines : List Text) : Work.Within R (printAll lines) := by
  induction lines with
  | nil => exact Work.within_pure _
  | cons line rest ih => exact Work.within_bind (fun host => IsDeaf.print host line) fun _ => ih

namespace Script

theorem Keeps.run {s : Script} (h : s.Keeps R host) : R host (s.run mode host).2 := by
  induction h with
  | done => exact Work.within_bind (printAll_keeps _) (fun _ => Work.within_pure _) _
  | refuse => exact IsDeaf.print _ _
  | reject => exact IsDeaf.record _ _
  | @step _ _ work _ _ host kept _ ih =>
    rw [Script.run, handling]
    rcases went : work host with ⟨fault | a, between⟩ <;> rw [went] at kept
    · dsimp only
      split
      · exact trans_of R kept (IsDeaf.record _ _)
      · exact kept
    · exact trans_of R kept (ih a between went)

theorem keeps_lift {α : Type} {stage : Stage} {r : Except Fault α} {report : Fault → Text}
    {next : α → Script} (h : ∀ a, (next a).Keeps R host) :
    (step stage (liftM r) report next).Keeps R host := by
  refine .step (refl_of R host) fun a between went => ?_
  obtain ⟨-, rfl⟩ := Work.lift_eq_ok went
  exact h a

theorem keeps_standings (arena : Arena) : (standingsScript arena).Keeps R host := by
  refine keeps_lift fun strategies => ?_
  split
  · exact .done
  · exact keeps_lift fun _ => .done

end Script

/-! ## Opening the arena -/

theorem settingsFor_noted (o : Options) (environment : Json.Fields) :
    Work.Within HasNoted (settingsFor o environment) := by
  unfold settingsFor
  split
  · exact Work.within_bind (Work.within_bind (Host.inspect_noted _) fun _ => Work.within_lift _)
      fun _ => Work.within_bind (Work.within_lift _) fun _ => Work.within_bind (Work.within_lift _)
        fun _ => Work.within_pure _
  · exact Work.within_bind (Work.within_lift _) fun _ => Work.within_bind (Work.within_lift _)
      fun _ => Work.within_pure _

theorem openArena_noted (c : Context) : Work.Within HasNoted (openArena c) :=
  Work.within_bind (settingsFor_noted _ _) fun _ => Work.within_bind (Work.within_lift _) fun _ =>
    Work.within_bind (Store.load_noted _ _) fun _ => Work.within_bind Work.within_get fun _ =>
      Work.within_bind (Work.within_lift _) fun _ => Work.within_pure _

theorem loadTree_noted (purpose : Purpose) (t : Text) (strict : Bool) :
    Work.Within HasNoted (Host.loadTree purpose t strict) :=
  Work.within_bind (Work.within_bind (Host.inspect_noted _) fun _ => Work.within_lift _) fun _ =>
    Work.within_bind (Host.logAll_noted _) fun _ => Work.within_lift _

theorem Script.keeps_opening {c : Context} {next : Arena → Script}
    (h : ∀ arena entries, openArena c host = (.ok arena, host.record entries) →
      (next arena).Keeps R (host.record entries)) :
    (plain .opening (openArena c) next).Keeps R host := by
  have noted := openArena_noted c host
  refine .step ?_ fun arena between went => ?_
  · obtain ⟨entries, e⟩ := noted
    rw [e]
    exact IsDeaf.record host entries
  · rw [went] at noted
    obtain ⟨entries, rfl⟩ := noted
    exact h arena entries went

/-- A command whose arena cannot be opened goes no further. -/
theorem Script.keeps_unopened {c : Context} {next : Arena → Script} {last : Host} {fault : Fault}
    (failed : openArena c host = (.error fault, last)) :
    (plain .opening (openArena c) next).Keeps R host := by
  refine keeps_opening fun _ _ opened => ?_
  cases failed.symm.trans opened

/-! ## The scripts of commands

What a command keeps is what it keeps at the step that changes its arena. -/

theorem keeps_saveScript {c : Context}
    (h : ∀ file name tree between arena entries, given c.options.logicFile = some file →
      given c.options.name = some name →
      Host.loadTree .commandTree file true host = (.ok tree, between) →
      openArena c between = (.ok arena, between.record entries) →
      R (between.record entries) (inArena arena (Site.saveStrategy .silent (.text name) tree
        (.text c.options.authorId) (.ofOption c.options.author)) (between.record entries)).2) :
    (saveScript c).Keeps R host := by
  unfold saveScript
  split
  · exact .reject
  · exact .reject
  · next file name hfile hname =>
    obtain ⟨read, e⟩ := loadTree_noted .commandTree file true host
    refine .step (e ▸ IsDeaf.record host read) fun tree between went => ?_
    refine Script.keeps_opening fun arena entries opened => ?_
    refine .step (h file name tree between arena entries hfile hname went opened)
      fun saved _ _ => ?_
    exact Script.keeps_lift fun _ => .done

theorem keeps_tournamentScript {c : Context}
    (h : ∀ arena entries, openArena c host = (.ok arena, host.record entries) →
      R (host.record entries)
        (inArena arena (Site.runGrand .silent) (host.record entries)).2) :
    (tournamentScript c).Keeps R host := by
  refine Script.keeps_opening fun arena entries opened => ?_
  refine .step (h arena entries opened) fun answer _ _ => ?_
  obtain ⟨outcome, arena'⟩ := answer
  dsimp only
  split
  · exact .done
  · exact Script.keeps_lift fun _ => .step (IsDeaf.print _ _) fun _ _ _ =>
      Script.keeps_standings arena'

theorem keeps_sweepingScript {c : Context} {w : Wording}
    {known : w.unconfirmed ∈ refusals ∧ w.refused ∈ refusals} {work : Work Site Bool}
    (h : c.options.isConfirmed = true → ∀ arena entries,
      openArena c host = (.ok arena, host.record entries) →
      R (host.record entries) (inArena arena work (host.record entries)).2) :
    (sweepingScript c w known work).Keeps R host := by
  unfold sweepingScript
  split
  · exact .refuse
  · next confirmed =>
    have confirmed : c.options.isConfirmed = true := by simpa using confirmed
    refine Script.keeps_opening fun arena entries opened => ?_
    refine .step (h confirmed arena entries opened) fun answer last went => ?_
    obtain ⟨isDone, arena'⟩ := answer
    dsimp only
    split
    · exact .done
    · exact .refuse

/-- Commands that only show something keep whatever does not heed what is printed. -/
theorem keeps_showing {c : Context}
    (shows : c.options.mode ∈ [.standings, .logs]) : (script c).Keeps R host := by
  simp only [List.mem_cons, List.not_mem_nil, or_false] at shows
  unfold script
  rcases shows with mode | mode <;> rw [mode]
  · exact Script.keeps_opening fun arena _ _ => Script.keeps_standings arena
  · refine Script.keeps_opening fun arena _ _ => ?_
    dsimp only
    split <;> exact .done

/-! ## Work in the arena -/

theorem inArena_snd {α : Type} (arena : Arena) (work : Work Site α) (host : Host) :
    (inArena arena work host).2 = (work ⟨host, arena, []⟩).2.host := by
  unfold inArena
  rcases work ⟨host, arena, []⟩ with ⟨_ | _, _⟩ <;> rfl

section InArena

variable {here : Place} {arena : Arena} {α : Type} {work : Work Site α}

theorem inArena_spares (frames : Work.Within (Site.Frames here) work)
    (apart : ∀ p ∈ arena.file, p.place ≠ here) (home : Path.Homes) :
    Spares here home host (inArena arena work host).2 := by
  rw [inArena_snd]
  exact (frames ⟨host, arena, []⟩).host apart home

theorem inArena_file (frames : Work.Within (Site.Frames here) work) {last : Host} {a : α}
    {arena' : Arena} (h : inArena arena work host = (.ok (a, arena'), last)) :
    arena'.file = arena.file := by
  have file := (frames ⟨host, arena, []⟩).file
  unfold inArena at h
  split at h
  · next e =>
    rw [e] at file
    cases h
    exact file
  · cases h

theorem seed_spares (apart : ∀ p ∈ arena.file, p.place ≠ here) {home : Path.Homes}
    (builtins : List Builtin) : (seedScript arena builtins).Keeps (Spares here home) host := by
  induction builtins generalizing arena host with
  | nil => exact .done
  | cons b rest ih =>
    have frames := @Site.saveStrategy_frames here (.text b.name) b.tree (.text "arena")
      (.text "Arena")
    refine .step (inArena_spares frames apart home) fun answer between went => ?_
    obtain ⟨⟨strategy, outcome⟩, arena'⟩ := answer
    refine Script.keeps_lift fun summary => ?_
    refine .step (IsDeaf.print between _) fun _ last printed => ?_
    exact ih fun p hp => apart p (inArena_file frames went ▸ hp)

end InArena

/-! ## What a command may write -/

/-- The commands that change the store of their arena. -/
def Mode.changes : Mode → Bool
  | save | tournament | resetScores | clear | seedBuiltins => true
  | standings | logs | exportResults => false

/-- Where a command in an arena exports to. -/
def exportPaths (mode : Mode) (arena : Arena) (host : Host) : List Path :=
  match mode, Path.ofJson arena.settings.outputDir with
  | .exportResults, .ok folder => Export.tables folder host.home (Export.stampOf host)
  | .tournament, .ok folder =>
    if arena.settings.exportResults.isTruthy then
      Export.grandPaths folder host.home (Export.stampOf host)
    else []
  | _, _ => []

/-- The paths that a command may write to when it has opened its arena: that of the file of the
arena, if it changes the store, and those of its exports. -/
def Context.MayWrite (c : Context) (host : Host) (p : Path) : Prop :=
  ∃ here arena last, c.Opens host here ∧ openArena c here = (.ok arena, last) ∧
    (c.options.mode.changes = true ∧ p ∈ arena.file ∨ p ∈ exportPaths c.options.mode arena host)

/-- The commands that do nothing to the disk: those that only show something, those that are not
confirmed, and those that get no further than to what they need. -/
inductive Context.IsIdle (c : Context) (host : Host) : Prop where
  | shows : c.options.mode ∈ [.standings, .logs] → IsIdle c host
  | unconfirmed : c.options.mode ∈ [.resetScores, .clear] → c.options.isConfirmed = false →
      IsIdle c host
  | unopened {here last : Host} {fault : Fault} : c.Opens host here →
      openArena c here = (.error fault, last) → IsIdle c host
  | incomplete : c.options.mode = .save →
      given c.options.logicFile = none ∨ given c.options.name = none → IsIdle c host
  | malformed {file : Text} {fault : Fault} {last : Host} : c.options.mode = .save →
      given c.options.logicFile = some file →
      Host.loadTree .commandTree file true host = (.error fault, last) → IsIdle c host
  | unnamed {name : Text} : c.options.mode = .save → given c.options.name = some name →
      name.trimmed = [] → IsIdle c host
  | tooFew {arena : Arena} {last : Host} : c.options.mode = .tournament →
      openArena c host = (.ok arena, last) → arena.store.strategies.length < 2 → IsIdle c host

theorem exportPaths_export {arena : Arena} {folder : Path}
    (h : Path.ofJson arena.settings.outputDir = .ok folder) (host : Host) :
    exportPaths .exportResults arena host =
      Export.tables folder host.home (Export.stampOf host) := by
  unfold exportPaths
  rw [h]

theorem exportPaths_tournament {arena : Arena} {folder : Path}
    (h : Path.ofJson arena.settings.outputDir = .ok folder)
    (asked : arena.settings.exportResults.isTruthy = true) (host : Host) :
    exportPaths .tournament arena host =
      Export.grandPaths folder host.home (Export.stampOf host) := by
  unfold exportPaths
  rw [h]
  exact if_pos asked

/-- All exports of a command go to the folder for results if no `~` at its head stands for another
one. -/
theorem parent_of_exportPaths {arena : Arena} {folder q : Path}
    (h : Path.ofJson arena.settings.outputDir = .ok folder)
    (itself : folder.expanded host.home = folder) (hq : q ∈ exportPaths mode arena host) :
    q.parent = folder := by
  have plain := Export.slash_notMem_stampOf host
  unfold exportPaths at hq
  rw [h] at hq
  split at hq
  · next e =>
    cases e
    rw [Export.parent_of_tables plain hq, itself]
  · next e =>
    cases e
    split at hq
    · rcases Export.parent_of_grandPaths plain hq with parent | parent
      · exact parent
      · rw [parent, itself]
    · cases hq
  · cases hq

theorem Context.opens_self {c : Context} (h : c.options.mode ∉ [.save, .resetScores, .clear])
    (host : Host) : c.Opens host host := by
  unfold Context.Opens
  split
  · next mode => exact absurd (mode ▸ List.mem_cons_self) h
  · next mode => exact absurd (mode ▸ .tail _ (.head _)) h
  · next mode => exact absurd (mode ▸ .tail _ (.tail _ (.head _))) h
  · rfl

section MayWrite

variable {c : Context} {here : Place}

theorem apart_file (apart : ∀ p, c.MayWrite host p → p.place ≠ here) {between last : Host}
    {arena : Arena} (opens : c.Opens host between)
    (opened : openArena c between = (.ok arena, last)) (changes : c.options.mode.changes = true) :
    ∀ p ∈ arena.file, p.place ≠ here :=
  fun p hp => apart p ⟨between, arena, last, opens, opened, .inl ⟨changes, hp⟩⟩

theorem apart_exports (apart : ∀ p, c.MayWrite host p → p.place ≠ here) {between last : Host}
    {arena : Arena} (opens : c.Opens host between)
    (opened : openArena c between = (.ok arena, last)) :
    ∀ q ∈ exportPaths c.options.mode arena host, q.place ≠ here :=
  fun q hq => apart q ⟨between, arena, last, opens, opened, .inr hq⟩

theorem save_spares (apart : ∀ p, c.MayWrite host p → p.place ≠ here)
    (mode : c.options.mode = .save) : (saveScript c).Keeps (Spares here host.home) host := by
  refine keeps_saveScript fun file name tree between arena entries hfile hname read opened => ?_
  have opens : c.Opens host between := by
    unfold Context.Opens
    rw [mode]
    exact ⟨file, name, tree, hfile, hname, read⟩
  exact inArena_spares (Site.saveStrategy_frames _ _ _ _)
    (apart_file apart opens opened (by rw [mode]; rfl)) _

theorem tournament_spares (apart : ∀ p, c.MayWrite host p → p.place ≠ here)
    (mode : c.options.mode = .tournament) :
    (tournamentScript c).Keeps (Spares here host.home) host := by
  refine keeps_tournamentScript fun arena entries opened => ?_
  have opens : c.Opens host host := Context.opens_self (by rw [mode]; decide) host
  have file := apart_file apart opens opened (by rw [mode]; rfl)
  have exports := apart_exports apart opens opened
  rw [inArena_snd]
  refine @Site.runGrand_spares here ⟨host.record entries, arena, []⟩ file
    fun asked folder named q hq => exports q ?_
  rw [mode, exportPaths_tournament named asked]
  exact hq

theorem export_spares (apart : ∀ p, c.MayWrite host p → p.place ≠ here)
    (mode : c.options.mode = .exportResults) :
    (exportScript c).Keeps (Spares here host.home) host := by
  refine Script.keeps_opening fun arena entries opened => ?_
  have opens : c.Opens host host := Context.opens_self (by rw [mode]; decide) host
  have exports := apart_exports apart opens opened
  refine .step (Export.openFolder_spares _ _) fun folder made went => ?_
  rw [mode, exportPaths_export (Export.openFolder_ok went)] at exports
  -- the folder is made at the time at which the arena has been opened
  have clock := Export.openFolder_within arena.settings.outputDir (host.record entries)
  rw [went] at clock
  refine .step (refl_of (Spares here host.home) made) fun stamp between stamped => ?_
  obtain ⟨same, rfl⟩ := Export.stamp_ok stamped
  rw [same, Export.stampOf_congr clock.now]
  refine Script.keeps_lift fun strategies => ?_
  refine .step (Export.standings_spares exports strategies _) fun standings _ _ => ?_
  refine .step (Export.records_spares exports _ _) fun records _ _ => ?_
  refine .step ?_ fun _ _ _ => .done
  exact Work.within_bind (Work.within_lift _) (fun _ host => IsDeaf.record host _) _

theorem sweeping_spares (apart : ∀ p, c.MayWrite host p → p.place ≠ here)
    (mode : c.options.mode ∈ [.resetScores, .clear]) {w : Wording}
    {known : w.unconfirmed ∈ refusals ∧ w.refused ∈ refusals} {work : Work Site Bool}
    (frames : Work.Within (Site.Frames here) work) :
    (sweepingScript c w known work).Keeps (Spares here host.home) host := by
  refine keeps_sweepingScript fun confirmed arena entries opened => ?_
  simp only [List.mem_cons, List.not_mem_nil, or_false] at mode
  have opens : c.Opens host host := by
    unfold Context.Opens
    rcases mode with mode | mode <;> rw [mode] <;> exact ⟨confirmed, rfl⟩
  have changes : c.options.mode.changes = true := by
    rcases mode with mode | mode <;> rw [mode] <;> rfl
  exact inArena_spares frames (apart_file apart opens opened changes) _

/-- A command leaves alone what is not at the place of a path that it may write to. -/
theorem script_spares (apart : ∀ p, c.MayWrite host p → p.place ≠ here) :
    (script c).Keeps (Spares here host.home) host := by
  unfold script
  cases mode : c.options.mode with
  | save => exact save_spares apart mode
  | tournament => exact tournament_spares apart mode
  | standings | logs =>
    have shown := @keeps_showing (Spares here host.home) _ host c (by rw [mode]; decide)
    rwa [script, mode] at shown
  | exportResults => exact export_spares apart mode
  | resetScores => exact sweeping_spares apart (by rw [mode]; decide) Site.resetScores_frames
  | clear => exact sweeping_spares apart (by rw [mode]; decide) Site.clearArena_frames
  | seedBuiltins =>
    refine Script.keeps_opening fun arena entries opened => seed_spares ?_ _
    have opens : c.Opens host host := Context.opens_self (by rw [mode]; decide) host
    exact apart_file apart opens opened (by rw [mode]; rfl)

/-! ## Commands that do nothing -/

/-- A command whose arena cannot be opened does nothing else. -/
theorem keeps_disk_of_unopened {between last : Host} {fault : Fault} (opens : c.Opens host between)
    (failed : openArena c between = (.error fault, last)) : (script c).Keeps KeepsDisk host := by
  unfold Context.Opens at opens
  unfold script
  cases mode : c.options.mode with
  | save =>
    rw [mode] at opens
    obtain ⟨file, name, tree, hfile, hname, read⟩ := opens
    refine keeps_saveScript fun _ _ _ _ _ _ hfile' _ read' opened => ?_
    cases hfile.symm.trans hfile'
    cases read.symm.trans read'
    cases failed.symm.trans opened
  | resetScores | clear =>
    rw [mode] at opens
    obtain ⟨-, rfl⟩ := opens
    exact keeps_sweepingScript fun _ _ _ opened => nomatch failed.symm.trans opened
  | _ =>
    rw [mode] at opens
    exact Script.keeps_unopened (opens ▸ failed)

theorem keeps_disk (idle : c.IsIdle host) : (script c).Keeps KeepsDisk host := by
  cases idle with
  | shows mode => exact keeps_showing mode
  | unconfirmed mode unconfirmed =>
    simp only [List.mem_cons, List.not_mem_nil, or_false] at mode
    unfold script
    rcases mode with mode | mode <;> rw [mode] <;>
      exact keeps_sweepingScript fun confirmed => nomatch unconfirmed.symm.trans confirmed
  | unopened opens failed => exact keeps_disk_of_unopened opens failed
  | incomplete mode missing =>
    unfold script
    rw [mode]
    refine keeps_saveScript fun _ _ _ _ _ _ hfile hname _ _ => ?_
    rcases missing with none | none
    · cases none.symm.trans hfile
    · cases none.symm.trans hname
  | malformed mode hfile failed =>
    unfold script
    rw [mode]
    refine keeps_saveScript fun _ _ _ _ _ _ hfile' _ read _ => ?_
    cases hfile.symm.trans hfile'
    cases failed.symm.trans read
  | unnamed mode hname blank =>
    unfold script
    rw [mode]
    refine keeps_saveScript fun _ _ _ _ _ _ _ hname' _ _ => ?_
    cases hname.symm.trans hname'
    rw [inArena_snd, Site.saveStrategy_of_blank blank]
    rfl
  | tooFew mode opened few =>
    unfold script
    rw [mode]
    refine keeps_tournamentScript fun _ _ opened' => ?_
    cases opened.symm.trans opened'
    rw [inArena_snd]
    exact Site.runGrand_of_few few _

end MayWrite

/-! ## What the program writes -/

/-- However the program ends, it leaves alone every file but those that its command may write, and a
command that is idle does nothing to the disk. All exports go to the folder for results if no `~` at
its head stands for another folder. -/
theorem execute_footprint {arguments : List Text} {c : Context}
    (accepted : Request.ofArguments arguments = .run c.options) (host : Host) :
    (∀ here, (∀ p, c.MayWrite host p → p.place ≠ here) →
        host.disk.Spares here (execute arguments c.environment c.isBusy host).2.disk) ∧
      (c.IsIdle host →
        (execute arguments c.environment c.isBusy host).2.disk = host.disk) ∧
      ∀ arena folder, Path.ofJson arena.settings.outputDir = .ok folder →
        folder.expanded host.home = folder →
        ∀ q ∈ exportPaths c.options.mode arena host, q.parent = folder := by
  rw [execute_accepted accepted]
  exact ⟨fun here apart => ((script_spares apart).run rfl).2, fun idle => (keeps_disk idle).run,
    fun arena folder named itself q hq => parent_of_exportPaths named itself hq⟩

/-- An arena that is not to be cleared is not even opened. -/
theorem execute_footprint_of_clear :
    Request.ofArguments ["--mode", "clear"] = .run { Options.default with mode := .clear } ∧
      (execute ["--mode", "clear"] [] false (.start .start2024)).2.disk =
        (Host.start .start2024).disk := by
  let c : Context := ⟨{ Options.default with mode := .clear }, [], false⟩
  have accepted : Request.ofArguments ["--mode", "clear"] = .run c.options := rfl
  exact ⟨accepted, (execute_footprint accepted (.start .start2024)).2.1
    (.unconfirmed (.tail _ (.head _)) rfl)⟩

/-- With results asked for in a folder named `~`, that folder is made, but the tables are written
into the home folder, where neither the arena is nor the folder for results. -/
theorem tables_leave_folder :
    (∃ options, Request.ofArguments ["--mode", "export", "--output-dir", "~"] = .run options) ∧
      let start := Host.start .start2024
      let last := (execute ["--mode", "export", "--output-dir", "~"] [] false start).2
      let table := (Path.ofText "/root/tournament_standings_20240101_000000.csv").place
      last.disk.node? (Path.ofText "~").place = some .folder ∧
        start.disk.node? table = none ∧ last.disk.node? table ≠ none ∧
        (Path.ofText "arena.json").place ≠ table ∧
        (Path.ofText "~").place.isWithin table = false := by
  refine ⟨exists_options ?_, ?_⟩ <;> decide +kernel

end CommandLine
end IteratedDilemma
