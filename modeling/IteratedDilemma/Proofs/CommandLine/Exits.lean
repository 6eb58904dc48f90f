import IteratedDilemma.Proofs.CommandLine.Scripts
import IteratedDilemma.Proofs.Arena.Commits

/-! How the program on the command line ends: with a fault if a step of its script fails that is not
guarded from it, and with a status otherwise (`errors_become_statuses`). -/
namespace IteratedDilemma.CommandLine
set_option autoImplicit false

/-! ## Steps that fail -/

/-- A run of a script gets as far as a step and fails there. -/
inductive Script.Fails : Script → Host → Stage → Fault → Prop where
  | here {α : Type} {stage : Stage} {work : Work Host α} {report : Fault → Text}
      {next : α → Script} {host last : Host} {fault : Fault} :
      work host = (.error fault, last) → Fails (step stage work report next) host stage fault
  | later {α : Type} {stage failing : Stage} {work : Work Host α} {report : Fault → Text}
      {next : α → Script} {host between : Host} {a : α} {fault : Fault} :
      work host = (.ok a, between) → Fails (next a) between failing fault →
      Fails (step stage work report next) host failing fault

/-- Whether an error has been logged or a refusal printed. -/
def HasComplained (host : Host) : Prop :=
  (∃ text, ⟨.error, text⟩ ∈ host.journal) ∨ ∃ line ∈ host.printed, line ∈ refusals

theorem failWith_apply (status : Nat) (text : Text) (host : Host) :
    failWith status text host = (.ok status, host.record [⟨.error, text⟩]) := rfl

theorem hasComplained_record (host : Host) (text : Text) :
    HasComplained (host.record [⟨.error, text⟩]) :=
  .inl ⟨text, List.mem_cons_self⟩

theorem printAll_ok (lines : List Text) (host : Host) :
    ∃ last, printAll lines host = (.ok (), last) := by
  induction lines generalizing host with
  | nil => exact ⟨host, rfl⟩
  | cons line rest ih => exact ih _

namespace Script

variable {mode : Mode} {s : Script} {host : Host} {stage : Stage} {fault : Fault}

/-- A fault from which the step is not guarded ends the program. -/
theorem Fails.run_unguarded (h : s.Fails host stage fault)
    (loose : guards mode stage fault.family = false) :
    ∃ last, s.run mode host = (.error fault, last) := by
  induction h with
  | @here _ _ _ _ _ _ last _ failed =>
    refine ⟨last, ?_⟩
    rw [run, handling, failed]
    exact if_neg (by rw [loose]; exact Bool.false_ne_true)
  | later went _ ih =>
    obtain ⟨last, h⟩ := ih loose
    refine ⟨last, ?_⟩
    rw [run, handling, went]
    exact h

/-- A fault from which the step is guarded is logged, and the status is 1. -/
theorem Fails.run_guarded (h : s.Fails host stage fault)
    (guarded : guards mode stage fault.family = true) :
    ∃ last, s.run mode host = (.ok 1, last) ∧ HasComplained last := by
  induction h with
  | @here _ _ _ report _ _ last fault failed =>
    refine ⟨_, ?_, hasComplained_record last (report fault)⟩
    rw [run, handling, failed]
    exact if_pos guarded
  | later went _ ih =>
    obtain ⟨last, h, complained⟩ := ih guarded
    refine ⟨last, ?_, complained⟩
    rw [run, handling, went]
    exact h

/-- If nothing fails, the status is 0, or the program says why it is not. -/
theorem run_of_not_fails (none : ∀ stage fault, ¬s.Fails host stage fault) :
    ∃ status last, s.run mode host = (.ok status, last) ∧ status ≤ 2 ∧
      (status ≠ 0 → HasComplained last) := by
  induction s generalizing host with
  | done lines =>
    obtain ⟨last, printed⟩ := printAll_ok lines host
    refine ⟨0, last, ?_, by omega, fun h => absurd rfl h⟩
    rw [run, Work.bind_of_ok printed]
    rfl
  | refuse status line known failing =>
    refine ⟨status, _, rfl, by omega, fun _ => .inr ⟨line, List.mem_cons_self, known⟩⟩
  | reject text =>
    exact ⟨2, _, failWith_apply 2 text host, by omega, fun _ => hasComplained_record host text⟩
  | step stage work report next ih =>
    rcases went : work host with ⟨fault | a, last⟩
    · exact absurd (.here went) (none stage fault)
    · obtain ⟨status, last', h⟩ :=
        ih a fun stage fault fails => none stage fault (.later went fails)
      refine ⟨status, last', ?_, h.2⟩
      rw [run, handling, went]
      exact h.1

end Script

/-! ## Faults that escape -/

/-- A command fails with a fault in a step that is not guarded from it. -/
def Context.Escapes (c : Context) (host : Host) (stage : Stage) (fault : Fault) : Prop :=
  (script c).Fails host stage fault ∧ guards c.options.mode stage fault.family = false

/-- If nothing escapes, the program returns a status. -/
theorem Context.exists_status {c : Context} {host : Host}
    (none : ∀ stage fault, ¬c.Escapes host stage fault) :
    ∃ status last, (script c).run c.options.mode host = (.ok status, last) ∧ status ≤ 2 ∧
      (status ≠ 0 → HasComplained last) ∧
      ((∃ stage fault, (script c).Fails host stage fault) → status ≠ 0) := by
  by_cases failing : ∃ stage fault, (script c).Fails host stage fault
  · obtain ⟨stage, fault, fails⟩ := failing
    have guarded : guards c.options.mode stage fault.family = true := by
      cases guards : guards c.options.mode stage fault.family with
      | true => rfl
      | false => exact absurd ⟨fails, guards⟩ (none stage fault)
    obtain ⟨last, ran, complained⟩ := fails.run_guarded guarded
    exact ⟨1, last, ran, by omega, fun _ => complained, fun _ => by omega⟩
  · obtain ⟨status, last, ran, small, complained⟩ :=
      Script.run_of_not_fails fun stage fault fails => failing ⟨stage, fault, fails⟩
    exact ⟨status, last, ran, small, complained, fun h => absurd h failing⟩

/-- The fault that ends the program is one that escapes. -/
theorem Context.escapes_iff {c : Context} {host : Host} {fault : Fault} :
    (∃ last, (script c).run c.options.mode host = (.error fault, last)) ↔
      ∃ stage, c.Escapes host stage fault := by
  constructor
  · rintro ⟨last, ran⟩
    by_cases escaping : ∃ stage fault, c.Escapes host stage fault
    · obtain ⟨stage, fault', fails, loose⟩ := escaping
      obtain ⟨last', ran'⟩ := fails.run_unguarded loose
      rw [ran] at ran'
      cases ran'
      exact ⟨stage, fails, loose⟩
    · obtain ⟨status, last', ran', -⟩ :=
        Context.exists_status fun stage fault h => escaping ⟨stage, fault, h⟩
      rw [ran] at ran'
      cases ran'
  · rintro ⟨stage, fails, loose⟩
    exact fails.run_unguarded loose

/-! ## Opening the arena -/

/-- A command gets to opening its arena on a host: `save` when it has been given what it needs and
has read the tree, `reset-scores` and `clear` when they are confirmed, all others at once. -/
def Context.Opens (c : Context) (host here : Host) : Prop :=
  match c.options.mode with
  | .save => ∃ file name tree, given c.options.logicFile = some file ∧
      given c.options.name = some name ∧
      Host.loadTree .commandTree file true host = (.ok tree, here)
  | .resetScores | .clear => c.options.isConfirmed = true ∧ here = host
  | _ => here = host

theorem Context.Opens.fails {c : Context} {host here last : Host} {fault : Fault}
    (opens : c.Opens host here) (failed : openArena c here = (.error fault, last)) :
    (script c).Fails host .opening fault := by
  unfold Context.Opens at opens
  unfold script
  cases mode : c.options.mode with
  | save =>
    rw [mode] at opens
    obtain ⟨file, name, tree, hfile, hname, read⟩ := opens
    dsimp only [saveScript]
    rw [hfile, hname]
    exact .later read (.here failed)
  | resetScores | clear =>
    rw [mode] at opens
    obtain ⟨confirmed, rfl⟩ := opens
    dsimp only [sweepingScript]
    rw [confirmed]
    exact .here failed
  | _ =>
    rw [mode] at opens
    obtain rfl := opens
    exact .here failed

/-- A change under the gate fails only where its new store cannot be written. -/
theorem storage_of_gated {warning : Text} {work : Work Site Unit}
    (settles : ∀ site, ∃ host store, Site.Settles site host store () (work site))
    {site site' : Site} {fault : Fault}
    (h : Site.gated warning false (do work; return true) site = (.error fault, site')) :
    fault.family = .storage := by
  unfold Site.gated at h
  split at h
  · cases h
  · obtain ⟨host, store, settles⟩ := settles (site.withGate true)
    rw [Work.bind_apply] at h
    obtain ⟨host', -, -, e⟩ | ⟨unwritten, host', -, -, ⟨p, cause, -, rfl⟩, e⟩ := settles
    · rw [e] at h
      cases h
    · rw [e] at h
      cases h
      rfl

theorem inArena_error {α : Type} {arena : Arena} {work : Work Site α} {host last : Host}
    {fault : Fault} (h : inArena arena work host = (.error fault, last)) :
    ∃ site', work ⟨host, arena, []⟩ = (.error fault, site') := by
  unfold inArena at h
  split at h
  · cases h
  · next site' e =>
    cases h
    exact ⟨site', e⟩

theorem Script.Fails.of_sweeping {c : Context} {w : Wording}
    {known : w.unconfirmed ∈ refusals ∧ w.refused ∈ refusals} {work : Work Site Bool}
    {host : Host} {stage : Stage} {fault : Fault}
    (storage : ∀ site site' fault, work site = (.error fault, site') → fault.family = .storage)
    (h : (sweepingScript c w known work).Fails host stage fault) :
    stage = .opening ∨ stage = .change ∧ fault.family = .storage := by
  unfold sweepingScript Script.plain at h
  split at h
  · cases h
  · cases h with
    | here failed => exact .inl rfl
    | later went h =>
      cases h with
      | here failed =>
        obtain ⟨site', failed⟩ := inArena_error failed
        exact .inr ⟨rfl, storage _ site' _ failed⟩
      | @later _ _ _ _ _ _ _ _ done _ went h =>
        obtain ⟨isDone, last⟩ := done
        cases isDone <;> cases h

theorem Script.Fails.of_logs {c : Context} {host : Host} {stage : Stage} {fault : Fault}
    (h : (logsScript c).Fails host stage fault) : stage = .opening := by
  unfold logsScript Script.plain at h
  cases h with
  | here failed => rfl
  | later went h =>
    dsimp only at h
    split at h <;> cases h

/-- What `logs`, `reset-scores` and `clear` let escape comes from opening the arena. -/
theorem Context.Escapes.eq_opening {c : Context} {host : Host} {stage : Stage} {fault : Fault}
    (h : c.Escapes host stage fault) (mode : c.options.mode ∈ [.logs, .resetScores, .clear]) :
    stage = .opening := by
  obtain ⟨fails, loose⟩ := h
  have cause : stage = .opening ∨ stage = .change ∧ fault.family = .storage := by
    unfold script at fails
    simp only [List.mem_cons, List.not_mem_nil, or_false] at mode
    rcases mode with mode | mode | mode <;> simp only [mode] at fails
    · exact .inl fails.of_logs
    · exact fails.of_sweeping fun _ _ _ =>
        storage_of_gated fun site => ⟨_, _, site.resetStore_settles⟩
    · exact fails.of_sweeping fun _ _ _ =>
        storage_of_gated fun site => ⟨_, _, site.clearStore_settles⟩
  obtain opening | ⟨rfl, storage⟩ := cause
  · exact opening
  · rw [storage, guards_storage] at loose
    cases loose

/-! ## How the program ends -/

/-- A host on which nothing has been logged or printed yet. -/
def unheard (host : Host) : Host := { host with journal := [], printed := [] }

theorem execute_accepted {arguments : List Text} {c : Context}
    (accepted : Request.ofArguments arguments = .run c.options) :
    execute arguments c.environment c.isBusy = (script c).run c.options.mode := by
  rw [execute, accepted]
  exact (run_script c).symm

theorem exists_options {arguments : List Text}
    (accepted : (match Request.ofArguments arguments with | .run _ => true | _ => false) = true) :
    ∃ options, Request.ofArguments arguments = .run options := by
  split at accepted
  · next options e => exact ⟨options, e⟩
  · cases accepted

theorem exists_fault {run : Except Fault Nat × Host} (h : run.1.isOk = false) :
    ∃ fault last, run = (.error fault, last) := by
  obtain ⟨fault | status, last⟩ := run
  · exact ⟨fault, last, rfl⟩
  · cases h

/-- Arguments that are accepted end the program with a fault, in an environment. -/
def EndsInFault (arguments : List Text) (environment : Json.Fields) : Prop :=
  (∃ options, Request.ofArguments arguments = .run options) ∧
    ∃ fault last, execute arguments environment false (.start .start2024) = (.error fault, last)

end IteratedDilemma.CommandLine
