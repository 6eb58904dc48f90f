import IteratedDilemma.Proofs.Arena.Observed

/-! Which files the operations of an arena touch. A save, a reset and a clear leave everything alone
but the file of the arena (`Site.saveStrategy_frames` and its kin); a grand tournament writes its
exports besides (`Site.runGrand_spares`), and nothing at all if there are fewer than two strategies
(`Site.runGrand_of_few`). -/
namespace IteratedDilemma
set_option autoImplicit false

namespace Host

variable {here : Place} {home : Path.Homes}

theorem record_spares (host : Host) (entries : List Entry) :
    Spares here home host (host.record entries) :=
  fun at_home => ⟨at_home, refl_of (Disk.Spares here) _⟩

/-- A save spares every place but that of its path. -/
theorem saveDocument_spares {p : Path} (apart : p.place ≠ here) (value : Json) :
    Work.Within (Spares here home) (saveDocument value p) := by
  refine saveDocument_keeps (onDisk_spares fun d => (Disk.makeFolders_grows _ d).spares here)
    (onDisk_spares fun d => ?_) log_spares
  unfold Disk.changing
  split
  · next d' replaced => exact Disk.replace_spares apart replaced
  · exact refl_of _ _

end Host

namespace Site

/-- A site with the same file, settings and clock, and, unless the file is at a place, the same home
and the same file at that place. -/
structure Frames (here : Place) (site site' : Site) : Prop where
  file : site'.arena.file = site.arena.file
  settings : site'.arena.settings = site.arena.settings
  now : site'.host.now = site.host.now
  host : (∀ p ∈ site.arena.file, p.place ≠ here) → ∀ home, site.Spares here home site'

instance (here : Place) : IsPreorder Site (Frames here) where
  refl site := ⟨rfl, rfl, rfl, fun _ home => refl_of (Spares here home) site⟩
  trans _ _ _ ab bc := ⟨bc.file.trans ab.file, bc.settings.trans ab.settings, bc.now.trans ab.now,
    fun apart home => trans_of (Spares here home) (ab.host apart home)
      (bc.host (fun p hp => apart p (ab.file ▸ hp)) home)⟩

variable {here : Place}

theorem frames_record (site : Site) (entries : List Entry) :
    Frames here site { site with host := site.host.record entries } :=
  ⟨rfl, rfl, rfl, fun _ _ => Host.record_spares _ _⟩

theorem frames_after (site : Site) (store : Store) :
    Frames here site (site.after site.host store) :=
  ⟨rfl, rfl, rfl, fun _ _ => refl_of (Host.Spares here _) _⟩

theorem log_frames (level : Level) (text : Text) : Work.Within (Frames here) (log level text) :=
  fun site => frames_record site _

/-! ## Changes of the store -/

theorem commit_frames (store : Store) : Work.Within (Frames here) (commit store) := by
  intro site
  rw [commit_eq]
  cases hf : site.arena.file with
  | none => exact frames_after site store
  | some p =>
    have names := writeStore_within store p site.host
    have spares (apart : p.place ≠ here) (home : Path.Homes) :
        Host.Spares here home site.host (writeStore store p site.host).2 :=
      writeStore_keeps (Host.saveDocument_spares apart _) Host.record_spares site.host
    dsimp only
    rcases e : writeStore store p site.host with ⟨_ | _, host⟩ <;> rw [e] at names spares <;>
      exact ⟨rfl, rfl, names.now, fun apart home => spares (apart p (hf ▸ rfl)) home⟩

theorem commit_log_frames {α : Type} (store : Store) (level : Level) (text : Text) (a : α) :
    Work.Within (Frames here) (do commit store; log level text; return a) :=
  Work.within_bind (commit_frames store) fun _ =>
    Work.within_bind (log_frames _ _) fun _ => Work.within_pure _

theorem addStrategy_frames (name : Json) (tree : LogicTree) (authorId author : Json) :
    Work.Within (Frames here) (addStrategy name tree authorId author) := by
  intro site
  have named : Frames here site (site.after site.host.nameStrategy.2 site.arena.store) :=
    ⟨rfl, rfl, rfl, fun _ _ at_home => ⟨at_home, refl_of (Disk.Spares here) _⟩⟩
  rw [addStrategy_apply]
  exact trans_of (Frames here) named (commit_log_frames _ _ _ _ _)

theorem applyOutcome_frames (o : Outcome) : Work.Within (Frames here) (applyOutcome o) :=
  Work.within_bind Work.within_get fun _ => Work.within_bind (Work.within_lift _) fun _ =>
    Work.within_bind (commit_frames _) fun _ => log_frames _ _

theorem gated_frames {α : Type} {warning : Text} {refused : α} {work : Work Site α}
    (h : Work.Within (Frames here) work) :
    Work.Within (Frames here) (gated warning refused work) := by
  intro site
  unfold gated
  split
  · exact frames_record site _
  · have gate (site : Site) (isHeld : Bool) : Frames here site (site.withGate isHeld) :=
      ⟨rfl, rfl, rfl, fun _ _ => refl_of (Host.Spares here _) _⟩
    exact trans_of (Frames here) (trans_of (Frames here) (gate site true) (h _)) (gate _ false)

theorem resetScores_frames : Work.Within (Frames here) resetScores :=
  gated_frames (Work.within_bind (Work.within_bind Work.within_get fun _ =>
    Work.within_bind (commit_frames _) fun _ => log_frames _ _) fun _ => Work.within_pure _)

theorem clearArena_frames : Work.Within (Frames here) clearArena :=
  gated_frames (Work.within_bind (Work.within_bind (commit_frames _) fun _ => log_frames _ _)
    fun _ => Work.within_pure _)

/-! ## Saves -/

theorem playMatch_frames (total : Nat) (f : Fixture) (p : Pass) :
    Work.Within (Frames here) (playMatch total f p) :=
  fun _ => ⟨rfl, rfl, rfl, fun _ _ at_home => ⟨at_home, refl_of (Disk.Spares here) _⟩⟩

theorem silent_frames (progress : Progress) :
    Work.Within (Frames here) (Observer.silent progress) := Work.within_pure _

theorem saveStrategy_frames (name : Json) (tree : LogicTree) (authorId author : Json) :
    Work.Within (Frames here) (saveStrategy .silent name tree authorId author) := by
  have begins : Work.Within (Frames here) (beginSave name tree authorId author) := by
    refine Work.within_bind (Work.within_lift _) fun _ => Work.within_bind (Work.within_lift _)
      fun _ => Work.within_bind (fun site => ?_) fun _ =>
        Work.within_bind (addStrategy_frames _ _ _ _) fun _ => Work.within_pure _
    rw [ranked_apply]
    exact refl_of (Frames here) site
  have ends (pending : PendingSave) : Work.Within (Frames here) (finishSave .silent pending) :=
    Work.within_bind (playOnSave_within frames_record playMatch_frames silent_frames _ _) fun _ =>
      Work.within_bind (applyOutcome_frames _) fun _ => Work.within_bind Work.within_get fun _ =>
        Work.within_pure _
  exact Work.within_bind begins ends

/-! ## Tournaments -/

/-- A grand tournament leaves alone what is neither at the place of the arena's file nor where its
exports go. -/
theorem runGrand_spares {site : Site} (file : ∀ p ∈ site.arena.file, p.place ≠ here)
    (exports : site.arena.settings.exportResults.isTruthy = true →
      ∀ folder, Path.ofJson site.arena.settings.outputDir = .ok folder →
      ∀ q ∈ Export.grandPaths folder site.host.home (Export.stampOf site.host), q.place ≠ here) :
    site.Spares here site.host.home (runGrand .silent site).2 := by
  unfold runGrand gated
  split
  · exact (frames_record site _).host file _
  suffices h : (site.withGate true).Spares here site.host.home
      (grandUnderGate .silent (site.withGate true)).2 from h
  rcases listed : ranked (site.withGate true) with ⟨fault | strategies, s⟩
  · unfold grandUnderGate
    rw [Work.bind_of_error listed, (ranked_eq listed).2]
    exact refl_of (Spares here _) _
  obtain ⟨ranking, rfl⟩ := ranked_eq listed
  by_cases few : strategies.length < 2
  · obtain ⟨entries, skipped⟩ := @grandUnderGate_of_few .silent _ _ listed few
    rw [skipped]
    exact (frames_record (site.withGate true) entries).host file _
  rw [grandUnderGate_of_enough listed (by omega)]
  have distinct : Distinct strategies :=
    Distinct.perm site.arena.store.distinct (Store.perm_of_ranked ranking.symm).symm
  -- the pass and its commit, and then the export on a site with the same file and settings
  have pass := playGrand_within frames_record playMatch_frames silent_frames strategies
    (R := Frames here) (site.withGate true)
  rcases played : playGrand .silent strategies (site.withGate true) with ⟨fault | o, site1⟩ <;>
    rw [played] at pass
  · rw [Work.bind_of_error played]
    exact pass.host file _
  rw [Work.bind_of_ok played]
  have kind := (playGrand_whole Observer.silent_isQuiet.standsAside distinct played).kind
  have commit : Frames here site1 (commitGrand o site1).2 := by
    have applied : Frames here site1 (applyOutcome o site1).2 := applyOutcome_frames o site1
    unfold commitGrand
    rcases e : applyOutcome o site1 with ⟨_ | _, site2⟩ <;> rw [e] at applied
    · exact trans_of (Frames here) applied (frames_record site2 _)
    · exact applied
  have both := trans_of (Frames here) pass commit
  have spared := both.host file site.host.home
  rcases committed : commitGrand o site1 with ⟨fault | ⟨⟩, site2⟩ <;>
    rw [committed] at both spared
  · rw [Work.bind_of_error committed]
    exact spared
  rw [Work.bind_of_ok committed]
  have home : site2.host.home = site.host.home := (spared rfl).1
  have exported : Spares here site.host.home site2 (exportOutcome o site2).2 := by
    refine home ▸ exportOutcome_spares fun asked folder opened q hq => ?_
    rw [both.settings] at asked opened
    rw [Export.paths_of_grand kind, home, Export.stampOf_congr both.now] at hq
    exact exports asked folder opened q hq
  refine trans_of (Spares here site.host.home) spared ?_
  rcases e : exportOutcome o site2 with ⟨_ | _, site3⟩ <;> rw [e] at exported
  · rw [Work.bind_of_error e]
    exact exported
  · rw [Work.bind_of_ok e]
    exact exported

/-- A grand tournament of fewer than two strategies does nothing to the disk. -/
theorem runGrand_of_few {site : Site} (few : site.arena.store.strategies.length < 2)
    (observe : Observer) : (runGrand observe site).2.host.disk = site.host.disk := by
  unfold runGrand gated
  split
  · rfl
  rcases listed : ranked (site.withGate true) with ⟨fault | strategies, s⟩
  · unfold grandUnderGate
    rw [Work.bind_of_error listed, (ranked_eq listed).2]
    rfl
  obtain ⟨ranking, rfl⟩ := ranked_eq listed
  have length : strategies.length < 2 := by
    rw [(Store.perm_of_ranked ranking.symm).length_eq]
    exact few
  obtain ⟨entries, skipped⟩ := @grandUnderGate_of_few observe _ _ listed length
  rw [skipped]
  rfl

end Site
end IteratedDilemma
