import Mathlib.Logic.Relation
import IteratedDilemma.Proofs.Arena.Calls
import IteratedDilemma.Proofs.Arena.Soundness
import IteratedDilemma.Proofs.Export.NoArenas

/-! Whole runs of an arena that may be closed at any time and opened again from its file. What lies
in the place of the file was written for a sound store, or is no arena, as an export that went there
(`Host.FileIsSound`), so what is loaded from it is sound again, its texts being rejoined
(`Store.isSound_rejoined`). Main statement: after every run from an empty store each record of the
log says what the trees that are stored under its two identifiers have played
(`Scene.exists_transcript`). -/
namespace IteratedDilemma
set_option autoImplicit false

/-! ## Rejoined texts -/

theorem LogicTree.Allows.rejoined {t : LogicTree} {own opponent : List Move} {m : Move}
    (h : t.Allows own opponent m) : t.rejoined.Allows own opponent m := by
  have met : (fun c : Clause => c.isMet own.reverse opponent.reverse) ∘ Clause.rejoined =
      fun c => c.isMet own.reverse opponent.reverse :=
    funext fun c => c.isMet_rejoined _ _
  have found : t.rejoined.clauses.find? (fun c => c.isMet own.reverse opponent.reverse) =
      (t.clauses.find? fun c => c.isMet own.reverse opponent.reverse).map Clause.rejoined := by
    change (t.clauses.map Clause.rejoined).find? _ = _
    rw [List.find?_map, met]
  unfold Allows at h ⊢
  rw [found]
  cases e : t.clauses.find? fun c => c.isMet own.reverse opponent.reverse with
  | none =>
    rw [e] at h
    exact h
  | some c =>
    rw [e] at h
    exact h

theorem Transcript.rejoined {t1 t2 : LogicTree} {moves1 moves2 : List Move} {score1 score2 : Int}
    (h : Transcript t1 t2 moves1 moves2 score1 score2) :
    Transcript t1.rejoined t2.rejoined moves1 moves2 score1 score2 where
  lengths := h.lengths
  score1 := h.score1
  score2 := h.score2
  follows1 i hi := LogicTree.Allows.rejoined (h.follows1 i hi)
  follows2 i hi := LogicTree.Allows.rejoined (h.follows2 i hi)

namespace Store

theorem isSound_rejoined {s : Store} {host : Host} (h : s.IsSound host) :
    s.rejoined.IsSound host := by
  have strategies : s.rejoined.strategies = s.strategies.map Strategy.rejoined :=
    strategies_rejoined fun t ht => (h.named t ht).rejoined
  have named (t : Strategy) (ht : t ∈ s.strategies) : t.rejoined.id = t.id :=
    (h.named t ht).rejoined
  refine ⟨fun t ht => ?_, ⟨fun t ht => ?_, fun r hr => ?_⟩, fun r hr => ?_⟩
  · rw [strategies] at ht
    obtain ⟨u, hu, rfl⟩ := List.mem_map.1 ht
    rw [named u hu]
    exact h.named u hu
  · rw [strategies] at ht
    obtain ⟨u, hu, rfl⟩ := List.mem_map.1 ht
    exact (h.storable.strategies u hu).rejoined
  · obtain ⟨q, hq, rfl⟩ := List.mem_map.1 hr
    exact (h.storable.records q hq).rejoined
  · obtain ⟨q, hq, rfl⟩ := List.mem_map.1 hr
    obtain ⟨s1, h1, s2, h2, e1, e2, transcript⟩ := h.faithful q hq
    rw [strategies]
    refine ⟨s1.rejoined, List.mem_map_of_mem h1, s2.rejoined, List.mem_map_of_mem h2, ?_, ?_,
      transcript.rejoined⟩
    · exact congrArg Json.rejoined e1
    · exact congrArg Json.rejoined e2

end Store

/-! ## Files of arenas -/

namespace Host

/-- What lies in the place of an arena's file, if it has one, was written for a sound store, or no
arena is read from it. -/
def FileIsSound (h : Host) (file : Option Path) : Prop :=
  ∀ p ∈ file, ∀ text, h.disk.node? p.place = some (.file text) → ReadsNoArena text ∨
    ∃ s : Store, s.IsSound h ∧ s.toJson.isWritable = true ∧ text = s.toJson.write

theorem FileIsSound.mono {h h' : Host} {file : Option Path} (sound : h.FileIsSound file)
    (names : h.strategiesNamed ≤ h'.strategiesNamed)
    (left : ∀ p ∈ file, h.LeavesNoArena p.place h') : h'.FileIsSound file := by
  intro p hp text there
  rcases left p hp text there with there | noArena
  · exact (sound p hp text there).imp_right fun ⟨s, store, written⟩ =>
      ⟨s, store.mono names, written⟩
  · exact .inl noArena

theorem Keeps.fileIsSound {h : Host} {file : Option Path} {s : Store} (keeps : h.Keeps file s)
    (sound : s.IsSound h) : h.FileIsSound file := by
  intro p hp text there
  obtain ⟨writable, holds⟩ := keeps p hp
  rw [holds.2] at there
  cases there
  exact .inr ⟨s, sound, writable, rfl⟩

end Host

/-- A commit has written the new store, or it has left the store and what is written. -/
theorem Site.Settles.written {α : Type} {site site' : Site} {host : Host} {store : Store} {a : α}
    {result : Except Fault α} (h : Site.Settles site host store a (result, site'))
    (disk : host.disk = site.host.disk) :
    site'.host.Keeps site.arena.file site'.arena.store ∨
      site'.arena.store = site.arena.store ∧ site.host.disk.Grows site'.host.disk := by
  rcases result with fault | b
  · exact .inr ⟨h.store_of_error, disk ▸ h.grows_of_error⟩
  · rw [h.store_of_ok.2]
    exact .inl h.keeps_of_ok

/-- What is loaded from a place where no arenas but those of sound stores have been written is
sound. -/
theorem Store.isSound_load {purpose : Purpose} {p : Path} {host host' : Host} {s : Store}
    (file : host.FileIsSound (some p)) (h : load purpose p host = (.ok s, host')) :
    s.IsSound host' := by
  have noted : host.HasNoted host' := by
    have run := load_noted purpose p host
    rw [h] at run
    exact run
  have names : host.strategiesNamed ≤ host'.strategiesNamed :=
    Nat.le_of_eq noted.sameNames.strategies.symm
  rcases load_ok h with ⟨-, rfl⟩ | ⟨text, holds⟩
  · exact isSound_empty host'
  · rcases file p rfl text holds.2 with noArena | ⟨written, sound, writable, rfl⟩
    · rw [load_of_readsNoArena holds noArena h]
      exact isSound_empty host'
    · obtain ⟨host1, loaded⟩ := load_written purpose holds sound.storable writable
      rw [h] at loaded
      cases loaded
      exact (isSound_rejoined sound).mono names

/-! ## Runs with reopenings -/

namespace Scene

variable {site site' : Site} {c c' : Option Caller} {e : Option Event}

/-- No arena has come into the place of an arena's file, though exports may have. -/
def BringsNoArena (site site' : Site) : Prop :=
  ∀ p ∈ site.arena.file, site.LeavesNoArena p.place site'

/-- A step of an arena: a caller comes, goes on or leaves; something happens aside, by which no arena
comes into the place of its file; or the arena is closed, with all who were using it, and opened
again from its file, with any settings. -/
inductive Next : Scene → Scene → Prop where
  | turn {scene scene' : Scene} : Turn BringsNoArena scene scene' → Next scene scene'
  | reopen {site site' : Site} {p : Path} (purpose : Purpose) (callers : List Caller) :
      site.arena.file = some p →
      Store.load purpose p site.host = (.ok site'.arena.store, site'.host) →
      site'.arena.file = some p →
      Next ⟨site, callers⟩ ⟨site', []⟩

/-- A step of a caller has written the new store, or it has left the store and what is written. -/
theorem Act.written (h : Act site c e site' c') :
    site'.host.Keeps site.arena.file site'.arena.store ∨
      site'.arena.store = site.arena.store ∧ site.host.disk.Grows site'.host.disk := by
  have outcome {o : Outcome} {result : Except Fault Unit}
      (h : Site.applyOutcome o site = (result, site')) :
      site'.host.Keeps site.arena.file site'.arena.store ∨
        site'.arena.store = site.arena.store ∧ site.host.disk.Grows site'.host.disk := by
    cases hs : site.arena.store.apply o with
    | error fault =>
      rw [Site.applyOutcome_error hs] at h
      cases h
      exact .inr ⟨rfl, refl_of Disk.Grows _⟩
    | ok store => exact ((Site.applyOutcome_settles hs).of_eq h).written rfl
  cases h with
  | look _ _ h | muster _ h _ =>
    rw [(Site.ranked_eq h).2]
    exact .inr ⟨rfl, refl_of Disk.Grows _⟩
  | store _ h | storeFails h =>
    exact ((site.addStrategy_settles _ _ _ _).of_eq h).written rfl
  | claim h =>
    rw [(tryBegin_ok h).2]
    exact .inr ⟨rfl, refl_of Disk.Grows _⟩
  | play h =>
    rw [(Site.playFixture_ok h).2.2.disk, (Site.playFixture_ok h).2.2.arena]
    exact .inr ⟨rfl, refl_of Disk.Grows _⟩
  | commit _ h | commitFails _ h => exact outcome h
  | reset h | resetFails h => exact (site.resetStore_settles.of_eq h).written rfl
  | clear h | clearFails h => exact (site.clearStore_settles.of_eq h).written rfl
  | release h =>
    rw [(endPass_ok h).2]
    exact .inr ⟨rfl, refl_of Disk.Grows _⟩
  | leave => exact .inr ⟨rfl, refl_of Disk.Grows _⟩

/-- A scene in which everything is sound: the store, what the callers hold, and the file. -/
structure IsSound (scene : Scene) : Prop where
  store : scene.site.arena.store.IsSound scene.site.host
  callers : ∀ c ∈ scene.callers, c.IsSound scene.site
  file : scene.site.host.FileIsSound scene.site.arena.file

theorem Act.isSound_file (h : Act site c e site' c') (file : site.host.FileIsSound site.arena.file)
    (store' : site'.arena.store.IsSound site'.host) :
    site'.host.FileIsSound site'.arena.file := by
  rw [h.steady.file]
  rcases h.written with keeps | ⟨-, grows⟩
  · exact keeps.fileIsSound store'
  · exact file.mono h.steady.strategies fun p _ => grows.leavesNoArena

theorem Turn.isSound {scene scene' : Scene} (h : Turn BringsNoArena scene scene')
    (sound : scene.IsSound) : scene'.IsSound := by
  cases h with
  | act before after act =>
    obtain ⟨store', callers'⟩ := areSound_act act ⟨sound.store, sound.callers⟩
    exact ⟨store', callers', act.isSound_file sound.file store'⟩
  | aside callers aside brings =>
    obtain ⟨store', callers'⟩ := areSound_aside aside ⟨sound.store, sound.callers⟩
    refine ⟨store', callers', ?_⟩
    have file := sound.file.mono aside.strategies brings
    rw [← aside.file] at file
    exact file

theorem Next.isSound {scene scene' : Scene} (h : Next scene scene') (sound : scene.IsSound) :
    scene'.IsSound := by
  cases h with
  | turn turn => exact turn.isSound sound
  | @reopen site site' p purpose callers here loaded there =>
    have file : site.host.FileIsSound (some p) := here ▸ sound.file
    have noted : site.host.HasNoted site'.host := by
      have run := Store.load_noted purpose p site.host
      rw [loaded] at run
      exact run
    refine ⟨Store.isSound_load file loaded, fun d hd => (by cases hd), ?_⟩
    change site'.host.FileIsSound site'.arena.file
    rw [there]
    refine file.mono (Nat.le_of_eq noted.sameNames.strategies.symm) fun q _ text holds => .inl ?_
    rw [← noted.disk]
    exact holds

/-- A scene that begins with an empty store, nobody using it, and nothing in its file but such a
store. -/
structure IsFresh (scene : Scene) : Prop where
  empty : scene.site.arena.store = .empty
  nobody : scene.callers = []
  file : ∀ p ∈ scene.site.arena.file, ∀ text,
    scene.site.host.disk.node? p.place = some (.file text) → text = Store.empty.toJson.write

theorem IsFresh.isSound {scene : Scene} (h : scene.IsFresh) : scene.IsSound := by
  refine ⟨?_, fun c hc => ?_, fun p hp text there => ?_⟩
  · rw [h.empty]
    exact Store.isSound_empty _
  · rw [h.nobody] at hc
    cases hc
  · exact .inr ⟨.empty, Store.isSound_empty _, by decide +kernel, h.file p hp text there⟩

theorem isSound_of_run {start scene : Scene} (run : Relation.ReflTransGen Next start scene)
    (fresh : start.IsFresh) : scene.IsSound := by
  induction run with
  | refl => exact fresh.isSound
  | tail _ next ih => exact next.isSound ih

/-- An arena whose file holds its store can be opened again, with its texts rejoined. -/
theorem exists_reopened {p : Path} (purpose : Purpose) (storable : site.arena.store.IsStorable)
    (file : site.arena.file = some p)
    (keeps : site.host.Keeps site.arena.file site.arena.store) :
    ∃ site' : Site, Store.load purpose p site.host = (.ok site'.arena.store, site'.host) ∧
      site'.arena.file = some p ∧ site'.arena.store = site.arena.store.rejoined := by
  obtain ⟨writable, holds⟩ := keeps p file
  obtain ⟨host', loaded⟩ := Store.load_written purpose holds storable writable
  exact ⟨site.after host' site.arena.store.rejoined, loaded, file, rfl⟩

theorem isFresh_startedOnFile : IsFresh ⟨.startedOnFile, []⟩ := by
  refine ⟨rfl, rfl, fun p hp text there => ?_⟩
  have nothing : Site.startedOnFile.host.disk.node? (Path.ofText "arena.json").place = none := by
    decide +kernel
  cases hp
  rw [nothing] at there
  cases there

end Scene

/-- Whatever is called, and wherever it exports to, the arena can go there step by step. -/
theorem Call.next {observe : Observer} (quiet : observe.IsQuiet) (call : Call) (site : Site)
    (callers : List Caller) :
    Relation.ReflTransGen Scene.Next ⟨site, callers⟩ ⟨call.after observe site, callers⟩ := by
  have still : Scene.HasStill Scene.BringsNoArena := by
    intro site site' still p _ text there
    rw [← still.disk]
    exact .inl there
  have exports : Scene.HasExports Scene.BringsNoArena site := fun o s _ _ p _ =>
    Site.exportOutcome_leavesNoArena p.place o s
  exact Relation.ReflTransGen.mono (fun _ _ turn => Scene.Next.turn turn) _ _
    (call.leads (quiet.goesAlong still) still exports callers)

namespace Scene

/-- However saves, grand tournaments, resets and clears interleave, whichever of them fail, and
whenever the arena is closed and opened again, each record of the log says what the trees that are
stored under its identifiers have played. -/
theorem exists_transcript {start scene : Scene} (run : Relation.ReflTransGen Next start scene)
    (fresh : start.IsFresh) :
    ∀ r ∈ scene.site.arena.store.records, ∃ s1 s2,
      scene.site.arena.store.get? r.first.id = some s1 ∧
        scene.site.arena.store.get? r.second.id = some s2 ∧ r.IsTranscript s1.tree s2.tree := by
  intro r hr
  have store := (isSound_of_run run fresh).store
  obtain ⟨s1, h1, s2, h2, e1, e2, transcript⟩ := store.faithful r hr
  refine ⟨s1, s2, ?_, ?_, transcript⟩
  · rw [← e1]
    exact Store.get?_of_mem h1
  · rw [← e2]
    exact Store.get?_of_mem h2

/-- Two saves and a reset in an arena with a file, which is then opened again. -/
theorem exists_transcript_reopened :
    ∃ start scene, Relation.ReflTransGen Next start scene ∧ start.IsFresh ∧
      scene.site.arena.store.records.length = 1 ∧
      ∀ r ∈ scene.site.arena.store.records, ∃ s1 s2,
        scene.site.arena.store.get? r.first.id = some s1 ∧
          scene.site.arena.store.get? r.second.id = some s2 ∧ r.IsTranscript s1.tree s2.tree := by
  have quiet := Observer.silent_isQuiet
  have fresh := isFresh_startedOnFile
  obtain ⟨mirror, hmirror⟩ : ∃ call, call =
    Call.save ⟨"Mirror", Builtin.titForTat.tree, none, none⟩ := ⟨_, rfl⟩
  obtain ⟨traitor, htraitor⟩ : ∃ call, call =
    Call.save ⟨"Traitor", Builtin.alwaysBetray.tree, none, none⟩ := ⟨_, rfl⟩
  obtain ⟨one, hone⟩ : ∃ site, site = mirror.after .silent .startedOnFile := ⟨_, rfl⟩
  obtain ⟨two, htwo⟩ : ∃ site, site = traitor.after .silent one := ⟨_, rfl⟩
  have first := mirror.next quiet .startedOnFile []
  have second := traitor.next quiet one []
  have third := Call.reset.next quiet two []
  rw [← hone] at first
  rw [← htwo] at second
  have free : two.arena.isHeld = false := by
    rw [htwo, hone, hmirror, htraitor]
    decide +kernel
  have records : two.arena.store.records.length = 1 := by
    rw [htwo, hone, hmirror, htraitor]
    decide +kernel
  have file : two.arena.file = some (.ofText "arena.json") := by
    rw [htwo, hone, hmirror, htraitor]
    decide +kernel
  have done : (Site.resetStore (two.withGate true)).1.isOk = true := by
    rw [htwo, hone, hmirror, htraitor]
    decide +kernel
  obtain ⟨host', -, keeps, e⟩ | ⟨_, _, -, -, -, e⟩ := (two.withGate true).resetStore_settles
  · have reset : Call.reset.after .silent two = two.after host' two.arena.store.reset := by
      rw [Call.after, Site.resetScores, Site.gated, if_neg (by rw [free]; exact Bool.false_ne_true),
        Work.bind_of_ok e, ← free]
      rfl
    rw [reset] at third
    have run := (first.trans second).trans third
    have storable := (isSound_of_run run fresh).store.storable
    obtain ⟨site, loaded, file', store⟩ := exists_reopened .arena storable file keeps
    have all := run.tail (.reopen .arena [] file loaded file')
    refine ⟨_, _, all, fresh, ?_, exists_transcript all fresh⟩
    change site.arena.store.records.length = 1
    rw [store]
    exact (List.length_map _).trans records
  · rw [e] at done
    cases done

end Scene
end IteratedDilemma
