import IteratedDilemma.Proofs.Arena.Reopening

/-! Arenas whose file can sometimes not be written. A call that asks for a change makes all of it,
in the arena and in its file, or nothing, and what is loaded from the file is always the store of
the arena (`all_or_nothing`). The invariant is that the file holds the store, or that there is no
file and the store is empty (`Host.Backs`); for the second, a path must not lead over the place to
which it leads (`Path.IsPlain`), else a folder on its way is made there (`exists_behind`). -/
namespace IteratedDilemma
set_option autoImplicit false

open Store (Answer Command Request)

theorem Json.texts?_map (ids : List Text) : texts? (ids.map .text) = some ids := by
  induction ids with
  | nil => rfl
  | cons id rest ih => rw [List.map_cons, texts?, ih, Option.map_some]

namespace Host

/-- What is loaded from a path is a store: the file there holds it, or it is empty and nothing is
there. -/
def Backs (h : Host) (p : Path) (s : Store) : Prop :=
  h.Keeps (some p) s ∨
    p.IsPlain ∧ h.disk.node? p.place = none ∧ h.disk.at? p = .ok none ∧ s = .empty

variable {h h' : Host} {p : Path} {s : Store}

theorem Backs.exists_load (backs : h.Backs p s) (durable : s.IsDurable) (purpose : Purpose) :
    ∃ host, Store.load purpose p h = (.ok s, host) := by
  have held : h.Keeps (some p) s ∨ h.disk.at? p = .ok none ∧ s = .empty :=
    backs.imp_right fun missing => missing.2.2
  obtain ⟨host, loaded, -⟩ := Store.exists_load durable held purpose
  exact ⟨host, loaded⟩

theorem Keeps.grows (keeps : h.Keeps (some p) s) (grows : h.disk.Grows h'.disk) :
    h'.Keeps (some p) s := by
  intro q hq
  cases hq
  obtain ⟨writable, holds⟩ := keeps p rfl
  exact ⟨writable, holds.grows grows⟩

theorem Backs.beside (backs : h.Backs p s) (beside : h.disk.GrowsBeside p.place h'.disk) :
    h'.Backs p s := by
  rcases backs with keeps | ⟨plain, free, nothing, empty⟩
  · exact .inl (keeps.grows beside.grows)
  · have free' := beside.same.trans free
    exact .inr ⟨plain, free', Disk.at?_of_free plain.fits nothing free', empty⟩

theorem Backs.of_disk (backs : h.Backs p s) (disk : h'.disk = h.disk) : h'.Backs p s := by
  refine backs.beside ?_
  rw [disk]
  exact refl_of (Disk.GrowsBeside p.place) _

/-- A save that failed has left alone the place of the file, and so what is loaded from it. -/
theorem Backs.of_unsaved (backs : h.Backs p s) {value : Json} {fault : Fault}
    (unsaved : saveDocument value p h = (.error fault, h')) :
    h'.Backs p s ∧ h'.disk.node? p.place = h.disk.node? p.place := by
  rcases backs with keeps | ⟨plain, free, nothing, empty⟩
  · have still := keeps.grows (grows_of_unsaved unsaved)
    refine ⟨.inl still, ?_⟩
    rw [(still p rfl).2.2, (keeps p rfl).2.2]
  · have beside := growsBeside_of_unsaved plain unsaved
    exact ⟨Backs.beside (.inr ⟨plain, free, nothing, empty⟩) beside, beside.same⟩

theorem backs_of_saved (saved : saveDocument s.toJson p h = (.ok (), h')) : h'.Backs p s := by
  refine .inl fun q hq => ?_
  cases hq
  exact saveDocument_ok saved

end Host

namespace Site

/-! ## One call -/

/-- A call has tried to write a store. If that went well it gives `a` with the new store, else it
fails with the old one. -/
def Tried {α : Type} (site : Site) (p : Path) (host : Host) (store : Store) (a : α)
    (run : Except Fault α × Site) : Prop :=
  (∃ host1 host2, Host.saveDocument store.toJson p host = (.ok (), host1) ∧
      host2.disk = host1.disk ∧ run = (.ok a, site.after host2 store)) ∨
    ∃ cause host1 host2, Host.saveDocument store.toJson p host = (.error cause, host1) ∧
      host2.disk = host1.disk ∧
      run = (.error (.unwritableArena p.text cause), site.after host2 site.arena.store)

variable {site : Site} {p : Path} {request : Request} {plan : Plan}

theorem commit_log_tried {α : Type} (file : site.arena.file = some p) (store : Store)
    (level : Level) (text : Text) (a : α) :
    Tried site p site.host store a ((do commit store; log level text; return a) site) := by
  have committed := commit_eq store site
  rw [file] at committed
  dsimp only [writeStore] at committed
  rcases saved : Host.saveDocument store.toJson p site.host with ⟨cause | _, host1⟩ <;>
    rw [saved] at committed
  · refine .inr ⟨cause, host1, _, saved, ?_, Work.bind_of_error committed⟩
    rfl
  · refine .inl ⟨host1, _, saved, ?_, Work.bind_of_ok committed⟩
    rfl

theorem ask_tried (file : site.arena.file = some p) (planned : site.planned request = some plan) :
    Tried site p plan.host plan.store plan.answer (ask request site) := by
  obtain ⟨level, text, e⟩ := ask_planned planned
  rw [e]
  exact @commit_log_tried (site.after plan.host site.arena.store) _ _ file _ _ _ _

/-- An arena with a file from which its store would be loaded. -/
structure IsBacked (site : Site) (p : Path) : Prop where
  file : site.arena.file = some p
  durable : site.arena.store.IsDurable
  backs : site.host.Backs p site.arena.store

theorem IsBacked.ask (backed : site.IsBacked p) (kept : request.IsDurable) :
    (ask request site).2.IsBacked p ∧ ∀ fault, (ask request site).1 = .error fault →
      (ask request site).2.arena.store = site.arena.store ∧
        (ask request site).2.host.disk.node? p.place = site.host.disk.node? p.place := by
  rcases planned : site.planned request with _ | plan
  · obtain ⟨result, asked⟩ := ask_unplanned planned
    rw [asked site rfl]
    exact ⟨backed, fun _ _ => ⟨rfl, rfl⟩⟩
  · have disk := disk_planned planned
    obtain ⟨host1, host2, saved, disk2, e⟩ | ⟨cause, host1, host2, unsaved, disk2, e⟩ :=
      ask_tried backed.file planned <;> rw [e]
    · have backs : host2.Backs p plan.store := (Host.backs_of_saved saved).of_disk disk2
      refine ⟨⟨backed.file, isDurable_planned backed.durable kept planned, backs⟩, ?_⟩
      intro fault failed
      cases failed
    · obtain ⟨backs, same⟩ := (backed.backs.of_disk disk).of_unsaved unsaved
      refine ⟨⟨backed.file, backed.durable, backs.of_disk disk2⟩, fun _ _ => ⟨rfl, ?_⟩⟩
      rw [after_host, disk2, same, disk]

/-! ## Many calls -/

/-- What may happen between two calls: the clock goes on, space on the disk runs out or is found
again, and folders are made beside the file of the arena, as a write does that gets no further. -/
structure Between (p : Path) (site site' : Site) : Prop where
  arena : site'.arena = site.arena
  disk : site.host.disk.GrowsBeside p.place site'.host.disk

/-- Calls one after another, with what they asked for, the last one first. -/
inductive Calls (p : Path) (start : Site) : List Request → Site → Prop where
  | start : Calls p start [] start
  | ask {past : List Request} {site site1 : Site} (request : Request) :
      Calls p start past site → Between p site site1 →
      Calls p start (request :: past) (ask request site1).2

/-- An arena with what was loaded from its file, where nothing was or a store that had been written.
The disk has not changed since then. -/
structure IsOpened (site : Site) (p : Path) : Prop where
  file : site.arena.file = some p
  loaded : ∃ purpose before host, Store.load purpose p before = (.ok site.arena.store, host) ∧
    site.host.disk = host.disk
  source : (p.IsPlain ∧ site.host.disk.node? p.place = none) ∨
    ∃ s : Store, s.IsDurable ∧ site.host.Keeps (some p) s

theorem IsOpened.isBacked (opened : site.IsOpened p) : site.IsBacked p := by
  obtain ⟨purpose, before, host, loaded, disk⟩ := opened.loaded
  have disk : site.host.disk = before.disk := by
    have noted := Store.load_noted purpose p before
    rw [loaded] at noted
    exact disk.trans noted.disk
  rcases opened.source with ⟨plain, free⟩ | ⟨s, durable, keeps⟩
  · obtain ⟨nothing, empty⟩ | ⟨text, holds⟩ := Store.load_ok loaded
    · rw [← disk] at nothing
      refine ⟨opened.file, ?_, .inr ⟨plain, free, nothing, empty⟩⟩
      rw [empty]
      exact Store.isDurable_empty
    · rw [disk, holds.2] at free
      cases free
  · have there : before.Keeps (some p) s := by
      unfold Host.Keeps
      rw [← disk]
      exact keeps
    obtain ⟨_, again, -⟩ := Store.exists_load durable (.inl there) purpose
    rw [loaded] at again
    have same : site.arena.store = s := Except.ok.inj (congrArg Prod.fst again)
    refine ⟨opened.file, ?_, .inl ?_⟩ <;> rw [same]
    · exact durable
    · exact keeps

theorem IsBacked.between {site1 : Site} (backed : site.IsBacked p)
    (between : Between p site site1) : site1.IsBacked p := by
  refine ⟨?_, ?_, ?_⟩ <;> rw [between.arena]
  · exact backed.file
  · exact backed.durable
  · exact backed.backs.beside between.disk

theorem Calls.isBacked {start : Site} {past : List Request} (calls : Calls p start past site)
    (backed : start.IsBacked p) (kept : ∀ r ∈ past, r.IsDurable) : site.IsBacked p := by
  induction calls with
  | start => exact backed
  | ask request _ between ih =>
    have before := ih fun r hr => kept r (List.mem_cons_of_mem _ hr)
    exact ((before.between between).ask (kept request List.mem_cons_self)).1

/-- A fault of the storage has ended a call. -/
def EndsInStorage {α : Type} (result : Except Fault α) (fault : Fault) : Prop :=
  result = .error fault ∧ fault.family = .storage

theorem ask_unknown {o : Outcome} {ids : List Text}
    (unknown : site.arena.store.unknown o = ids.map .text) (some : ids ≠ []) :
    EndsInStorage (ask (.apply o) site).1
      (.unknownStrategies o.kind.name (ids.mergeSort Text.noLater)) := by
  have refused : site.arena.store.apply o =
      .error (.unknownStrategies o.kind.name (ids.mergeSort Text.noLater)) := by
    rw [Store.apply, unknown, if_neg (List.map_eq_nil_iff.not.2 some), Store.unknownFault,
      Json.texts?_map]
  exact ⟨congrArg Prod.fst (ask_refused_apply refused), rfl⟩

/-- Calls to an arena that was opened on a new file or on one that had been written. Whichever of
the writes fail, a call whose write fails and an outcome for unknown strategies are refused; a call
that fails leaves the store and the file as they were; a call whose write goes well puts the store
that was written into the arena; and after each call the store is found again in the file. -/
theorem all_or_nothing {start site site1 site2 : Site} {past : List Request} {request : Request}
    {result : Except Fault Answer} (opened : start.IsOpened p) (calls : Calls p start past site)
    (between : Between p site site1) (kept : ∀ r ∈ request :: past, r.IsDurable)
    (asked : Site.ask request site1 = (result, site2)) :
    (∀ plan, site1.planned request = some plan →
      (∀ cause, (Host.saveDocument plan.store.toJson p plan.host).1 = .error cause →
        EndsInStorage result (.unwritableArena p.text cause)) ∧
      ((Host.saveDocument plan.store.toJson p plan.host).1 = .ok () →
        result = .ok plan.answer ∧ site2.arena.store = plan.store)) ∧
    (∀ o ids, request = .apply o → site1.arena.store.unknown o = ids.map .text → ids ≠ [] →
      EndsInStorage result (.unknownStrategies o.kind.name (ids.mergeSort Text.noLater))) ∧
    (∀ fault, result = .error fault → site2.arena.store = site.arena.store ∧
      site2.host.disk.node? p.place = site.host.disk.node? p.place) ∧
    ∀ purpose, ∃ host, Store.load purpose p site2.host = (.ok site2.arena.store, host) := by
  have backed := (calls.isBacked opened.isBacked fun r hr =>
    kept r (List.mem_cons_of_mem _ hr)).between between
  obtain ⟨backed2, unchanged⟩ := backed.ask (kept request List.mem_cons_self)
  rw [asked] at backed2 unchanged
  refine ⟨fun plan planned => ?_, ?_, fun fault failed => ?_,
    backed2.backs.exists_load backed2.durable⟩
  · have tried := ask_tried backed.file planned
    rw [asked] at tried
    obtain ⟨host1, host2, saved, -, e⟩ | ⟨cause, host1, host2, unsaved, -, e⟩ := tried <;> cases e
    · rw [saved]
      exact ⟨fun cause failed => (by cases failed), fun _ => ⟨rfl, rfl⟩⟩
    · rw [unsaved]
      refine ⟨fun cause' failed => ?_, fun went => (by cases went)⟩
      cases failed
      exact ⟨rfl, rfl⟩
  · rintro o ids rfl unknown some
    have refused := ask_unknown unknown some
    rwa [asked] at refused
  · obtain ⟨store, node⟩ := unchanged fault failed
    rw [between.arena] at store
    exact ⟨store, node.trans between.disk.same⟩

/-- A strategy is stored, and another one is not when there is no space for it. -/
theorem all_or_nothing_full : ∃ site site1 site2 result,
    Calls (.ofText "arena.json") startedOnFile
        [.add "Traitor" Builtin.alwaysBetray.tree none "Nobody"] site ∧
      Between (.ofText "arena.json") site site1 ∧
      ask (.add "Saint" Builtin.alwaysCooperate.tree none "Nobody") site1 = (result, site2) ∧
      EndsInStorage result (.unwritableArena "arena.json" (.file .full)) ∧
      site2.arena.store.strategies.map Strategy.name = [.text "Traitor"] ∧
      ∀ purpose, ∃ host, Store.load purpose (.ofText "arena.json") site2.host =
        (.ok site2.arena.store, host) := by
  have opened : startedOnFile.IsOpened (.ofText "arena.json") := by
    refine ⟨rfl, ?_, .inl ⟨⟨by decide +kernel, by decide +kernel⟩, by decide +kernel⟩⟩
    obtain ⟨host, loaded⟩ := @Store.load_none .arena (.ofText "arena.json") startedOnFile.host
      (by decide +kernel)
    have noted := Store.load_noted .arena (.ofText "arena.json") startedOnFile.host
    rw [loaded] at noted
    exact ⟨.arena, _, host, loaded, noted.disk.symm⟩
  have between (site : Site) (isFull : Bool) : Between (.ofText "arena.json") site
      { site with host := { site.host with isFull } } :=
    ⟨rfl, refl_of (Disk.GrowsBeside _) _⟩
  have stored : Calls (.ofText "arena.json") startedOnFile
      [.add "Traitor" Builtin.alwaysBetray.tree none "Nobody"] _ :=
    .ask (.add "Traitor" Builtin.alwaysBetray.tree none "Nobody") .start (between _ false)
  have kept : ∀ r ∈ [Request.add "Saint" Builtin.alwaysCooperate.tree none "Nobody",
      .add "Traitor" Builtin.alwaysBetray.tree none "Nobody"], r.IsDurable := by
    intro r hr
    simp only [List.mem_cons, List.not_mem_nil, or_false] at hr
    rcases hr with rfl | rfl <;>
      exact ⟨Text.isJoined_ofString _, isJoined_always _, fun t ht => (by cases ht),
        Text.isJoined_ofString _⟩
  obtain ⟨writes, -, unchanged, loads⟩ :=
    all_or_nothing opened stored (between _ true) kept (Prod.eta _).symm
  have refused := (writes _ rfl).1 (.file .full)
    (congrArg Prod.fst (Host.saveDocument_full rfl))
  refine ⟨_, _, _, _, stored, between _ true, (Prod.eta _).symm, refused, ?_, loads⟩
  rw [(unchanged _ refused.1).1]
  decide +kernel

/-! ## What falls behind -/

/-- An arena with a file at a path on a host that has just started, with nothing in it. -/
def startedAt (path : Text) : Site :=
  { started with arena := { started.arena with file := some (.ofText path) } }

/-- Names, scores and times of a store. -/
def contents (s : Store) : List Json :=
  s.strategies.flatMap (fun t => [t.name, t.score]) ++
    s.records.map fun r => .text (Text.ofString r.playedAt.isoText)

/-- A change that went well, and a look into the file that shows something else. -/
theorem exists_load_ne (site : Site) (p : Path) (first : List Command) (now : Timestamp)
    (change : Request) (purpose : Purpose) (shows : List Json) (changes : change.isChange = true)
    (done : ((site.answers (first ++ [.ask now change])).1.all fun answer => answer.isOk) = true)
    (file : (site.answers first).2.arena.file = some p)
    (read : (Json.Grammar.document purpose.room (Text.lineFeeds (Json.written 0
      (site.answers (first ++ [.ask now change])).2.arena.store.toJson))).toOption =
        some (site.answers (first ++ [.ask now change])).2.arena.store.toJson.rejoined)
    (found : (Store.ofDocument p
      (site.answers (first ++ [.ask now change])).2.arena.store.toJson.rejoined
      (site.answers (first ++ [.ask now change])).2.host).1.toOption.map contents = some shows)
    (differ : shows ≠ contents (site.answers (first ++ [.ask now change])).2.arena.store) :
    ((site.answers (first ++ [.ask now change])).1.all fun answer => answer.isOk) = true ∧
      ∃ s host, Store.load purpose p (site.answers (first ++ [.ask now change])).2.host =
        (.ok s, host) ∧ s ≠ (site.answers (first ++ [.ask now change])).2.arena.store := by
  obtain ⟨s, host, document, rfl⟩ := exists_of_toOption found
  have keeps := keeps_of_answers first now changes done file
  refine ⟨done, s, host, ?_, fun same => differ (by rw [same])⟩
  rw [Store.load_of_read (keeps p rfl).2 (readDocument_written read), document]

/-- A failed write can keep an arena from being opened again, where it makes a folder on the way at
the place of the file, or one in which a name of the path is too long. And a write that went well
does not keep everything that is in the arena. -/
theorem exists_behind :
    (∀ path ∈ [("a/../a" : Text), "a/" ++ Text.repeated 256 'n'],
      (∃ host, Store.load .arena (.ofText path) (startedAt path).host = (.ok .empty, host)) ∧
      (startedAt path).host.disk.node? (Path.ofText path).place = none ∧
      (ask (.add "Traitor" Builtin.alwaysBetray.tree none "Nobody") (startedAt path)).1.isOk =
        false ∧
      (Store.load .arena (.ofText path)
        (ask (.add "Traitor" Builtin.alwaysBetray.tree none "Nobody")
          (startedAt path)).2.host).1.isOk = false) ∧
    ∀ commands ∈ [
        [.ask .start2024 (.add "Traitor" Builtin.alwaysBetray.tree none "Nobody"),
          .ask .start2024 halfPoint],
        [.ask .start2024 splitName], [.ask .start2024 halfSecond]],
      ((startedOnFile.answers commands).1.all fun answer => answer.isOk) = true ∧
      ∃ s host, Store.load .arena (.ofText "arena.json") (startedOnFile.answers commands).2.host =
        (.ok s, host) ∧ s ≠ (startedOnFile.answers commands).2.arena.store := by
  constructor
  · intro path h
    simp only [List.mem_cons, List.not_mem_nil, or_false] at h
    rcases h with rfl | rfl <;>
      exact ⟨Store.load_none (by decide +kernel), by decide +kernel⟩
  · intro commands h
    simp only [List.mem_cons, List.not_mem_nil, or_false] at h
    rcases h with rfl | rfl | rfl
    · have half := exists_load_ne startedOnFile (.ofText "arena.json")
        [.ask .start2024 (.add "Traitor" Builtin.alwaysBetray.tree none "Nobody")] .start2024
        halfPoint .arena [.text "Traitor", .int 0] rfl (by decide +kernel) (by decide +kernel)
        (by decide +kernel) (by decide +kernel) (by decide +kernel)
      rwa [List.cons_append, List.nil_append] at half
    · have joined := exists_load_ne startedOnFile (.ofText "arena.json") [] .start2024 splitName
        .arena [.text [.ofNat 0x1f600], .int 0] rfl (by decide +kernel) (by decide +kernel)
        (by decide +kernel) (by decide +kernel) (by decide +kernel)
      rwa [List.nil_append] at joined
    · have forgotten := exists_load_ne startedOnFile (.ofText "arena.json") [] .start2024 halfSecond
        .arena [.text "2024-01-01T00:00:00+00:00"] rfl (by decide +kernel) (by decide +kernel)
        (by decide +kernel) (by decide +kernel) (by decide +kernel)
      rwa [List.nil_append] at forgotten

end Site
end IteratedDilemma
