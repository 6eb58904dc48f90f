import IteratedDilemma.Proofs.Arena.Requests
import IteratedDilemma.Proofs.Store.File

/-! Arenas that are closed and opened again between the operations on their store. Main statement:
if every write succeeds, nobody can tell from the answers that an arena was closed at all
(`Site.answers_eq_of_reopened`): it answers like one that keeps its store in memory. The invariant
is that both have one store, which a document holds unchanged (`Store.IsDurable`), and that the file
holds it (`Site.Mirrors`). -/
namespace IteratedDilemma
set_option autoImplicit false

/-! ## What is done with an arena -/

namespace Store

/-- An answer other than that a file could not be written. -/
def IsWritten (answer : Except Fault Answer) : Prop :=
  ∀ path cause, answer ≠ .error (.unwritableArena path cause)

theorem isWritten_of_isOk {answers : List (Except Fault Answer)}
    (went : (answers.all fun answer => answer.isOk) = true) : ∀ a ∈ answers, IsWritten a := by
  intro a ha path cause e
  have ok := List.all_eq_true.1 went a ha
  rw [e] at ok
  cases ok

/-- What is done with an arena: something is asked of its store when the clock shows a time, or it
is closed and opened again. -/
inductive Command where
  | ask (now : Timestamp) (request : Request)
  | reopen (purpose : Purpose)

def Command.IsDurable : Command → Prop
  | ask _ request => request.IsDurable
  | reopen _ => True

end Store

namespace Site

open Store (Request Answer Command)

/-- Closes an arena and opens it again from its file. One without a file stays open. -/
def reopen (purpose : Purpose) : Work Site Unit := do
  match (← get).arena.file with
  | none => return
  | some p =>
    let store ← onHost (Store.load purpose p)
    modify fun site => site.after site.host store

/-- The site when the clock shows a time. -/
def atTime (site : Site) (now : Timestamp) : Site :=
  { site with host := { site.host with now } }

def act (site : Site) : Command → Except Fault Answer × Site
  | .ask now request => ask request (site.atTime now)
  | .reopen purpose => (do reopen purpose; return .done : Work Site Answer) site

/-- The answers to commands one after another, with the site after them. -/
def answers (site : Site) : List Command → List (Except Fault Answer) × Site
  | [] => ([], site)
  | command :: rest =>
    let (answer, site) := site.act command
    let (more, site) := site.answers rest
    (answer :: more, site)

theorem answers_append (site : Site) (first second : List Command) :
    site.answers (first ++ second) = ((site.answers first).1 ++
      ((site.answers first).2.answers second).1, ((site.answers first).2.answers second).2) := by
  induction first generalizing site with
  | nil => rfl
  | cons command rest ih =>
    change (_ :: ((site.act command).2.answers (rest ++ second)).1,
      ((site.act command).2.answers (rest ++ second)).2) = _
    rw [ih]
    rfl

/-! ## Two arenas with one store -/

/-- An arena with a file and one without that have the same store, clock and counts of names. The
file holds the store, or there is none yet and the store is empty. -/
structure Mirrors (kept free : Site) (p : Path) : Prop where
  names : kept.host.SameNames free.host
  file : kept.arena.file = some p
  memory : free.arena.file = none
  store : free.arena.store = kept.arena.store
  durable : kept.arena.store.IsDurable
  held : kept.host.Keeps (some p) kept.arena.store ∨
    kept.host.disk.at? p = .ok none ∧ kept.arena.store = .empty

/-- A run of the kept arena that could not write, or two runs with one answer that leave the arenas
alike. -/
def Agree {α : Type} (p : Path) (runK runF : Except Fault α × Site) : Prop :=
  (∃ cause, runK.1 = .error (.unwritableArena p.text cause)) ∨
    runK.1 = runF.1 ∧ Mirrors runK.2 runF.2 p

variable {kept free : Site} {p : Path}

/-- What settles with the same store in both arenas is the same in both. -/
theorem Mirrors.settle {α : Type} (m : Mirrors kept free p) {hostK hostF : Host} {s : Store} {a : α}
    {runK runF : Except Fault α × Site} (hk : Settles kept hostK s a runK)
    (hf : Settles free hostF s a runF) (names : hostK.SameNames hostF) (durable : s.IsDurable) :
    Agree p runK runF := by
  obtain ⟨host1, names1, keeps, rfl⟩ | ⟨fault, host1, -, -, ⟨q, cause, file, rfl⟩, rfl⟩ := hk
  · obtain ⟨host2, names2, -, rfl⟩ | ⟨_, _, -, -, unwritable, -⟩ := hf
    · have alike : host1.SameNames host2 := ⟨by rw [names2.now, names.now, names1.now],
        by rw [names2.strategies, names.strategies, names1.strategies],
        by rw [names2.records, names.records, names1.records]⟩
      rw [m.file] at keeps
      exact .inr ⟨rfl, alike, m.file, m.memory, rfl, durable, .inl keeps⟩
    · exact absurd m.memory unwritable.file
  · rw [m.file] at file
    cases file
    exact .inl ⟨cause, rfl⟩

theorem Mirrors.agree_of_eq {α : Type} (m : Mirrors kept free p) {work : Work Site α}
    {result : Except Fault α} (hk : work kept = (result, kept)) (hf : work free = (result, free)) :
    Agree p (work kept) (work free) := by
  rw [hk, hf]
  exact .inr ⟨rfl, m⟩

theorem Mirrors.agree_ask (m : Mirrors kept free p) {request : Request}
    (durable : request.IsDurable) : Agree p (ask request kept) (ask request free) := by
  rcases planned : kept.planned request with _ | plan
  · obtain ⟨result, asked⟩ := ask_unplanned planned
    exact m.agree_of_eq (asked kept rfl) (asked free m.store)
  · obtain ⟨host, planned', names⟩ := planned_congr m.names m.store planned
    have settles := ask_settles planned'
    exact m.settle (ask_settles planned) settles names
      (isDurable_planned m.durable durable planned)

theorem Mirrors.atTime (m : Mirrors kept free p) (now : Timestamp) :
    Mirrors (kept.atTime now) (free.atTime now) p where
  names := ⟨rfl, m.names.strategies, m.names.records⟩
  file := m.file
  memory := m.memory
  store := m.store
  durable := m.durable
  held := m.held

/-! ## Reopening -/

theorem reopen_of_none {site : Site} (memory : site.arena.file = none) (purpose : Purpose) :
    reopen purpose site = (.ok (), site) := by
  unfold reopen
  rw [Work.bind_of_ok (Work.get_apply site), memory]
  rfl

theorem reopen_of_load {site : Site} {purpose : Purpose} {host : Host} {s : Store}
    (file : site.arena.file = some p) (loaded : Store.load purpose p site.host = (.ok s, host)) :
    reopen purpose site = (.ok (), site.after host s) := by
  have onHost : Site.onHost (Store.load purpose p) site = (.ok s, { site with host }) := by
    unfold Site.onHost
    rw [loaded]
  unfold reopen
  rw [Work.bind_of_ok (Work.get_apply site), file]
  dsimp only
  rw [Work.bind_of_ok onHost]
  rfl

/-- What an arena with a file holds is what it finds when it is opened again. -/
theorem Mirrors.exists_load (m : Mirrors kept free p) (purpose : Purpose) :
    ∃ host, Store.load purpose p kept.host = (.ok kept.arena.store, host) ∧
      kept.host.HasNoted host := Store.exists_load m.durable m.held purpose

theorem Mirrors.exists_reopen (m : Mirrors kept free p) (purpose : Purpose) :
    ∃ host, reopen purpose kept = (.ok (), kept.after host kept.arena.store) ∧
      Mirrors (kept.after host kept.arena.store) free p := by
  obtain ⟨host, loaded, noted⟩ := m.exists_load purpose
  refine ⟨host, reopen_of_load m.file loaded, ?_, m.file, m.memory, m.store, m.durable, ?_⟩
  · have names := noted.sameNames
    exact ⟨by rw [m.names.now, ← names.now]; rfl,
      by rw [m.names.strategies, ← names.strategies]; rfl,
      by rw [m.names.records, ← names.records]; rfl⟩
  · have held := m.held
    unfold Host.Keeps at held ⊢
    rw [after_host, after_store, noted.disk]
    exact held

/-! ## Whole runs -/

theorem Mirrors.agree_act (m : Mirrors kept free p) {command : Command}
    (durable : command.IsDurable) : Agree p (kept.act command) (free.act command) := by
  cases command with
  | ask now request => exact (m.atTime now).agree_ask durable
  | reopen purpose =>
    obtain ⟨host, reopened, alike⟩ := m.exists_reopen purpose
    have hk : kept.act (.reopen purpose) = (.ok .done, kept.after host kept.arena.store) :=
      Work.bind_of_ok reopened
    have hf : free.act (.reopen purpose) = (.ok .done, free) :=
      Work.bind_of_ok (reopen_of_none m.memory purpose)
    rw [hk, hf]
    exact .inr ⟨rfl, alike⟩

theorem Mirrors.answers (m : Mirrors kept free p) {commands : List Command}
    (durable : ∀ c ∈ commands, c.IsDurable)
    (written : ∀ a ∈ (kept.answers commands).1, Store.IsWritten a) :
    (kept.answers commands).1 = (free.answers commands).1 ∧
      Mirrors (kept.answers commands).2 (free.answers commands).2 p := by
  -- every command leaves two arenas that mirror each other, or the kept one could not write
  induction commands generalizing kept free with
  | nil => exact ⟨rfl, m⟩
  | cons command rest ih =>
    rcases m.agree_act (durable command List.mem_cons_self) with ⟨cause, unwritable⟩ | ⟨same, alike⟩
    · exact absurd unwritable (written _ List.mem_cons_self p.text cause)
    · obtain ⟨later, after⟩ := ih alike (fun c hc => durable c (List.mem_cons_of_mem _ hc))
        fun a ha => written a (List.mem_cons_of_mem _ ha)
      exact ⟨congrArg₂ List.cons same later, after⟩

theorem Mirrors.of_empty (names : kept.host.SameNames free.host) (file : kept.arena.file = some p)
    (nothing : kept.host.disk.at? p = .ok none) (memory : free.arena.file = none)
    (keptEmpty : kept.arena.store = .empty) (freeEmpty : free.arena.store = .empty) :
    Mirrors kept free p := by
  refine ⟨names, file, memory, freeEmpty.trans keptEmpty.symm, ?_, .inr ⟨nothing, keptEmpty⟩⟩
  rw [keptEmpty]
  exact Store.isDurable_empty

theorem Mirrors.answers_look (m : Mirrors kept free p) (purpose : Purpose) (now : Timestamp)
    {request : Request} (look : request.isChange = false) :
    (kept.answers [.reopen purpose, .ask now request]).1 = [.ok .done, (ask request kept).1] := by
  obtain ⟨host, reopened, -⟩ := m.exists_reopen purpose
  have done : kept.act (.reopen purpose) = (.ok .done, kept.after host kept.arena.store) :=
    Work.bind_of_ok reopened
  change [(kept.act (.reopen purpose)).1,
    (ask request ((kept.act (.reopen purpose)).2.atTime now)).1] = _
  rw [done, ask_congr look (show ((kept.after host kept.arena.store).atTime now).arena.store =
    kept.arena.store from rfl)]

theorem isJoined_always (action : Action) : (Builtin.always action).IsJoined := by
  intro c hc d hd
  rw [List.mem_singleton.1 hc] at hd
  have known : d.kind = .known ⟨.opponent, .last⟩ := by
    rcases List.mem_cons.1 hd with rfl | hd
    · rfl
    · rw [List.mem_singleton.1 hd]
      rfl
  rw [known]
  exact Text.isJoined_ofString _

/-- A match that a document holds unchanged. -/
def plainRecord : MatchRecord where
  id := "r1"
  first := ⟨.text "s1", .text "Traitor", .text "Nobody", [.betray, .betray], 4⟩
  second := ⟨.text "s2", .text "Saint", .text "Nobody", [.cooperate, .cooperate], 0⟩
  playedAt := .start2024

theorem isDurable_plainRecord : plainRecord.IsDurable where
  storable := ⟨⟨⟨_, rfl⟩, fun _ => .text _ _, fun _ => .text _ _⟩,
    ⟨⟨_, rfl⟩, fun _ => .text _ _, fun _ => .text _ _⟩,
    Timestamp.survives_of_offset_zero rfl⟩
  joined := by
    simp only [MatchRecord.rejoined, RecordSide.rejoined, plainRecord, Json.rejoined,
      Text.rejoined_ofString]

/-- Two strategies are added, and points are given for a match between them. -/
def plainChanges : List Command :=
  [.ask .start2024 (.add "Traitor" Builtin.alwaysBetray.tree none "Nobody"),
    .ask .start2024 (.add "Saint" Builtin.alwaysCooperate.tree none "Nobody"),
    .ask .start2024 (.apply ⟨.grand, [(.text "s1", .int 4)], [plainRecord], .null, none, none⟩)]

theorem isDurable_plainChanges : ∀ c ∈ plainChanges, c.IsDurable := by
  have points : ∀ points ∈ Tally.points ([(.text "s1", .int 4)] : Tally Json),
      ∀ x, points ≠ .float x := by
    intro points there x e
    rw [List.mem_singleton.1 there] at e
    cases e
  have records : ∀ r ∈ [plainRecord], r.IsDurable := by
    intro r hr
    rw [List.mem_singleton.1 hr]
    exact isDurable_plainRecord
  intro c hc
  simp only [plainChanges, List.mem_cons, List.not_mem_nil, or_false] at hc
  rcases hc with rfl | rfl | rfl
  · exact ⟨Text.isJoined_ofString _, isJoined_always _, fun t ht => (by cases ht),
      Text.isJoined_ofString _⟩
  · exact ⟨Text.isJoined_ofString _, isJoined_always _, fun t ht => (by cases ht),
      Text.isJoined_ofString _⟩
  · exact ⟨points, records⟩

/-- The answers of an arena that is opened on a new file, and that is closed and opened again at any
time, are those of an arena that keeps its store in memory, if every write succeeds; in the end its
file can be opened, and what would be written then is what is written there. -/
theorem answers_eq_of_reopened {kept free : Site} {p : Path}
    (names : kept.host.SameNames free.host) (file : kept.arena.file = some p)
    (nothing : kept.host.disk.at? p = .ok none) (memory : free.arena.file = none)
    (keptEmpty : kept.arena.store = .empty) (freeEmpty : free.arena.store = .empty)
    {commands : List Command} (durable : ∀ c ∈ commands, c.IsDurable)
    (written : ∀ a ∈ (kept.answers commands).1, Store.IsWritten a) :
    (kept.answers commands).1 = (free.answers commands).1 ∧
      ∀ text, (kept.answers commands).2.host.disk.HoldsFile p text → ∀ purpose,
        ∃ opened, reopen purpose (kept.answers commands).2 = (.ok (), opened) ∧
          ∀ again, commit opened.arena.store opened = (.ok (), again) →
            again.host.disk.HoldsFile p text := by
  have start := Mirrors.of_empty names file nothing memory keptEmpty freeEmpty
  obtain ⟨same, m⟩ := start.answers durable written
  refine ⟨same, fun text holds purpose => ?_⟩
  obtain ⟨host, reopened, alike⟩ := m.exists_reopen purpose
  refine ⟨_, reopened, fun again committed => ?_⟩
  -- both texts are the written form of the store, which reopening has not changed
  have here : text = (kept.answers commands).2.arena.store.toJson.write := by
    rcases m.held with keeps | ⟨none, -⟩
    · have there := (keeps p rfl).2.2
      rw [holds.2] at there
      cases there
      rfl
    · rw [holds.at?] at none
      cases none
  obtain ⟨_, -, keeps, e⟩ | ⟨_, _, -, -, -, e⟩ :=
    commit_settles (kept.answers commands).2.arena.store
      ((kept.answers commands).2.after host (kept.answers commands).2.arena.store)
  · rw [after_store] at committed
    rw [committed] at e
    cases e
    rw [here]
    exact (keeps p m.file).2
  · rw [after_store] at committed
    rw [committed] at e
    cases e

/-- The record of a match is found again after the arena was closed, and its file is written again
as it was. -/
theorem answers_eq_of_reopened_record :
    ∃ commands text, .ok (.logged [plainRecord]) ∈ (startedOnFile.answers commands).1 ∧
      (startedOnFile.answers commands).1 = (started.answers commands).1 ∧
      (startedOnFile.answers commands).2.host.disk.HoldsFile (.ofText "arena.json") text ∧
      ∀ purpose, ∃ opened, reopen purpose (startedOnFile.answers commands).2 = (.ok (), opened) ∧
        ∀ again, commit opened.arena.store opened = (.ok (), again) →
          again.host.disk.HoldsFile (.ofText "arena.json") text := by
  have names : startedOnFile.host.SameNames started.host := refl_of _ _
  have nothing : startedOnFile.host.disk.at? (.ofText "arena.json") = .ok none := by
    decide +kernel
  have start : Mirrors startedOnFile started (.ofText "arena.json") :=
    .of_empty names rfl nothing rfl rfl rfl
  have went : ((startedOnFile.answers plainChanges).1.all fun answer => answer.isOk) = true := by
    decide +kernel
  obtain ⟨-, between⟩ := start.answers isDurable_plainChanges (Store.isWritten_of_isOk went)
  have looks := between.answers_look .arena .start2024
    (show Request.isChange (.records .null) = false from rfl)
  have logged : (ask (.records .null) (startedOnFile.answers plainChanges).2).1 =
      .ok (.logged [plainRecord]) := by
    rw [ask_congr rfl between.store.symm]
    rfl
  rw [logged] at looks
  have all := congrArg Prod.fst (startedOnFile.answers_append plainChanges
    [.reopen .arena, .ask .start2024 (.records .null)])
  dsimp only at all
  rw [looks] at all
  have durable : ∀ c ∈ plainChanges ++ [.reopen .arena, .ask .start2024 (.records .null)],
      c.IsDurable := by
    intro c hc
    rcases List.mem_append.1 hc with hc | hc
    · exact isDurable_plainChanges c hc
    · simp only [List.mem_cons, List.not_mem_nil, or_false] at hc
      rcases hc with rfl | rfl <;> trivial
  have written : ∀ a ∈ (startedOnFile.answers
      (plainChanges ++ [.reopen .arena, .ask .start2024 (.records .null)])).1,
      Store.IsWritten a := by
    refine Store.isWritten_of_isOk ?_
    rw [all, List.all_append, went]
    rfl
  have after := (start.answers durable written).2
  obtain ⟨same, again⟩ := answers_eq_of_reopened names rfl nothing rfl rfl rfl durable written
  rcases after.held with keeps | ⟨-, empty⟩
  · have holds := (keeps _ rfl).2
    refine ⟨_, _, ?_, same, holds, again _ holds⟩
    rw [all]
    exact List.mem_append_right _ (.tail _ (.head _))
  · rw [← after.store] at empty
    cases congrArg (fun s => s.records.isEmpty) empty

/-! ## What a file does not keep -/

theorem readDocument_written {purpose : Purpose} {value data : Json}
    (read : (Json.Grammar.document purpose.room
      (Text.lineFeeds (Json.written 0 value))).toOption = some data) :
    Host.readDocument purpose value.write = .ok data := by
  have document : Json.Grammar.document purpose.room (Text.lineFeeds (Json.written 0 value)) =
      .ok data := by
    cases e : Json.Grammar.document purpose.room (Text.lineFeeds (Json.written 0 value)) with
    | error failure =>
      rw [e] at read
      cases read
    | ok v =>
      rw [e] at read
      cases read
      rfl
  rw [Host.readDocument, Json.write, Json.read, String.toList_ofList, String.toList_ofList,
    document]
  rfl

theorem answers_memory {site : Site} (memory : site.arena.file = none) (purpose : Purpose)
    (now : Timestamp) {request : Request} (look : request.isChange = false) :
    (site.answers [.reopen purpose, .ask now request]).1 = [.ok .done, (ask request site).1] := by
  have reopened : site.act (.reopen purpose) = (.ok .done, site) :=
    Work.bind_of_ok (reopen_of_none memory purpose)
  change [(site.act (.reopen purpose)).1,
    (ask request ((site.act (.reopen purpose)).2.atTime now)).1] = _
  rw [reopened, ask_congr look (show (site.atTime now).arena.store = site.arena.store from rfl)]

theorem answers_file {site : Site} {p : Path} (file : site.arena.file = some p)
    (keeps : site.host.Keeps site.arena.file site.arena.store) {purpose : Purpose}
    {data : Json} (read : Host.readDocument purpose site.arena.store.toJson.write = .ok data)
    {s : Store} {host : Host} (found : Store.ofDocument p data site.host = (.ok s, host))
    (now : Timestamp) {request : Request} (look : request.isChange = false) :
    (site.answers [.reopen purpose, .ask now request]).1 =
      [.ok .done, (ask request (site.after site.host s)).1] := by
  have loaded : Store.load purpose p site.host = (.ok s, host) := by
    rw [Store.load_of_read (keeps p file).2 read, found]
  have reopened : site.act (.reopen purpose) = (.ok .done, site.after host s) :=
    Work.bind_of_ok (reopen_of_load file loaded)
  change [(site.act (.reopen purpose)).1,
    (ask request ((site.act (.reopen purpose)).2.atTime now)).1] = _
  rw [reopened, ask_congr look (show ((site.after host s).atTime now).arena.store =
    (site.after site.host s).arena.store from rfl)]

/-- What an answer shows of names, scores and times. -/
def shown : Except Fault Answer → List Json
  | .ok (.found (some s)) => [s.name, s.score]
  | .ok (.logged records) => records.map fun r => .text (Text.ofString r.playedAt.isoText)
  | _ => []

theorem answers_ne {kept free : Site} {before : List Command} {purpose : Purpose}
    {now : Timestamp} {request : Request} {a b : Except Fault Answer}
    (hk : ((kept.answers before).2.answers [.reopen purpose, .ask now request]).1 = [.ok .done, a])
    (hf : ((free.answers before).2.answers [.reopen purpose, .ask now request]).1 = [.ok .done, b])
    (done : ((kept.answers before).1.all fun answer => answer.isOk) = true)
    (shows : shown a ≠ []) (differ : shown a ≠ shown b) :
    (∀ answer ∈ (kept.answers (before ++ [.reopen purpose, .ask now request])).1,
        Store.IsWritten answer) ∧
      (kept.answers (before ++ [.reopen purpose, .ask now request])).1 ≠
        (free.answers (before ++ [.reopen purpose, .ask now request])).1 := by
  rw [answers_append, answers_append, hk, hf]
  refine ⟨fun answer there path cause e => ?_, fun same => differ ?_⟩
  · rcases List.mem_append.1 there with early | late
    · exact Store.isWritten_of_isOk done _ early path cause e
    · rw [e] at late
      rcases List.mem_cons.1 late with opened | late
      · cases opened
      · rw [← List.mem_singleton.1 late] at shows
        exact shows rfl
  · have last := List.append_inj_right' same rfl
    rw [(List.cons.inj (List.cons.inj last).2).1]

theorem keeps_of_ask {site : Site} {request : Request} (change : request.isChange = true)
    (done : (ask request site).1.isOk = true) :
    (ask request site).2.host.Keeps site.arena.file (ask request site).2.arena.store := by
  rcases planned : site.planned request with _ | plan
  · obtain ⟨fault, refused⟩ := ask_refused change planned
    rw [refused] at done
    cases done
  · obtain ⟨host', -, keeps, e⟩ | ⟨fault, host', -, -, -, e⟩ := ask_settles planned
    · rw [e]
      exact keeps
    · rw [e] at done
      cases done

theorem keeps_of_answers (first : List Command) (now : Timestamp) {change : Request}
    (changes : change.isChange = true)
    (done : ((kept.answers (first ++ [.ask now change])).1.all fun answer => answer.isOk) = true)
    (file : (kept.answers first).2.arena.file = some p) :
    (kept.answers (first ++ [.ask now change])).2.host.Keeps (some p)
      (kept.answers (first ++ [.ask now change])).2.arena.store := by
  have last : (kept.answers (first ++ [.ask now change])).1 = (kept.answers first).1 ++
      [(ask change ((kept.answers first).2.atTime now)).1] := by rw [answers_append]; rfl
  have site : (kept.answers (first ++ [.ask now change])).2 =
      (ask change ((kept.answers first).2.atTime now)).2 := by rw [answers_append]; rfl
  have went : (ask change ((kept.answers first).2.atTime now)).1.isOk = true := by
    refine List.all_eq_true.1 done _ ?_
    rw [last]
    exact List.mem_append_right _ (List.mem_singleton_self _)
  have keeps := keeps_of_ask changes went
  rw [← site] at keeps
  rw [← file]
  exact keeps

theorem exists_of_toOption {run : Except Fault Store × Host} {f : Store → List Json}
    {x : List Json} (h : run.1.toOption.map f = some x) :
    ∃ s host, run = (.ok s, host) ∧ f s = x := by
  obtain ⟨fault | s, host⟩ := run
  · cases h
  · cases h
    exact ⟨s, host, rfl, rfl⟩

/-- A change of a store that went well, and a look that shows that something else is read for it. -/
theorem answers_ne_of_read (p : Path) (first : List Command) (now : Timestamp)
    (change request : Request) (purpose : Purpose) (shows : List Json)
    (changes : change.isChange = true) (look : request.isChange = false)
    (done : ((kept.answers (first ++ [.ask now change])).1.all fun answer => answer.isOk) = true)
    (file : (kept.answers first).2.arena.file = some p)
    (stays : (kept.answers (first ++ [.ask now change])).2.arena.file = some p)
    (memory : (free.answers (first ++ [.ask now change])).2.arena.file = none)
    (read : (Json.Grammar.document purpose.room (Text.lineFeeds (Json.written 0
      (kept.answers (first ++ [.ask now change])).2.arena.store.toJson))).toOption =
        some (kept.answers (first ++ [.ask now change])).2.arena.store.toJson.rejoined)
    (found : (Store.ofDocument p
      (kept.answers (first ++ [.ask now change])).2.arena.store.toJson.rejoined
      (kept.answers (first ++ [.ask now change])).2.host).1.toOption.map
        (fun s => shown (ask request (started.after started.host s)).1) = some shows)
    (differ : shows ≠ [] ∧
      shows ≠ shown (ask request (free.answers (first ++ [.ask now change])).2).1) :
    (∀ answer ∈ (kept.answers ((first ++ [.ask now change]) ++
        [.reopen purpose, .ask now request])).1, Store.IsWritten answer) ∧
      (kept.answers ((first ++ [.ask now change]) ++ [.reopen purpose, .ask now request])).1 ≠
        (free.answers ((first ++ [.ask now change]) ++ [.reopen purpose, .ask now request])).1 := by
  have keeps := keeps_of_answers first now changes done file
  rw [← stays] at keeps
  obtain ⟨s, host, document, rfl⟩ := exists_of_toOption found
  have opened := answers_file stays keeps (readDocument_written read) document now look
  have store : ((kept.answers (first ++ [.ask now change])).2.after
      (kept.answers (first ++ [.ask now change])).2.host s).arena.store =
        (started.after started.host s).arena.store := rfl
  rw [ask_congr look store] at opened
  exact answers_ne opened (answers_memory memory purpose now look) done differ.1 differ.2

/-- Half a point for a strategy. -/
def halfPoint : Request :=
  .apply ⟨.grand, [(.text "s1", .float (.ofDecimal false 5 (-1)))], [], .null, none, none⟩

/-- A strategy whose name is two halves of a pair. -/
def splitName : Request :=
  .add [.ofNat 0xd83d, .ofNat 0xde00] Builtin.alwaysBetray.tree none "Nobody"

/-- A match at a time whose offset is half a second. -/
def halfSecond : Request :=
  .apply ⟨.grand, [], [⟨"r1", ⟨.text "s1", .text "", .text "", [], 0⟩,
    ⟨.text "s2", .text "", .text "", [], 0⟩,
    ⟨⟨2024, 1, 1, 0, 0, 0, 0, some 500000⟩, by decide⟩⟩], .null, none, none⟩

/-- A store is not always found again as it was: a file keeps no halves of points, joins the halves
of pairs, and forgets offsets of less than a second. -/
theorem exists_answers_ne :
    Site.startedOnFile.host.SameNames Site.started.host ∧
      Site.startedOnFile.arena.file = some (.ofText "arena.json") ∧
      Site.startedOnFile.host.disk.at? (.ofText "arena.json") = .ok none ∧
      Site.started.arena.file = none ∧ Site.startedOnFile.arena.store = .empty ∧
      Site.started.arena.store = .empty ∧
      ∀ commands ∈ [
          [.ask .start2024 (.add "Traitor" Builtin.alwaysBetray.tree none "Nobody"),
            .ask .start2024 halfPoint, .reopen .arena, .ask .start2024 (.get (.text "s1"))],
          [.ask .start2024 splitName, .reopen .arena, .ask .start2024 (.get (.text "s1"))],
          [.ask .start2024 halfSecond, .reopen .arena, .ask .start2024 (.records .null)]],
        (∀ a ∈ (Site.startedOnFile.answers commands).1, Store.IsWritten a) ∧
          (Site.startedOnFile.answers commands).1 ≠ (Site.started.answers commands).1 := by
  have nothing : Site.startedOnFile.host.disk.at? (.ofText "arena.json") = .ok none := by
    decide +kernel
  refine ⟨refl_of _ _, rfl, nothing, rfl, rfl, rfl, fun commands h => ?_⟩
  simp only [List.mem_cons, List.not_mem_nil, or_false] at h
  rcases h with rfl | rfl | rfl
  · exact answers_ne_of_read (.ofText "arena.json")
      [.ask .start2024 (.add "Traitor" Builtin.alwaysBetray.tree none "Nobody")] .start2024
      halfPoint (.get (.text "s1")) .arena [.text "Traitor", .int 0] rfl rfl
      (by decide +kernel) (by decide +kernel) (by decide +kernel) (by decide +kernel)
      (by decide +kernel) (by decide +kernel) (by decide +kernel)
  · exact answers_ne_of_read (.ofText "arena.json") [] .start2024 splitName
      (.get (.text "s1")) .arena [.text [.ofNat 0x1f600], .int 0] rfl rfl
      (by decide +kernel) (by decide +kernel) (by decide +kernel) (by decide +kernel)
      (by decide +kernel) (by decide +kernel) (by decide +kernel)
  · exact answers_ne_of_read (.ofText "arena.json") [] .start2024 halfSecond
      (.records .null) .arena [.text "2024-01-01T00:00:00+00:00"] rfl rfl
      (by decide +kernel) (by decide +kernel) (by decide +kernel) (by decide +kernel)
      (by decide +kernel) (by decide +kernel) (by decide +kernel)

end Site
end IteratedDilemma
