import IteratedDilemma.Proofs.Arena.Field
import IteratedDilemma.Proofs.Arena.Lasting
import IteratedDilemma.Proofs.Arena.Reopening

/-! What a run keeps unless the arena is cleared: stored strategies stay as they are but for their
scores, in their order, with new ones behind them, and the log only grows at its newest end, by
whole passes (`Scene.stored_is_permanent`). Only an export into the file of the arena and texts with
two halves of a pair side by side make that something else is found when the arena is opened again
(`Site.exists_forgotten`). -/
namespace IteratedDilemma
set_option autoImplicit false

/-! ## Strategies but for their scores -/

/-- The strategy but for its score. -/
def Strategy.profile (s : Strategy) : Strategy := s.withScore .null

namespace Store

/-- The strategies in their order, but for their scores. -/
def profiles (s : Store) : List Strategy := s.strategies.map Strategy.profile

@[simp] theorem profiles_rescore (s : Store) (score : Strategy → Json) :
    (s.rescore score).profiles = s.profiles := by
  simp only [profiles, rescore, List.map_map]
  rfl

@[simp] theorem profiles_append (s : Store) (records : List MatchRecord) :
    (s.append records).profiles = s.profiles := rfl

theorem profiles_add {s : Store} {new : Strategy} (apart : ∀ t ∈ s.strategies, t.key ≠ new.key) :
    (s.add new).profiles = s.profiles ++ [new.profile] := by
  change (place new s.strategies).map Strategy.profile = _
  rw [place_of_absent apart, List.map_append]
  rfl

theorem log_append (s : Store) (records : List MatchRecord) :
    (s.append records).log none = records.reverse ++ s.log none :=
  List.reverse_append

/-- A limit of no less than zero shows the first records of the log, as many as there are. -/
theorem log_limited (s : Store) {limit : Int} (h : 0 ≤ limit) :
    s.log (some limit) <+: s.log none ∧
      (s.log (some limit)).length = min limit.toNat (s.log none).length := by
  have first : s.log (some limit) = (s.log none).take limit.toNat := by
    simp only [log, limited]
    rw [if_neg (by omega)]
  rw [first, List.length_take]
  exact ⟨List.take_prefix _ _, rfl⟩

theorem ranked_of_ordered {s : Store} (rankable : s.strategies.all Standings.isRankable = true)
    (ordered : s.strategies.Pairwise fun a b => (StandingKey.of a).le (.of b) = true) :
    s.ranked = .ok s.strategies := by
  unfold Store.ranked
  rw [Standings.ranked, if_pos rankable, Standings.sorted, List.mergeSort_of_pairwise ordered]

end Store

namespace Site

/-- A built-in tree is stored by somebody who says no more than a name. -/
def storing (name : Text) (b : Builtin) : Work Site Strategy :=
  addStrategy (.text name) b.tree (.ofOption none) (.text "Nobody")

/-- The strategy that is stored so. -/
def nobodys (site : Site) (name : Text) (b : Builtin) : Strategy :=
  site.newcomer (.text name) b.tree (.ofOption none) (.text "Nobody")

theorem storing_settles (name : Text) (b : Builtin) (site : Site) :
    Settles site site.host.nameStrategy.2 (site.arena.store.add (site.nobodys name b))
      (site.nobodys name b) (storing name b site) :=
  site.addStrategy_settles _ _ _ _

end Site

namespace Scene

variable {site site' : Site} {c c' : Option Caller} {e : Option Event}

/-- What a step of a caller leaves of the store, if it does not clear it. -/
theorem Act.keeps (h : Act site c e site' c') (sound : site.arena.store.IsSound site.host)
    (kept : e ≠ some .cleared) :
    site'.arena.store.profiles = site.arena.store.profiles ++
        (Happening.newcomers (e.map Happening.change).toList).map Strategy.profile ∧
      site'.arena.store.log none =
        Happening.committed (e.map Happening.change).toList ++ site.arena.store.log none := by
  have change := h.store_change
  rcases e with _ | new | records | _ | _
  · have same : site'.arena.store = site.arena.store := change
    rw [same]
    exact ⟨(List.append_nil _).symm, rfl⟩
  · obtain ⟨⟨name, tree, authorId, author, rfl⟩, added⟩ := change
    rw [added]
    exact ⟨Store.profiles_add fun t ht => (sound.named t ht).key_ne_next rfl, rfl⟩
  · obtain ⟨_, _, p, finishedAt, -, rfl, applied⟩ := change
    obtain ⟨-, score, applied⟩ := Store.apply_ok applied
    rw [applied, Store.profiles_append, Store.profiles_rescore, Store.log_append]
    refine ⟨(List.append_nil _).symm, ?_⟩
    exact congrArg (· ++ site.arena.store.log none) (List.append_nil _).symm
  · have rescored : site'.arena.store = site.arena.store.reset := change
    rw [rescored]
    exact ⟨(Store.profiles_rescore _ _).trans (List.append_nil _).symm, rfl⟩
  · exact absurd rfl kept

variable {start scene later : Scene} {past recent : List Happening}

/-! ## Saves without anybody else -/

/-- What somebody does who stores a tree: it looks up the opponents before. -/
theorem chronicle_storing {site site' : Site} {name : Text} {b : Builtin}
    {opponents : List Strategy} (run : Chronicle start past ⟨site, []⟩)
    (named : name.trimmed = name ∧ name ≠ [])
    (listed : site.arena.store.ranked = .ok opponents)
    (stored : Site.storing name b site = (.ok (site.nobodys name b), site')) :
    Chronicle start (.change (.stored (site.nobodys name b)) :: past) ⟨site',
      [⟨false, .playing (Schedule.challenge (site.nobodys name b) opponents).length
        (Schedule.challenge (site.nobodys name b) opponents)
        (.onSave site.host.universalNow (site.nobodys name b))⟩]⟩ := by
  have ranked : Site.ranked site = (.ok opponents, site) := by rw [Site.ranked_apply, listed]
  have required : requiredName (.text name) = .ok name := by
    rw [requiredName_text (by rw [named.1]; exact named.2), named.1]
  have looked : Act site none none site
      (some ⟨false, .looked b.tree none name "Nobody" opponents⟩) :=
    @Act.look site site ⟨name, b.tree, none, some "Nobody"⟩ name "Nobody" opponents required rfl
      ranked
  exact (run.act looked).act (.store _ stored)

/-- Fixtures that are all played, with nobody coming in between. -/
theorem chronicle_playing {site site' : Site} {holdsGate : Bool} {total : Nat}
    {left : List Fixture} {p p' : Pass}
    (run : Chronicle start past ⟨site, [⟨holdsGate, .playing total left p⟩]⟩)
    (h : Site.playFixtures .silent total left p site = (.ok p', site')) :
    Chronicle start past ⟨site', [⟨holdsGate, .playing total [] p'⟩]⟩ := by
  induction left generalizing p site with
  | nil =>
    cases h
    exact run
  | cons f rest ih =>
    obtain ⟨⟨q, r⟩, t, played, h⟩ := Work.bind_eq_ok h
    obtain ⟨_, t', silent, h⟩ := Work.bind_eq_ok h
    cases silent
    exact ih (run.act (.play played)) h

/-- Plays fixtures and takes over what has come out. Tells how many matches were played. -/
def playThrough (fixtures : List Fixture) (p : Pass) : Work Site Nat := do
  let p ← Site.playFixtures .silent fixtures.length fixtures p
  Site.applyOutcome (p.finish .start2024)
  return p.records.length

/-- Somebody plays, takes over what has come out and leaves. -/
theorem chronicle_playThrough {site site' : Site} {fixtures : List Fixture} {p : Pass} {n : Nat}
    (run : Chronicle start past ⟨site, [⟨false, .playing fixtures.length fixtures p⟩]⟩)
    (h : playThrough fixtures p site = (.ok n, site')) :
    ∃ records, records.length = n ∧
      Chronicle start (.change (.committed records) :: past) ⟨site', []⟩ ∧
      site'.host.Keeps site'.arena.file site'.arena.store := by
  obtain ⟨p', played, games, h⟩ := Work.bind_eq_ok h
  obtain ⟨_, last, committed, h⟩ := Work.bind_eq_ok h
  cases h
  have done := (chronicle_playing run games).act (.commit _ committed)
  have settles := (Site.applyOutcome_settles (apply_of_applyOutcome committed)).of_eq committed
  refine ⟨p'.records.reverse, List.length_reverse, done.act .leave, ?_⟩
  rw [(settles.steady (Nat.le_refl _) rfl).file]
  exact settles.keeps_of_ok

theorem rejoined_nobodys (site : Site) (name : String) (action : Action) {b : Builtin}
    (always : b.tree = Builtin.always action) :
    (site.nobodys (Text.ofString name) b).rejoined = site.nobodys (Text.ofString name) b := by
  refine (Site.isDurable_newcomer site ⟨Text.isJoined_ofString _, ?_, fun t ht => (by cases ht),
    Text.isJoined_ofString _⟩).joined
  rw [always]
  exact Site.isJoined_always action

/-! ## What a run keeps -/

/-- What a run leaves of a store that it does not clear. -/
theorem Chronicle.keeps (after : Chronicle scene recent later) (before : Chronicle start past scene)
    (fresh : start.IsFresh) (kept : .change .cleared ∉ recent)
    (joined : .reopening ∈ recent →
      ∀ new, .change (.stored new) ∈ recent ++ past → new.rejoined = new) :
    later.site.arena.store.profiles = scene.site.arena.store.profiles ++
        (Happening.newcomers recent).map Strategy.profile ∧
      later.site.arena.store.log none =
        Happening.committed recent ++ scene.site.arena.store.log none := by
  induction after with
  | start => exact ⟨(List.append_nil _).symm, rfl⟩
  | @step recent middle _ d after tells ih =>
    have run := before.trans after
    obtain ⟨profiles, log⟩ := ih (fun h => kept (List.mem_append_right _ h)) fun reopened new h =>
      joined (List.mem_append_right _ reopened) new
        (by rw [List.append_assoc]; exact List.mem_append_right _ h)
    rw [Happening.newcomers_append, Happening.committed_append, List.map_append,
      ← List.append_assoc, ← profiles, List.append_assoc, ← log]
    cases tells with
    | @act site site' c c' e first last act =>
      have sound := (isSound_of_run run.run fresh).store
      refine act.keeps sound ?_
      rintro rfl
      exact kept List.mem_cons_self
    | @aside site site' callers aside _ =>
      rw [show site'.arena.store = site.arena.store from aside.store]
      exact ⟨(List.append_nil _).symm, rfl⟩
    | @reopen site site' p purpose callers file loaded file' =>
      have all := joined List.mem_cons_self
      have lasting := run.isLasting fresh fun new h => all new (List.mem_cons_of_mem _ h)
      rw [(lasting.found file loaded).1]
      exact ⟨(List.append_nil _).symm, rfl⟩

/-- However saves, grand tournaments, resets and clears interleave, whichever of them fail, and
whenever the arena is opened again: as long as nobody clears it, the stored strategies stay as they
are but for their scores, in their order, with the new ones behind them; what is added to the log
stands before all that was there, and is the records of whole passes, each in the opposite of the
order of its schedule; and a limit shows the beginning of the log. -/
theorem stored_is_permanent (before : Chronicle start past scene) (fresh : start.IsFresh)
    (after : Chronicle scene recent later) (kept : .change .cleared ∉ recent)
    (joined : .reopening ∈ recent →
      ∀ new, .change (.stored new) ∈ recent ++ past → new.rejoined = new) :
    later.site.arena.store.profiles = scene.site.arena.store.profiles ++
        (Happening.newcomers recent).map Strategy.profile ∧
      later.site.arena.store.log none =
        Happening.committed recent ++ scene.site.arena.store.log none ∧
      (∀ records, .change (.committed records) ∈ recent →
        IsPass start (recent ++ past) records) ∧
      ∀ limit : Int, 0 ≤ limit →
        later.site.arena.store.log (some limit) <+: later.site.arena.store.log none ∧
          (later.site.arena.store.log (some limit)).length =
            min limit.toNat (later.site.arena.store.log none).length := by
  obtain ⟨profiles, log⟩ := after.keeps before fresh kept joined
  refine ⟨profiles, log, fun records h => ?_, fun limit h => Store.log_limited _ h⟩
  exact (before.trans after).isPass fresh (List.mem_append_left _ h)

/-- Two strategies are saved one after the other, and the arena is opened again. -/
theorem stored_is_permanent_reopened :
    ∃ past scene recent later records,
      Chronicle ⟨.startedOnFile, []⟩ past scene ∧ Chronicle scene recent later ∧
      .reopening ∈ recent ∧ .change (.committed records) ∈ recent ∧ records.length = 1 ∧
      later.site.arena.store.profiles = scene.site.arena.store.profiles ++
          (Happening.newcomers recent).map Strategy.profile ∧
        later.site.arena.store.log none =
          Happening.committed recent ++ scene.site.arena.store.log none ∧
        (∀ records, .change (.committed records) ∈ recent →
          IsPass ⟨.startedOnFile, []⟩ (recent ++ past) records) ∧
        ∀ limit : Int, 0 ≤ limit →
          later.site.arena.store.log (some limit) <+: later.site.arena.store.log none ∧
            (later.site.arena.store.log (some limit)).length =
              min limit.toNat (later.site.arena.store.log none).length := by
  -- the first save finds nobody to play against, and who makes it leaves
  obtain ⟨one, hone⟩ : ∃ one, one = (Site.storing "Saint" .alwaysCooperate .startedOnFile).2 :=
    ⟨_, rfl⟩
  have first : Site.storing "Saint" .alwaysCooperate .startedOnFile =
      (.ok (Site.startedOnFile.nobodys "Saint" .alwaysCooperate), one) := by
    rw [hone]
    exact (Site.storing_settles _ _ _).of_isOk (by decide +kernel)
  have nobody : Site.startedOnFile.arena.store.ranked = .ok [] :=
    Store.ranked_of_ordered (by decide +kernel) (by decide +kernel)
  have before := (chronicle_storing .start (by decide +kernel) nobody first).act .leave
  -- the second plays one match against it
  obtain ⟨two, htwo⟩ : ∃ two, two = (Site.storing "Traitor" .alwaysBetray one).2 := ⟨_, rfl⟩
  have second : Site.storing "Traitor" .alwaysBetray one =
      (.ok (one.nobodys "Traitor" .alwaysBetray), two) := by
    rw [htwo, hone]
    exact (Site.storing_settles _ _ _).of_isOk (by decide +kernel)
  have saint : one.arena.store.ranked = .ok one.arena.store.strategies :=
    Store.ranked_of_ordered (by rw [hone]; decide +kernel) (by rw [hone]; decide +kernel)
  have met := chronicle_storing .start (by decide +kernel) saint second
  obtain ⟨fixtures, hfixtures⟩ : ∃ fixtures, fixtures =
    Schedule.challenge (one.nobodys "Traitor" .alwaysBetray) one.arena.store.strategies := ⟨_, rfl⟩
  rw [← hfixtures] at met
  obtain ⟨last, played⟩ : ∃ last, playThrough fixtures
      (.onSave one.host.universalNow (one.nobodys "Traitor" .alwaysBetray)) two = (.ok 1, last) := by
    refine Work.exists_of_toOption ?_
    rw [hfixtures, htwo, hone]
    decide +kernel
  obtain ⟨records, length, saved, keeps⟩ := chronicle_playThrough met played
  have all := before.trans saved
  have storable := (isSound_of_run all.run isFresh_startedOnFile).store.storable
  obtain ⟨site, loaded, file, -⟩ := exists_reopened .arena storable all.file keeps
  have opened := saved.step (.reopen .arena [] all.file loaded file)
  refine ⟨_, _, _, _, records, before, opened, List.mem_cons_self,
    List.mem_cons_of_mem _ List.mem_cons_self, length, ?_⟩
  refine stored_is_permanent before isFresh_startedOnFile opened ?_ fun _ new h => ?_
  · intro cleared
    simp at cleared
  · have among : new = one.nobodys "Traitor" .alwaysBetray ∨
        new = Site.startedOnFile.nobodys "Saint" .alwaysCooperate := by
      simpa using h
    rcases among with rfl | rfl <;> exact rejoined_nobodys _ _ _ rfl

end Scene

/-! ## What a reopening forgets -/

/-- Whether a document is an object that names neither strategies nor records. -/
def Json.isBare : Json → Bool
  | .object fields =>
    (Json.Fields.firstOf? fields ["strategies"]).isNone &&
      (Json.Fields.firstOf? fields ["match_records"]).isNone
  | _ => false

namespace Store

/-- Whether a later store has what has been in one. -/
def IsKeptIn (s s' : Store) : Prop :=
  s.profiles <+: s'.profiles ∧ s.log none <:+ s'.log none

/-- A document that names neither strategies nor records is read as an empty arena. -/
theorem ofDocument_bare {data : Json} (bare : data.isBare = true) (p : Path) (host : Host) :
    ∃ host', ofDocument p data host = (.ok .empty, host') := by
  cases data with
  | object fields =>
    simp only [Json.isBare, Bool.and_eq_true, Option.isNone_iff_eq_none] at bare
    have parts : partsOf fields host = (.ok ([], []), host) := by
      unfold partsOf Json.Fields.firstOf
      rw [bare.1, bare.2]
      rfl
    unfold ofDocument
    dsimp only
    rw [Work.bind_of_ok (reporting_of_ok parts _ _)]
    exact ⟨_, rfl⟩
  | _ => cases bare

end Store

namespace Site

/-- A grand tournament between given strategies, up to its export. -/
def playedAmong (strategies : List Strategy) : Work Site Outcome := do
  let outcome ← playGrand .silent strategies
  commitGrand outcome
  return outcome

theorem grandUnderGate_apply {site played : Site} {strategies : List Strategy} {o : Outcome}
    (ranked : site.arena.store.ranked = .ok strategies) (enough : 2 ≤ strategies.length)
    (h : playedAmong strategies site = (.ok o, played)) :
    (grandUnderGate .silent site).2 = (exportOutcome o played).2 := by
  have listed : Site.ranked site = (.ok strategies, site) := by rw [ranked_apply, ranked]
  have counted : areEnough strategies site = (.ok true, site) := by
    unfold areEnough
    rw [if_neg (by omega)]
    rfl
  unfold playedAmong at h
  obtain ⟨outcome, _, games, h⟩ := Work.bind_eq_ok h
  obtain ⟨_, _, committed, h⟩ := Work.bind_eq_ok h
  cases h
  unfold grandUnderGate
  rw [Work.bind_of_ok listed, Work.bind_of_ok counted, Bool.not_true, if_neg Bool.false_ne_true,
    Work.bind_of_ok games, Work.bind_of_ok committed, Work.bind_apply]
  split
  · next e =>
    rw [e]
    rfl
  · next e => rw [e]

/-- Whether an export puts the document of an outcome into the place of the arena's file, with none
of its tables going there, and nothing of the arena is found in that document. -/
def overwrites (o : Outcome) (site : Site) : Bool :=
  match site.arena.file, Export.openFolder site.arena.settings.outputDir site.host with
  | some p, (.ok folder, host) =>
    let stamp := Json.text (Text.ofString host.localNow.compactText)
    let settings := site.arena.settings.toJson
    let written := Json.written 0 (Export.document o settings host.localNow stamp)
    site.arena.settings.exportResults.isTruthy &&
      ((Export.outcome folder o settings stamp host).1.toOption == some p &&
        ((Export.tables folder host.home stamp).all (fun q => q.place ≠ p.place) &&
          (Json.Grammar.document Purpose.arena.room (Text.lineFeeds written)).toOption.any
            Json.isBare))
  | _, _ => false

/-- An arena whose file an export has overwritten is found empty. -/
theorem load_overwritten {site : Site} {p : Path} {o : Outcome} {strategies : List Strategy}
    (file : site.arena.file = some p) (ranked : site.arena.store.ranked = .ok strategies)
    (h : site.overwrites o = true) :
    ∃ host, Store.load .arena p (exportOutcome o site).2.host = (.ok .empty, host) := by
  rcases opened : Export.openFolder site.arena.settings.outputDir site.host with ⟨_ | folder, host⟩
  · rw [overwrites, file, opened] at h
    cases h
  · rw [overwrites, file, opened] at h
    simp only [Bool.and_eq_true, List.all_eq_true, decide_eq_true_eq, beq_iff_eq] at h
    obtain ⟨asked, there, apart, bare⟩ := h
    obtain ⟨data, read, bare⟩ := (Option.any_eq_true _ _).1 bare
    obtain ⟨written, host', e⟩ : ∃ written host', Export.outcome folder o
      site.arena.settings.toJson (.text (Text.ofString host.localNow.compactText)) host =
        (written, host') := ⟨_, _, rfl⟩
    rw [e] at there
    cases written with
    | error fault => cases there
    | ok q =>
      cases there
      have holds := exportOutcome_holds asked opened ranked e apart
      obtain ⟨last, empty⟩ := Store.ofDocument_bare bare p (exportOutcome o site).2.host
      exact ⟨last, (Store.load_of_read holds (readDocument_written read)).trans empty⟩

/-- An arena whose first grand tournament is exported into its own file. -/
def exporting : Site where
  host := .start .start2024
  arena := {
    store := .empty
    file := some (.ofText "results/tournament_grand_20240101_000000.json")
    settings := { Settings.default with
      rounds := .int 1, exportResults := .bool true, outputDir := .text "results" }
    rounds := 1
    source := .ofSeed 0
    isHeld := false }
  noted := []

/-- A name of two halves of a pair. -/
def halvedName : Text := [.ofNat 0xd83d, .ofNat 0xde00]

/-- Two strategies are saved and a grand tournament is played. -/
def grandOfTwo : List Call :=
  [.save ⟨"Traitor", Builtin.alwaysBetray.tree, none, some "A"⟩,
    .save ⟨"Mirror", Builtin.titForTat.tree, none, some "A"⟩, .grand]

theorem exists_overwritten :
    ∃ site opened, grandOfTwo.foldl (fun site call => call.after .silent site) exporting = site ∧
      reopen .arena site = (.ok (), opened) ∧ ¬site.arena.store.IsKeptIn opened.arena.store := by
  obtain ⟨saved, hsaved⟩ : ∃ saved, saved = (grandOfTwo.take 2).foldl
    (fun site call => call.after .silent site) exporting := ⟨_, rfl⟩
  obtain ⟨run, hrun⟩ : ∃ run, run =
    playedAmong saved.arena.store.strategies (saved.withGate true) := ⟨_, rfl⟩
  have free : saved.arena.isHeld = false := by
    rw [hsaved]
    decide +kernel
  have ranked : (saved.withGate true).arena.store.ranked = .ok saved.arena.store.strategies :=
    Store.ranked_of_ordered (by rw [hsaved]; decide +kernel) (by rw [hsaved]; decide +kernel)
  have enough : 2 ≤ saved.arena.store.strategies.length := by
    rw [hsaved]
    decide +kernel
  have overwritten : (run.1.toOption.any fun o => overwrites o run.2) = true := by
    rw [hrun, hsaved]
    decide +kernel
  have file : run.2.arena.file = exporting.arena.file := by
    rw [hrun, hsaved]
    decide +kernel
  have again : run.2.arena.store.strategies.all Standings.isRankable = true ∧
      run.2.arena.store.strategies.isEmpty = false := by
    rw [hrun, hsaved]
    decide +kernel
  obtain ⟨result, played⟩ := run
  cases result with
  | error fault => cases overwritten
  | ok o =>
    have last : (runGrand .silent saved).2 =
        (exportOutcome o played).2.withGate false := by
      rw [runGrand, gated, if_neg (by rw [free]; exact Bool.false_ne_true)]
      exact congrArg (·.withGate false) (grandUnderGate_apply ranked enough hrun.symm)
    have aside := Scene.exportOutcome_within o played
    obtain ⟨host, loaded⟩ := load_overwritten file (if_pos again.1) overwritten
    have found : reopen .arena ((exportOutcome o played).2.withGate false) = _ :=
      reopen_of_load (aside.file.trans file) loaded
    refine ⟨_, _, ?_, found, fun kept => ?_⟩
    · rw [← last, hsaved]
      rfl
    · have stays : played.arena.store.profiles ≠ [] := by
        intro none
        rw [List.map_eq_nil_iff.1 none] at again
        cases again.2
      rw [← show (exportOutcome o played).2.arena.store = played.arena.store from aside.store]
        at stays
      exact stays (List.prefix_nil.1 kept.1)

theorem exists_joined :
    ∃ new site opened, storing halvedName .alwaysBetray startedOnFile = (.ok new, site) ∧
      reopen .arena site = (.ok (), opened) ∧ ¬site.arena.store.IsKeptIn opened.arena.store := by
  have settles := storing_settles halvedName .alwaysBetray startedOnFile
  obtain ⟨site, stored⟩ : ∃ site, storing halvedName .alwaysBetray startedOnFile =
      (.ok (startedOnFile.nobodys halvedName .alwaysBetray), site) :=
    ⟨_, settles.of_isOk (by decide +kernel)⟩
  rw [stored] at settles
  have storable :
      (Store.empty.add (startedOnFile.nobodys halvedName .alwaysBetray)).IsStorable := by
    refine ⟨fun t ht => ?_, fun r hr => (by cases hr)⟩
    rw [show t = startedOnFile.nobodys halvedName .alwaysBetray from List.mem_singleton.1 ht]
    exact startedOnFile.isStorable_newcomer _ _ _ _
  have keeps := settles.keeps_of_ok _ rfl
  obtain ⟨host, loaded⟩ := Store.load_written .arena keeps.2 storable keeps.1
  have file : site.arena.file = some (.ofText "arena.json") :=
    (settles.steady (by decide +kernel) rfl).file
  have found : reopen .arena site = _ := reopen_of_load file loaded
  refine ⟨_, _, _, stored, found, fun kept => ?_⟩
  have names := kept.1.map Strategy.name
  rw [settles.store_of_ok.2, after_store] at names
  revert names
  decide +kernel

/-- An arena forgets what is stored when it exports a grand tournament into its own file and is opened
again, and it has another name for a strategy, when the name was two halves of a pair. -/
theorem exists_forgotten :
    (exporting.arena.store = .empty ∧
      ∃ site opened, grandOfTwo.foldl (fun site call => call.after .silent site) exporting = site ∧
        reopen .arena site = (.ok (), opened) ∧
        ¬site.arena.store.IsKeptIn opened.arena.store) ∧
    startedOnFile.arena.store = .empty ∧
      ∃ new site opened, storing halvedName .alwaysBetray startedOnFile = (.ok new, site) ∧
        reopen .arena site = (.ok (), opened) ∧
        ¬site.arena.store.IsKeptIn opened.arena.store :=
  ⟨⟨rfl, exists_overwritten⟩, rfl, exists_joined⟩

end Site
end IteratedDilemma
