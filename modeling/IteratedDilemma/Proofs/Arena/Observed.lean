import Mathlib.Data.List.Forall2
import IteratedDilemma.Proofs.Arena.Calls
import IteratedDilemma.Proofs.Arena.Repetition

/-! Passes whose observer does not use the arena. It may fail after any match and do what it likes
to the host, and the pass still leaves the store and the gate alone (`Site.playGrand_aside`,
`Site.playOnSave_aside`). One that ends has a record for each fixture (`Site.playGrand_whole`,
`Site.playOnSave_ok`). Main statement: a grand tournament takes over a whole outcome or nothing,
whichever way it ends (`Site.runGrand_all_or_nothing`). -/
namespace IteratedDilemma
set_option autoImplicit false

/-- An observer that does not use the arena. -/
def Observer.StandsAside (observe : Observer) : Prop :=
  ∀ progress, Work.Within Scene.Aside (observe progress)

theorem Observer.IsQuiet.standsAside {observe : Observer} (quiet : observe.IsQuiet) :
    observe.StandsAside := by
  intro progress site
  obtain ⟨noted, told⟩ := quiet progress site
  rw [told]
  exact ⟨rfl, rfl, rfl, rfl, rfl, Nat.le_refl _, Nat.le_refl _⟩

theorem Observer.noting_standsAside (lastMatch : Option Int) (complaint : Text) :
    (Observer.noting lastMatch complaint).StandsAside := by
  intro progress
  refine Work.within_bind (fun site => ?_) fun _ =>
    Work.within_ite (Work.within_throw _) (Work.within_pure _)
  exact ⟨rfl, rfl, rfl, rfl, rfl, Nat.le_refl _, Nat.le_refl _⟩

/-! ## Schedules -/

namespace Schedule

theorem forall₂_numbered {R : Strategy → Strategy → MatchRecord → Prop}
    {pairs : List (Strategy × Strategy)} {records : List MatchRecord} :
    List.Forall₂ (fun f r => R f.first f.second r) (numbered pairs) records ↔
      List.Forall₂ (fun pair r => R pair.1 pair.2 r) pairs records := by
  conv_rhs => rw [← sides_numbered pairs, List.forall₂_map_left_iff]

end Schedule

/-! ## Passes -/

namespace Site

variable {observe : Observer}

theorem playGrand_aside (aside : observe.StandsAside) (strategies : List Strategy) :
    Work.Within Scene.Aside (playGrand observe strategies) :=
  Scene.playGrand_within (fun _ _ still => still.toAside) aside strategies

theorem playOnSave_aside (aside : observe.StandsAside) (new : Strategy)
    (existing : List Strategy) : Work.Within Scene.Aside (playOnSave observe new existing) :=
  Scene.playOnSave_within (fun _ _ still => still.toAside) aside new existing

variable {entrants : List Strategy}

theorem playFixtures_continues (aside : observe.StandsAside) (distinct : Distinct entrants)
    {total : Nat} {fixtures : List Fixture} (hf : ∀ f ∈ fixtures, f.IsAmong entrants) {p p' : Pass}
    (roster : ∀ r ∈ p.roster, r ∈ entrants) {site site' : Site}
    (h : playFixtures observe total fixtures p site = (.ok p', site')) :
    p.Continues site.arena.rounds fixtures p' := by
  induction fixtures generalizing p site with
  | nil =>
    cases h
    exact Pass.continues_nil _ _
  | cons f others ih =>
    have among := hf f List.mem_cons_self
    have roster1 := Pass.roster_prepared among roster
    obtain ⟨⟨q, r⟩, site1, one, h⟩ := Work.bind_eq_ok h
    dsimp only at h
    obtain ⟨_, site2, told, rest⟩ := Work.bind_eq_ok h
    have kept := aside ⟨q.records.length, total, r⟩ site1
    rw [told] at kept
    obtain ⟨rfl, rfl, played⟩ := playFixture_ok one
    have rounds : site2.arena.rounds = site.arena.rounds := by
      rw [kept.rounds, played.arena]
    have later := ih (fun g hg => hf g (List.mem_cons_of_mem _ hg))
      (p := (p.prepared f).extend ((p.prepared f).recordOf f site)) roster1 rest
    rw [rounds] at later
    obtain ⟨added, e, -⟩ := p.prepared_eq f
    exact Pass.continues_cons ⟨_, e⟩ (Pass.isOf_recordOf distinct roster1 among site) later

theorem playPass_ok (aside : observe.StandsAside) (distinct : Distinct entrants)
    {fixtures : List Fixture} (hf : ∀ f ∈ fixtures, f.IsAmong entrants) {p : Pass}
    (roster : p.roster = []) {site site' : Site} {o : Outcome}
    (h : playPass observe fixtures p site = (.ok o, site')) :
    ∃ p' finishedAt, p.Continues site.arena.rounds fixtures p' ∧ o = p'.finish finishedAt := by
  obtain ⟨p', site1, played, h⟩ := Work.bind_eq_ok h
  cases h
  exact ⟨p', _, playFixtures_continues aside distinct hf
    (fun r hr => by rw [roster] at hr; cases hr) played, rfl⟩

end Site

/-! ## Whole outcomes -/

/-- The outcome of a grand tournament between some strategies that has been played to its end: it
has one record for every two of them, in their order, and for each of them the points of its
records. -/
structure Outcome.IsWhole (o : Outcome) (rounds : Nat) (strategies : List Strategy) : Prop where
  kind : o.kind = .grand
  records : List.Forall₂ (fun pair r => r.IsOf rounds pair.1 pair.2) (Schedule.pairs strategies)
    o.records
  count : (o.records.length : Int) = Schedule.totalMatches strategies.length
  deltas : ∃ points : Tally Int, o.deltas = points.toJson ∧
    points.ids = strategies.map Strategy.id ∧
    ∀ id, (points.points? id).getD 0 = earned id o.records

theorem Site.playGrand_whole {observe : Observer} (aside : observe.StandsAside)
    {strategies : List Strategy} (distinct : Distinct strategies) {site site' : Site} {o : Outcome}
    (h : playGrand observe strategies site = (.ok o, site')) :
    o.IsWhole site.arena.rounds strategies := by
  unfold playGrand at h
  rw [Work.bind_of_ok (Work.get_apply site)] at h
  obtain ⟨_, site1, named, h⟩ := Work.bind_eq_ok h
  rw [(Work.lift_eq_ok named).2] at h
  obtain ⟨_, site2, announced, h⟩ := Work.bind_eq_ok h
  cases announced
  obtain ⟨p', finishedAt, met, rfl⟩ := playPass_ok aside distinct
    (fun f hf => Schedule.roundRobin_isAmong distinct hf) rfl h
  obtain ⟨records, all, each⟩ := met.records
  have whole : (p'.finish finishedAt).records = records := Pass.records_finish all
  have pairs := (Schedule.forall₂_numbered
    (R := fun s t r => r.IsOf site.arena.rounds s t)).1 each
  refine ⟨met.kind, ?_, ?_, p'.deltas, rfl, ?_, fun id => ?_⟩
  · rw [whole]
    exact pairs
  · rw [whole, ← pairs.length_eq, Schedule.length_pairs]
  · rw [met.kept fun f hf => ?_, Pass.ids_grand _ distinct]
    have sides := Schedule.roundRobin_isAmong distinct hf
    exact ⟨Pass.isSome_grand _ distinct sides.first, Pass.isSome_grand _ distinct sides.second⟩
  · have balanced := met.balanced (Pass.isBalanced_grand _ _)
    rw [balanced.points]
    exact (earned_reverse id p'.records).symm

/-- The pass of a save is played like any other, its start being logged. -/
theorem Site.playPass_of_playOnSave {observe : Observer} {new : Strategy}
    {existing : List Strategy} {site site' : Site} {o : Outcome}
    (h : playOnSave observe new existing site = (.ok o, site')) :
    ∃ startedAt start, start.arena = site.arena ∧ playPass observe (Schedule.challenge new existing)
      (.onSave startedAt new) start = (.ok o, site') := by
  obtain ⟨_, site1, named, h⟩ := Work.bind_eq_ok h
  rw [(Work.lift_eq_ok named).2] at h
  obtain ⟨_, start, announced, h⟩ := Work.bind_eq_ok h
  have arena : start.arena = site.arena := by
    cases announced
    rfl
  rw [Work.bind_of_ok (Work.get_apply start)] at h
  exact ⟨_, start, arena, h⟩

/-- The pass of a save that has been played to its end has one record for every opponent, the new
strategy on the first side. -/
theorem Site.playOnSave_ok {observe : Observer} (aside : observe.StandsAside) {new : Strategy}
    {existing : List Strategy} (distinct : Distinct existing) {site site' : Site} {o : Outcome}
    (h : playOnSave observe new existing site = (.ok o, site')) :
    List.Forall₂ (fun s r => r.IsOf site.arena.rounds new s)
      (existing.filter fun s => s.key ≠ new.key) o.records := by
  obtain ⟨startedAt, start, arena, played⟩ := playPass_of_playOnSave h
  obtain ⟨p', finishedAt, met, rfl⟩ := playPass_ok aside
    (Schedule.entrants_distinct new distinct) (fun f hf => Schedule.challenge_isAmong hf) rfl played
  obtain ⟨records, all, each⟩ := met.records
  have whole : (p'.finish finishedAt).records = records := Pass.records_finish all
  rw [whole, ← arena]
  exact List.forall₂_map_left_iff.1 ((Schedule.forall₂_numbered
    (R := fun s t r => r.IsOf start.arena.rounds s t)).1 each)

/-- A store has taken over an outcome: all of its records, in their order, and to each strategy its
points, once. -/
structure Store.Takes (s : Store) (o : Outcome) (s' : Store) : Prop where
  applied : s.apply o = .ok s'
  records : s'.records = s.records ++ o.records
  scores : List.Forall₂ (fun t t' => ∃ points score, o.deltas.points? t.id = some points ∧
    t.score.plus points = .ok score ∧ t' = t.withScore score) s.strategies s'.strategies

theorem Store.takes_of_apply {s s' : Store} {o : Outcome} {rounds : Nat}
    {strategies : List Strategy} (whole : o.IsWhole rounds strategies)
    (perm : strategies.Perm s.strategies) (h : s.apply o = .ok s') : s.Takes o s' := by
  obtain ⟨score, rfl, added⟩ := apply_scores h
  refine ⟨h, rfl, List.forall₂_map_right_iff.2 (List.forall₂_same.2 fun t ht => ?_)⟩
  obtain ⟨tally, deltas, ids, -⟩ := whole.deltas
  have counted : (o.deltas.points? t.id).isSome := by
    refine (Tally.isSome_points? _ _).2 ⟨t.id, ?_, decide_eq_true rfl⟩
    rw [deltas, Tally.ids_toJson, ids]
    exact List.mem_map_of_mem (perm.mem_iff.2 ht)
  obtain ⟨points, found⟩ := Option.isSome_iff_exists.1 counted
  exact ⟨points, score t, found, added t ht points found, rfl⟩

/-! ## Grand tournaments -/

namespace Site

variable {observe : Observer}

/-- A grand tournament for which the gate was free has played its matches to the end. -/
structure HasPlayedGrand (observe : Observer) (site : Site) (o : Outcome) (middle : Site) :
    Prop where
  free : site.arena.isHeld = false
  played : ∃ strategies, site.arena.store.ranked = .ok strategies ∧ 2 ≤ strategies.length ∧
    playGrand observe strategies (site.withGate true) = (.ok o, middle) ∧
    o.IsWhole site.arena.rounds strategies

/-- A store has taken over the whole outcome of a grand tournament between all that were stored. -/
def TakesGrand (site : Site) (o : Outcome) (store : Store) : Prop :=
  ∃ strategies, site.arena.store.ranked = .ok strategies ∧
    o.IsWhole site.arena.rounds strategies ∧ site.arena.store.Takes o store

theorem HasPlayedGrand.takes {site middle : Site} {o : Outcome} {store : Store}
    (h : HasPlayedGrand observe site o middle) (takes : site.arena.store.Takes o store) :
    site.TakesGrand o store := by
  obtain ⟨strategies, listed, -, -, whole⟩ := h.played
  exact ⟨strategies, listed, whole, takes⟩

/-- The ways in which a grand tournament ends: its result, and the store afterwards. -/
inductive GrandEnds (observe : Observer) (site : Site) :
    Except Fault (Option Outcome) → Store → Prop where
  | refused : site.arena.isHeld = true → GrandEnds observe site (.ok none) site.arena.store
  | unranked {fault : Fault} : site.arena.isHeld = false →
      site.arena.store.ranked = .error fault →
      GrandEnds observe site (.error fault) site.arena.store
  | skipped {strategies : List Strategy} : site.arena.isHeld = false →
      site.arena.store.ranked = .ok strategies → strategies.length < 2 →
      GrandEnds observe site (.ok none) site.arena.store
  | unplayed {strategies : List Strategy} {fault : Fault} {middle : Site} :
      site.arena.isHeld = false → site.arena.store.ranked = .ok strategies →
      playGrand observe strategies (site.withGate true) = (.error fault, middle) →
      GrandEnds observe site (.error fault) site.arena.store
  | uncommitted {o : Outcome} {fault : Fault} {middle last : Site} :
      HasPlayedGrand observe site o middle → applyOutcome o middle = (.error fault, last) →
      GrandEnds observe site (.error fault) site.arena.store
  | unexported {o : Outcome} {fault : Fault} {middle last : Site} :
      HasPlayedGrand observe site o middle → applyOutcome o middle = (.ok (), last) →
      site.arena.store.Takes o last.arena.store → (exportOutcome o last).1 = .error fault →
      GrandEnds observe site (.error fault) last.arena.store
  | finished {o : Outcome} {middle last : Site} :
      HasPlayedGrand observe site o middle → applyOutcome o middle = (.ok (), last) →
      site.arena.store.Takes o last.arena.store → (exportOutcome o last).1 = .ok () →
      GrandEnds observe site (.ok (some o)) last.arena.store

theorem runGrand_ends (aside : observe.StandsAside) {site site' : Site}
    {result : Except Fault (Option Outcome)} (h : runGrand observe site = (result, site')) :
    GrandEnds observe site result site'.arena.store := by
  unfold runGrand gated at h
  split at h
  · next held =>
    cases h
    exact .refused held
  next notHeld =>
  have free : site.arena.isHeld = false := Bool.eq_false_of_not_eq_true notHeld
  rcases run : grandUnderGate observe (site.withGate true) with ⟨result', site1⟩
  rw [run] at h
  cases h
  change GrandEnds observe site result site1.arena.store
  have looked := ranked_apply (site.withGate true)
  rcases listed : site.arena.store.ranked with fault | strategies
  · have failed : grandUnderGate observe (site.withGate true) = _ :=
      Work.bind_of_error (looked.trans (congrArg (·, _) listed))
    rw [run] at failed
    cases failed
    exact .unranked free listed
  have ranked := looked.trans (congrArg (·, _) listed)
  by_cases few : strategies.length < 2
  · obtain ⟨entries, skipped⟩ := @grandUnderGate_of_few observe _ _ ranked few
    rw [run] at skipped
    cases skipped
    exact .skipped free listed few
  have enough : 2 ≤ strategies.length := by omega
  rw [grandUnderGate_of_enough ranked enough] at run
  have perm := Store.perm_of_ranked listed
  have distinct := Distinct.perm site.arena.store.distinct perm.symm
  have kept := playGrand_aside aside strategies (site.withGate true)
  rcases Work.bind_cases run with ⟨o, middle, played, run⟩ | ⟨fault, failed, rfl⟩
  case inr =>
    rw [failed] at kept
    rw [kept.store]
    exact .unplayed free listed failed
  rw [played] at kept
  have whole := playGrand_whole aside distinct played
  have finished : HasPlayedGrand observe site o middle :=
    ⟨free, strategies, listed, enough, played, whole⟩
  rcases taken : applyOutcome o middle with ⟨fault | _, last⟩
  · obtain ⟨site2, failed, same⟩ := commitGrand_of_error taken
    rw [Work.bind_of_error failed] at run
    cases run
    rw [same, Scene.applyOutcome_store_of_error taken, kept.store]
    exact .uncommitted finished taken
  · have takes : site.arena.store.Takes o last.arena.store := by
      have applied := Scene.apply_of_applyOutcome taken
      rw [kept.store] at applied
      exact Store.takes_of_apply whole perm applied
    rw [Work.bind_of_ok (commitGrand_of_ok taken)] at run
    have exported := Scene.exportOutcome_within o last
    rcases Work.bind_cases run with ⟨_, site2, done, run⟩ | ⟨fault, failed, rfl⟩
    · cases run
      rw [done] at exported
      rw [exported.store]
      exact .finished finished taken takes (congrArg Prod.fst done)
    · rw [failed] at exported
      rw [exported.store]
      exact .unexported finished taken takes (congrArg Prod.fst failed)

/-! ## All or nothing -/

theorem steady_of_aside {site site' : Site} (h : Scene.Aside site site') : Steady site site' :=
  ⟨h.file, h.settings, h.rounds, h.strategies, h.records⟩

theorem runGrand_steady (aside : observe.StandsAside) {site site' : Site}
    {result : Except Fault (Option Outcome)} (h : runGrand observe site = (result, site')) :
    Steady site site' := by
  have under : Work.Within Steady (grandUnderGate observe) := by
    refine Work.within_bind (fun site => ?_) fun strategies => ?_
    · rw [ranked_apply]
      exact refl_of _ _
    refine Work.within_bind (fun site => steady_of_aside (Scene.areEnough_cases rfl).1.toAside)
      fun _ => Work.within_ite (Work.within_pure _) ?_
    refine Work.within_bind (fun site => steady_of_aside (playGrand_aside aside _ site)) fun o => ?_
    refine Work.within_bind (fun site => ?_) fun _ => Work.within_bind
      (fun site => steady_of_aside (Scene.exportOutcome_within o site)) fun _ => Work.within_pure _
    obtain ⟨middle, ⟨_, taken⟩, still⟩ := Scene.commitGrand_still site o
    exact trans_of Steady (Scene.applyOutcome_steady taken) (steady_of_aside still.toAside)
  unfold runGrand gated at h
  split at h
  · cases h
    exact steady_of_aside (Scene.still_record site _).toAside
  · have steady := under (site.withGate true)
    cases h
    exact ⟨steady.file, steady.settings, steady.rounds, steady.strategies, steady.records⟩

theorem runGrand_isHeld (observe : Observer) (site : Site) :
    (runGrand observe site).2.arena.isHeld = site.arena.isHeld := by
  unfold runGrand gated
  cases held : site.arena.isHeld with
  | true => exact held
  | false => rfl

theorem GrandEnds.store_cases {site : Site} {result : Except Fault (Option Outcome)}
    {store : Store} (ends : GrandEnds observe site result store) :
    store = site.arena.store ∨ ∃ o, site.TakesGrand o store := by
  cases ends with
  | refused | unranked | skipped | unplayed | uncommitted => exact .inl rfl
  | unexported finished _ takes _ => exact .inr ⟨_, finished.takes takes⟩
  | finished finished _ takes _ => exact .inr ⟨_, finished.takes takes⟩

theorem GrandEnds.store_of_none {site : Site} {store : Store}
    (ends : GrandEnds observe site (.ok none) store) : store = site.arena.store := by
  cases ends <;> rfl

theorem GrandEnds.takes {site : Site} {o : Outcome} {store : Store}
    (ends : GrandEnds observe site (.ok (some o)) store) : site.TakesGrand o store := by
  cases ends with
  | finished finished _ takes _ => exact finished.takes takes

/-- Whichever way a grand tournament ends, with an observer that does not use the arena and may fail
after any match, the gate is as it was, and the store is as it was or has taken over the whole
outcome. It is as it was if the tournament gave none, failed while it was played or failed to
commit. Nothing else of the arena has changed but its source of random moves. -/
theorem runGrand_all_or_nothing (aside : observe.StandsAside) {site site' : Site}
    {result : Except Fault (Option Outcome)} (h : runGrand observe site = (result, site')) :
    site'.arena.isHeld = site.arena.isHeld ∧ Steady site site' ∧
    GrandEnds observe site result site'.arena.store ∧
    (site'.arena.store = site.arena.store ∨ ∃ o, site.TakesGrand o site'.arena.store) ∧
    (result = .ok none → site'.arena.store = site.arena.store) ∧
    ∀ o, result = .ok (some o) → site.TakesGrand o site'.arena.store := by
  have gate := runGrand_isHeld observe site
  rw [h] at gate
  have ends := runGrand_ends aside h
  refine ⟨gate, runGrand_steady aside h, ends, ends.store_cases, fun none => ?_, fun o some => ?_⟩
  · rw [none] at ends
    exact ends.store_of_none
  · rw [some] at ends
    exact ends.takes

theorem playFixtures_gives_up {f : Fixture} {first second : Json}
    (h1 : f.first.id.asName = .ok first) (h2 : f.second.id.asName = .ok second)
    (rest : List Fixture) {p : Pass} (empty : p.records = []) (total : Nat) (complaint : Text)
    (site : Site) : ∃ site', playFixtures (.noting (some 1) complaint) total (f :: rest) p site =
      (.error (.observer complaint), site') := by
  obtain ⟨site1, -, one⟩ := playFixture_apply h1 h2 total p site
  have none : (p.prepared f).records = [] := by rw [Pass.prepared_records, empty]
  have told (r : MatchRecord) : ∃ site2, Observer.noting (some 1) complaint
      ⟨((p.prepared f).extend r).records.length, total, r⟩ site1 =
        (.error (.observer complaint), site2) := by
    rw [Pass.extend, none]
    exact ⟨_, rfl⟩
  obtain ⟨site2, told⟩ := told ((p.prepared f).recordOf f site)
  exact ⟨site2, (Work.bind_of_ok one).trans (Work.bind_of_error told)⟩

theorem runGrand_gives_up {site : Site}
    (names : ∀ s ∈ site.arena.store.strategies, ∃ name, s.id.asName = .ok name)
    (rankable : ∀ s ∈ site.arena.store.strategies, Standings.isRankable s = true)
    (enough : 2 ≤ site.arena.store.strategies.length) (free : site.arena.isHeld = false)
    (complaint : Text) :
    (runGrand (.noting (some 1) complaint) site).1 = .error (.observer complaint) := by
  have perm := List.mergeSort_perm site.arena.store.strategies
    fun a b => (StandingKey.of a).le (.of b)
  have listed : ranked (site.withGate true) =
      (.ok (Standings.sorted site.arena.store.strategies), site.withGate true) := by
    rw [ranked_apply]
    exact congrArg (·, _) (if_pos (List.all_eq_true.2 rankable))
  have length : 2 ≤ (Standings.sorted site.arena.store.strategies).length := by
    rw [Standings.sorted, perm.length_eq]
    exact enough
  have named : ∀ s ∈ Standings.sorted site.arena.store.strategies,
      ∃ name, s.id.asName = .ok name := fun s hs => names s (perm.mem_iff.1 hs)
  have gives : ∃ middle, playGrand (.noting (some 1) complaint)
      (Standings.sorted site.arena.store.strategies) (site.withGate true) =
        (.error (.observer complaint), middle) := by
    obtain ⟨s, t, rest, e⟩ : ∃ s t rest, Standings.sorted site.arena.store.strategies =
        s :: t :: rest := by
      rcases e : Standings.sorted site.arena.store.strategies with _ | ⟨s, _ | ⟨t, rest⟩⟩
      · rw [e, List.length_nil] at length
        omega
      · rw [e, List.length_singleton] at length
        omega
      · exact ⟨s, t, rest, rfl⟩
    rw [e] at named ⊢
    obtain ⟨_, name1⟩ := named s List.mem_cons_self
    obtain ⟨_, name2⟩ := named t (List.mem_cons_of_mem _ List.mem_cons_self)
    obtain ⟨more, fixtures⟩ : ∃ more, Schedule.roundRobin (s :: t :: rest) = ⟨0, s, t⟩ :: more :=
      ⟨_, List.mapIdx_cons⟩
    unfold playGrand
    rw [Work.bind_of_ok (Work.get_apply _), checkNames_fixed named, Work.lift_bind_ok, fixtures]
    obtain ⟨middle, gives⟩ := playFixtures_gives_up (f := ⟨0, s, t⟩) name1 name2 more
      (p := .grand (site.withGate true).host.universalNow (s :: t :: rest)) rfl
      (more.length + 1) complaint
      ((onHost (Host.logAll (Pass.heading (site.withGate true).arena.settings.name.plain
        (site.withGate true).arena.settings.rounds.plain (s :: t :: rest) (more.length + 1)))
          (site.withGate true)).2)
    exact ⟨middle, (Work.bind_of_ok rfl).trans (Work.bind_of_error gives)⟩
  obtain ⟨middle, gives⟩ := gives
  unfold runGrand gated
  rw [free, if_neg Bool.false_ne_true, grandUnderGate_of_enough listed length,
    Work.bind_of_error gives]

/-- Three strategies whose tournament is given up after its first match, and held to its end. -/
theorem runGrand_all_or_nothing_trio :
    (∃ site', runGrand (.noting (some 1) "boom") trio = (.error (.observer "boom"), site') ∧
      site'.arena.isHeld = false ∧
      (site'.arena.store = trio.arena.store ∨ ∃ o, trio.TakesGrand o site'.arena.store)) ∧
    ∃ o site', runGrand .silent trio = (.ok (some o), site') ∧
      site'.arena.isHeld = false ∧ trio.TakesGrand o site'.arena.store := by
  have among : AreFixed trio.arena.store.strategies := by
    refine ⟨trio.arena.store.distinct, fun s hs => ?_, by decide +kernel⟩
    obtain ⟨b, -, rfl⟩ := List.mem_map.1 hs
    exact ⟨_, rfl⟩
  have whole : trio.arena.store.HasWholeScores := by
    intro s hs
    obtain ⟨b, -, rfl⟩ := List.mem_map.1 hs
    exact ⟨_, rfl⟩
  have rankable : ∀ s ∈ trio.arena.store.strategies, Standings.isRankable s = true := by
    decide +kernel
  have enough : 2 ≤ trio.arena.store.strategies.length := by decide +kernel
  have gives := runGrand_gives_up among.names rankable enough rfl "boom"
  obtain ⟨o, site', finished⟩ := exists_runGrand Observer.silent_isQuiet among whole rankable
    enough rfl rfl rfl
  rcases failed : runGrand (.noting (some 1) "boom") trio with ⟨result, site1⟩
  rw [failed] at gives
  cases gives
  obtain ⟨gate1, -, -, store1, -, -⟩ :=
    runGrand_all_or_nothing (Observer.noting_standsAside _ _) failed
  obtain ⟨gate, -, -, -, -, taken⟩ :=
    runGrand_all_or_nothing Observer.silent_isQuiet.standsAside finished
  exact ⟨⟨site1, rfl, gate1, store1⟩, o, site', finished, gate, taken o rfl⟩

end Site
end IteratedDilemma
