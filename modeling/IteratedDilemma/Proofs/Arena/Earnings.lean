import IteratedDilemma.Proofs.Arena.Coverage
import IteratedDilemma.Proofs.Arena.InTurn

/-! What a save earns. The pass of a newcomer counts the records of its matches and nothing else, so
its outcome gives the newcomer all of its own points and everybody else those of one match
(`Outcome.IsChallenge`). Main statement: a save that succeeds has changed the store by that and by
nothing else, and one in an orderly arena fails only if the file cannot be written
(`Site.save_changes_what_it_earned`). -/
namespace IteratedDilemma
set_option autoImplicit false

/-! ## Counting records -/

namespace Tally

/-- The points of both sides of a record added to a tally. -/
def count (r : MatchRecord) (t : Tally Int) : Tally Int :=
  (t.add r.first.id r.first.score).add r.second.id r.second.score

theorem add_head (id : Json) (old n : Int) (rest : Tally Int) :
    add ((id, old) :: rest) id n = (id, old + n) :: rest := by
  have same : id.same id = true := decide_eq_true rfl
  rw [add, points?, if_pos same, set, if_pos same]
  rfl

theorem add_of_absent {t : Tally Int} {id : Json} (absent : ∀ other ∈ t.ids, other.same id = false)
    (n : Int) : t.add id n = t ++ [(id, n)] := by
  have uncounted : t.points? id = none := by
    refine Option.not_isSome_iff_eq_none.1 fun counted => ?_
    obtain ⟨other, there, same⟩ := (isSome_points? t id).1 counted
    rw [absent other there] at same
    cases same
  rw [add, uncounted, set_of_absent absent]
  exact congrArg (fun points => t ++ [(id, points)]) (Int.zero_add n)

/-- Records of one newcomer against different others, counted one after another, the last one first:
the newcomer comes first with the points of its sides, then all others with theirs. -/
theorem foldr_count {new : Json} {past : List MatchRecord} (first : ∀ r ∈ past, r.first.id = new)
    (distinct : (new.key :: past.map fun r => r.second.id.key).Nodup) :
    past.foldr count [(new, 0)] = (new, (past.map fun r => r.first.score).sum) ::
      past.reverse.map fun r => (r.second.id, r.second.score) := by
  induction past with
  | nil => rfl
  | cons r past ih =>
    obtain ⟨apart, distinct⟩ := List.nodup_cons.1 distinct
    obtain ⟨once, others⟩ := List.nodup_cons.1 distinct
    have before := ih (fun s hs => first s (List.mem_cons_of_mem _ hs))
      (List.nodup_cons.2 ⟨fun there => apart (List.mem_cons_of_mem _ there), others⟩)
    have absent : ∀ other ∈ ids ((new, (past.map fun r => r.first.score).sum + r.first.score) ::
        past.reverse.map fun r => (r.second.id, r.second.score)),
        other.same r.second.id = false := by
      intro other there
      refine decide_eq_false fun same => ?_
      rcases List.mem_cons.1 there with rfl | there
      · exact apart (same ▸ List.mem_cons_self)
      · obtain ⟨pair, listed, rfl⟩ := List.mem_map.1 there
        obtain ⟨s, hs, rfl⟩ := List.mem_map.1 listed
        exact once (List.mem_map.2 ⟨s, List.mem_reverse.1 hs, same⟩)
    rw [List.foldr_cons, before, count, first r List.mem_cons_self, add_head, add_of_absent absent,
      List.map_cons, List.sum_cons, Int.add_comm, List.reverse_cons, List.map_append]
    rfl

end Tally

/-- A pass has counted its records and nothing else, starting from a tally. -/
def Pass.HasCounted (start : Tally Int) (p : Pass) : Prop :=
  p.deltas = p.records.foldr Tally.count start

theorem Pass.HasCounted.extend {start : Tally Int} {p : Pass} (h : p.HasCounted start)
    (r : MatchRecord) : (p.extend r).HasCounted start :=
  congrArg (Tally.count r) h

theorem Pass.HasCounted.prepared {start : Tally Int} {p : Pass} (h : p.HasCounted start)
    (f : Fixture) : (p.prepared f).HasCounted start := by
  rw [HasCounted, prepared_deltas, prepared_records]
  exact h

namespace Site

variable {observe : Observer} {start : Tally Int} {fixtures : List Fixture} {p p' : Pass}
  {site site' : Site}

theorem playFixtures_hasCounted {total : Nat} (before : p.HasCounted start)
    (h : playFixtures observe total fixtures p site = (.ok p', site')) : p'.HasCounted start :=
  playFixtures_keeps (fun _ counted f _ _ => (counted.prepared f).extend _) before h

theorem playPass_deltas {o : Outcome} (before : p.HasCounted start)
    (h : playPass observe fixtures p site = (.ok o, site')) :
    o.deltas = (o.records.reverse.foldr Tally.count start).toJson := by
  obtain ⟨p', site1, played, h⟩ := Work.bind_eq_ok h
  cases h
  change p'.deltas.toJson = (p'.records.reverse.reverse.foldr Tally.count start).toJson
  rw [List.reverse_reverse, ← playFixtures_hasCounted before played]

end Site

/-! ## The outcome of a challenge -/

/-- The outcome of a newcomer's pass against some opponents that has been played to its end: a
record for each of them in their order, the newcomer on the first side, and for everybody the points
of its sides. -/
structure Outcome.IsChallenge (o : Outcome) (rounds : Nat) (new : Strategy)
    (opponents : List Strategy) : Prop where
  records : List.Forall₂ (fun s r => r.IsOf rounds new s) opponents o.records
  deltas : o.deltas = (new.id, .int (o.records.map fun r => r.first.score).sum) ::
    o.records.map fun r => (r.second.id, .int r.second.score)
  newStrategyId : o.newStrategyId = new.id

namespace Outcome.IsChallenge

variable {o : Outcome} {rounds : Nat} {new : Strategy} {opponents : List Strategy}

theorem sides (h : o.IsChallenge rounds new opponents) :
    o.records.map MatchRecord.sides = opponents.map fun s => (new.id, s.id) :=
  Site.sides_of (f := fun s => (new, s)) h.records

theorem seconds (h : o.IsChallenge rounds new opponents) :
    o.records.map (fun r => r.second.id) = opponents.map Strategy.id := by
  have seconds := congrArg (List.map Prod.snd) h.sides
  rwa [List.map_map, List.map_map] at seconds

theorem ids (h : o.IsChallenge rounds new opponents) :
    o.deltas.ids = (new :: opponents).map Strategy.id := by
  rw [h.deltas, Tally.ids, List.map_cons, List.map_map, List.map_cons]
  exact congrArg (new.id :: ·) h.seconds

theorem points?_new (h : o.IsChallenge rounds new opponents) :
    o.deltas.points? new.id = some (.int (o.records.map fun r => r.first.score).sum) := by
  rw [h.deltas]
  exact if_pos (decide_eq_true rfl)

theorem newStrategyDelta (h : o.IsChallenge rounds new opponents) {t : Text}
    (named : new.id = .text t) :
    o.newStrategyDelta = .ok (.int (o.records.map fun r => r.first.score).sum) := by
  have found := h.points?_new
  rw [named] at found
  rw [Outcome.newStrategyDelta, h.newStrategyId, named]
  change Except.ok ((o.deltas.points? (.text t)).getD (.int 0)) = _
  rw [found]
  rfl

theorem opponentDeltas (h : o.IsChallenge rounds new opponents)
    (distinct : Distinct (new :: opponents)) :
    o.opponentDeltas = o.records.map fun r => (r.second.id, .int r.second.score) := by
  obtain ⟨apart, -⟩ := distinct_cons_iff.1 distinct
  have others : ∀ r ∈ o.records, r.second.id.same new.id = false := fun r hr => by
    have there : r.second.id ∈ opponents.map Strategy.id := h.seconds ▸ List.mem_map_of_mem hr
    obtain ⟨s, hs, e⟩ := List.mem_map.1 there
    exact decide_eq_false (e ▸ apart s hs)
  rw [Outcome.opponentDeltas, h.newStrategyId, h.deltas]
  refine (List.filter_cons_of_neg (by simp [Json.same])).trans
    (List.filter_eq_self.2 fun pair listed => ?_)
  obtain ⟨r, hr, rfl⟩ := List.mem_map.1 listed
  rw [others r hr]
  rfl

theorem total_opponentDeltas (h : o.IsChallenge rounds new opponents)
    (distinct : Distinct (new :: opponents)) :
    Json.total o.opponentDeltas.points =
      .ok (.int (o.records.map fun r => r.second.score).sum) := by
  have points : o.opponentDeltas.points = (o.records.map fun r => r.second.score).map .int := by
    rw [h.opponentDeltas distinct, Tally.points, List.map_map, List.map_map]
    rfl
  rw [points, Json.total_int, ← List.sum_eq_foldl]

theorem totalPoints (h : o.IsChallenge rounds new opponents) :
    o.totalPoints = .ok (.int ((o.records.map fun r => r.first.score).sum +
      (o.records.map fun r => r.second.score).sum)) := by
  have points : o.deltas.points = ((o.records.map fun r => r.first.score).sum ::
      o.records.map fun r => r.second.score).map .int := by
    rw [h.deltas, Tally.points, List.map_cons, List.map_map, List.map_cons, List.map_map]
    rfl
  rw [Outcome.totalPoints, points, Json.total_int, ← List.sum_eq_foldl, List.sum_cons]

/-- Every opponent has one record, and the points of its own side in it. -/
theorem exists_meeting (h : o.IsChallenge rounds new opponents)
    (distinct : Distinct (new :: opponents)) {s : Strategy} (hs : s ∈ opponents) :
    ∃ r, meetings s.id new.id o.records = [r] ∧ r.second.id = s.id ∧
      o.deltas.points? s.id = some (.int r.second.score) := by
  obtain ⟨apart, others⟩ := distinct_cons_iff.1 distinct
  have fit : (Deed.saved new.id o.records).IsFit (opponents.map Strategy.id) := by
    refine ⟨fun there => ?_, ?_⟩
    · obtain ⟨t, ht, e⟩ := List.mem_map.1 there
      exact apart t ht (congrArg Json.key e)
    · rw [h.sides, List.map_map]
      rfl
  have nodup : (opponents.map Strategy.id).Nodup := by
    refine List.Nodup.of_map Json.key ?_
    rw [List.map_map]
    exact others
  obtain ⟨r, only, there, sides⟩ := fit.meets_newcomer nodup (List.mem_map_of_mem hs)
  obtain ⟨-, second⟩ := Prod.mk.inj sides
  refine ⟨r, only, second, Tally.points?_of_mem ?_ ?_⟩
  · rw [h.ids, List.map_map]
    exact distinct
  · rw [h.deltas, ← second]
    exact List.mem_cons_of_mem _ (List.mem_map_of_mem there)

end Outcome.IsChallenge

/-- The pass of a save that has been played to its end, if the newcomer is none of those who were
there. -/
theorem Site.playOnSave_isChallenge {observe : Observer} (aside : observe.StandsAside)
    {new : Strategy} {opponents : List Strategy} (distinct : Distinct (new :: opponents))
    {site site' : Site} {o : Outcome}
    (h : playOnSave observe new opponents site = (.ok o, site')) :
    o.IsChallenge site.arena.rounds new opponents := by
  obtain ⟨apart, others⟩ := distinct_cons_iff.1 distinct
  have all : (opponents.filter fun s => s.key ≠ new.key) = opponents :=
    List.filter_eq_self.2 fun s hs => decide_eq_true (apart s hs)
  have records := playOnSave_ok aside others h
  rw [all] at records
  obtain ⟨startedAt, start, -, played⟩ := playPass_of_playOnSave h
  obtain ⟨p', finishedAt, met, e⟩ := playPass_ok aside (Schedule.entrants_distinct new others)
    (fun f hf => Schedule.challenge_isAmong hf) rfl played
  have nothing : (Pass.onSave startedAt new).HasCounted [(new.id, 0)] := rfl
  have counted := playPass_deltas nothing played
  -- the records of the challenge, the last one first, as the pass has counted them
  have sides := sides_of (f := fun s => (new, s)) records
  have firsts : ∀ r ∈ o.records.reverse, r.first.id = new.id := fun r hr => by
    have there : r.sides ∈ opponents.map fun s => (new.id, s.id) :=
      sides ▸ List.mem_map_of_mem (List.mem_reverse.1 hr)
    obtain ⟨s, -, e⟩ := List.mem_map.1 there
    exact (Prod.mk.inj e).1.symm
  have seconds : (o.records.reverse.map fun r => r.second.id.key) =
      (opponents.map Strategy.key).reverse := by
    have keys := congrArg (List.map fun pair : Json × Json => pair.2.key) sides
    rw [List.map_map, List.map_map] at keys
    rw [List.map_reverse]
    exact congrArg List.reverse keys
  refine ⟨records, ?_, e ▸ met.newStrategyId⟩
  rw [counted, Tally.foldr_count firsts, List.reverse_reverse, List.map_reverse, List.sum_reverse]
  · change _ :: (List.map _ _) = _
    rw [List.map_map]
    rfl
  · rw [seconds, ← List.map_reverse]
    exact distinct.perm (opponents.reverse_perm.symm.cons new)

/-! ## Saves -/

theorem Store.strategies_add {s : Store} {new : Strategy} {opponents : List Strategy}
    (distinct : Distinct (new :: opponents)) (perm : opponents.Perm s.strategies) :
    (s.add new).strategies = s.strategies ++ [new] :=
  place_of_absent fun t ht => (distinct_cons_iff.1 distinct).1 t (perm.mem_iff.2 ht)

/-- A store that has taken over the challenge of a newcomer to all others. -/
theorem Store.apply_challenge {s s' : Store} {o : Outcome} {rounds : Nat} {new : Strategy}
    {opponents : List Strategy} (challenge : o.IsChallenge rounds new opponents)
    (distinct : Distinct (new :: opponents)) (perm : opponents.Perm s.strategies)
    (unscored : new.score = .int 0) (h : (s.add new).apply o = .ok s') :
    s'.records = s.records ++ o.records ∧
      ∃ others, s'.strategies =
          others ++ [new.withScore (.int (o.records.map fun r => r.first.score).sum)] ∧
        List.Forall₂ (fun t t' => ∃ r score, meetings t.id new.id o.records = [r] ∧
          r.second.id = t.id ∧ t.score.plus (.int r.second.score) = .ok score ∧
          t' = t.withScore score) s.strategies others := by
  have added := strategies_add distinct perm
  obtain ⟨score, rfl, sums⟩ := apply_scores h
  have own : score new = .int (o.records.map fun r => r.first.score).sum := by
    have sum := sums new (mem_place_self new s.strategies) _ challenge.points?_new
    rw [unscored, Json.plus_int, Int.zero_add] at sum
    exact (Except.ok.inj sum).symm
  refine ⟨rfl, s.strategies.map fun t => t.withScore (score t), ?_, ?_⟩
  · change (s.add new).strategies.map _ = _
    rw [added, List.map_append, List.map_singleton, own]
  · refine List.forall₂_map_right_iff.2 (List.forall₂_same.2 fun t ht => ?_)
    obtain ⟨r, only, second, points⟩ := challenge.exists_meeting distinct (perm.mem_iff.2 ht)
    have there : t ∈ (s.add new).strategies := added ▸ List.mem_append_left _ ht
    exact ⟨r, score t, only, second, sums t there _ points, rfl⟩

namespace Site

/-- What a save has changed. The log has one more record for each strategy that was stored, in the
order of their places, the newcomer on the first side. The newcomer stands at the end with all
points of its sides, and everybody else has those of its own side in its one record. -/
structure HasEarned (site : Site) (q : SaveRequest) (saved : Strategy) (o : Outcome)
    (site' : Site) : Prop where
  records : ∃ opponents, site.arena.store.ranked = .ok opponents ∧
    List.Forall₂ (fun s r => r.IsOf site.arena.rounds saved s) opponents o.records
  log : site'.arena.store.records = site.arena.store.records ++ o.records
  newcomer : ∃ shown, displayName (.ofOption q.author) (.ofOption q.authorId) = .ok shown ∧
    saved = (site.newcomer (.text q.name.trimmed) q.tree (.ofOption q.authorId)
      (.text shown)).withScore (.int (o.records.map fun r => r.first.score).sum)
  stored : site'.arena.store.get? saved.id = some saved
  others : ∃ others, site'.arena.store.strategies = others ++ [saved] ∧
    List.Forall₂ (fun t t' => ∃ r score, meetings t.id saved.id o.records = [r] ∧
      r.second.id = t.id ∧ t.score.plus (.int r.second.score) = .ok score ∧
      t' = t.withScore score) site.arena.store.strategies others
  deltas : o.deltas = (saved.id, saved.score) ::
    o.records.map fun r => (r.second.id, .int r.second.score)
  newStrategyDelta : o.newStrategyDelta = .ok saved.score
  opponentDeltas : o.opponentDeltas = o.records.map fun r => (r.second.id, .int r.second.score)
  totalPoints : ∃ own others : Int, o.newStrategyDelta = .ok (.int own) ∧
    Json.total o.opponentDeltas.points = .ok (.int others) ∧
    o.totalPoints = .ok (.int (own + others))

variable {observe : Observer} {site site' : Site}

/-- A newcomer with a new identifier is none of those who were there. -/
theorem distinct_newcomer (fresh : ∀ t ∈ site.arena.store.strategies,
      t.key ≠ Host.strategyId site.host.strategiesNamed) {opponents : List Strategy}
    (listed : site.arena.store.ranked = .ok opponents) {name authorId author : Json}
    {tree : LogicTree} : Distinct (site.newcomer name tree authorId author :: opponents) := by
  have perm := Store.perm_of_ranked listed
  have key : (site.newcomer name tree authorId author).key =
      Host.strategyId site.host.strategiesNamed := Json.key_text _
  refine distinct_cons_iff.2 ⟨fun t ht => ?_, Distinct.perm site.arena.store.distinct perm.symm⟩
  rw [key]
  exact fresh t (perm.mem_iff.1 ht)

theorem SaveGoes.hasEarned (aside : observe.StandsAside) {q : SaveRequest} {shown : Text}
    {opponents : List Strategy} {saved : Strategy} {o : Outcome}
    (display : displayName (.ofOption q.author) (.ofOption q.authorId) = .ok shown)
    (fresh : ∀ t ∈ site.arena.store.strategies,
      t.key ≠ Host.strategyId site.host.strategiesNamed)
    (goes : SaveGoes observe site (site.newcomer (.text q.name.trimmed) q.tree
      (.ofOption q.authorId) (.text shown)) opponents saved o site') :
    site.HasEarned q saved o site' := by
  obtain ⟨new, hnew⟩ : ∃ new, new = site.newcomer (.text q.name.trimmed) q.tree
    (.ofOption q.authorId) (.text shown) := ⟨_, rfl⟩
  rw [← hnew] at goes
  have named : new.id = .text site.host.nameStrategy.1 := by rw [hnew]; rfl
  have unscored : new.score = .int 0 := by rw [hnew]; rfl
  have distinct : Distinct (new :: opponents) := hnew ▸ distinct_newcomer fresh goes.ranked
  have perm := Store.perm_of_ranked goes.ranked
  obtain ⟨host, middle, played⟩ := goes.played
  have challenge := playOnSave_isChallenge aside distinct played
  obtain ⟨log, others, strategies, scores⟩ :=
    Store.apply_challenge challenge distinct perm unscored goes.applied
  have found : site'.arena.store.get? new.id =
      some (new.withScore (.int (o.records.map fun r => r.first.score).sum)) :=
    Store.get?_of_mem (strategies ▸ List.mem_append_right _ (List.mem_singleton_self _))
  have isSaved := goes.saved
  rw [found, Option.getD_some] at isSaved
  have delta := challenge.newStrategyDelta named
  subst isSaved
  exact {
    records := ⟨opponents, goes.ranked, challenge.records⟩
    log
    newcomer := ⟨shown, display, by rw [hnew]⟩
    stored := found
    others := ⟨others, strategies, scores⟩
    deltas := challenge.deltas
    newStrategyDelta := delta
    opponentDeltas := challenge.opponentDeltas distinct
    totalPoints := ⟨_, _, delta, challenge.total_opponentDeltas distinct, challenge.totalPoints⟩ }

/-- A save in an arena without strategies has stored one, and nothing else. -/
structure HasSettled (site : Site) (saved : Strategy) (o : Outcome) (site' : Site) : Prop where
  outcome : o.isEmpty = true
  records : o.records = []
  score : saved.score = .int 0
  strategies : site'.arena.store.strategies = [saved]
  log : site'.arena.store.records = site.arena.store.records

theorem HasEarned.hasSettled {q : SaveRequest} {saved : Strategy} {o : Outcome}
    (h : site.HasEarned q saved o site') (alone : site.arena.store.strategies = []) :
    site.HasSettled saved o site' := by
  obtain ⟨opponents, ranked, each⟩ := h.records
  obtain rfl : opponents = [] := (alone ▸ Store.perm_of_ranked ranked).eq_nil
  have none : o.records = [] := List.forall₂_nil_left_iff.1 each
  have score : saved.score = .int 0 := by
    obtain ⟨shown, -, isNew⟩ := h.newcomer
    rw [isNew, none]
    rfl
  obtain ⟨others, strategies, scores⟩ := h.others
  rw [alone, List.forall₂_nil_left_iff] at scores
  refine ⟨?_, none, score, by rw [strategies, scores]; rfl, by rw [h.log, none, List.append_nil]⟩
  rw [Outcome.isEmpty, h.deltas, none, score]
  rfl

end Site

/-! ## Saves that do not fail -/

/-- A store of strategies that can be ranked and counted under their identifiers, with whole
scores. -/
structure Store.IsOrderly (s : Store) : Prop where
  rankable : ∀ t ∈ s.strategies, Standings.isRankable t = true
  names : ∀ t ∈ s.strategies, ∃ name, t.id.asName = .ok name
  whole : s.HasWholeScores

theorem Store.exists_apply_challenge {s : Store} {o : Outcome} {rounds : Nat} {new : Strategy}
    {opponents : List Strategy} (challenge : o.IsChallenge rounds new opponents)
    (known : ∀ t ∈ new :: opponents, t ∈ s.strategies) (whole : s.HasWholeScores) :
    ∃ s', s.apply o = .ok s' := by
  let points : Tally Int := (new.id, (o.records.map fun r => r.first.score).sum) ::
    o.records.map fun r => (r.second.id, r.second.score)
  have deltas : o.deltas = points.toJson := by
    rw [challenge.deltas, Tally.toJson, List.map_cons, List.map_map]
    rfl
  have ids : points.ids = (new :: opponents).map Strategy.id := by
    rw [← challenge.ids, deltas, Tally.ids_toJson]
  have nobody : s.unknown o = [] := by
    refine unknown_eq_nil deltas fun id listed => ?_
    rw [ids] at listed
    obtain ⟨t, ht, rfl⟩ := List.mem_map.1 listed
    exact ⟨t, known t ht, rfl⟩
  rw [apply_eq whole deltas, if_pos nobody]
  exact ⟨_, rfl⟩

namespace Site

variable {observe : Observer} {site : Site}

theorem playFixtures_ends (never : observe.NeverGivesUp) (total : Nat) {fixtures : List Fixture}
    (names : ∀ f ∈ fixtures, (∃ name, f.first.id.asName = .ok name) ∧
      ∃ name, f.second.id.asName = .ok name) (p : Pass) (site : Site) :
    ∃ p' site', playFixtures observe total fixtures p site = (.ok p', site') := by
  induction fixtures generalizing p site with
  | nil => exact ⟨p, site, rfl⟩
  | cons f rest ih =>
    obtain ⟨⟨_, name1⟩, _, name2⟩ := names f List.mem_cons_self
    obtain ⟨site1, -, one⟩ := playFixture_apply name1 name2 total p site
    let r := (p.prepared f).recordOf f site
    let q := (p.prepared f).extend r
    obtain ⟨site2, told⟩ := never ⟨q.records.length, total, r⟩ site1
    obtain ⟨p', site', later⟩ := ih (fun g hg => names g (List.mem_cons_of_mem _ hg)) q site2
    exact ⟨p', site', (Work.bind_of_ok one).trans ((Work.bind_of_ok told).trans later)⟩

theorem playOnSave_ends (never : observe.NeverGivesUp) {new : Strategy} {existing : List Strategy}
    (names : ∀ s ∈ Schedule.entrants new existing, ∃ name, s.id.asName = .ok name) (site : Site) :
    ∃ o site', playOnSave observe new existing site = (.ok o, site') := by
  have countable : ∀ f ∈ Schedule.challenge new existing, (∃ name, f.first.id.asName = .ok name) ∧
      ∃ name, f.second.id.asName = .ok name := fun f hf =>
    have among := Schedule.challenge_isAmong hf
    ⟨names _ among.first, names _ among.second⟩
  obtain ⟨p', site', played⟩ := playFixtures_ends never (Schedule.challenge new existing).length
    countable (.onSave site.host.universalNow new)
    { site with host := site.host.record [⟨.info, "On-save tournament: " ++ new.name.plain ++
      s!" vs {(Schedule.challenge new existing).length} opponents"⟩] }
  have self : checkNames [new] = .ok () := checkNames_fixed fun s hs =>
    names s (List.mem_singleton.1 hs ▸ List.mem_cons_self)
  unfold playOnSave
  rw [self]
  exact ⟨_, _, Work.bind_of_ok played⟩

/-- A newcomer that has been stored beside its opponents plays them and gets its points, unless
these cannot be written. -/
theorem finishSave_ends (aside : observe.StandsAside) (never : observe.NeverGivesUp)
    {new : Strategy} {opponents : List Strategy} (distinct : Distinct (new :: opponents))
    (names : ∀ s ∈ new :: opponents, ∃ name, s.id.asName = .ok name)
    (known : ∀ s ∈ new :: opponents, s ∈ site.arena.store.strategies)
    (whole : site.arena.store.HasWholeScores) :
    (∃ saved o site', finishSave observe ⟨new, opponents⟩ site = (.ok (saved, o), site')) ∨
      ∃ fault site', finishSave observe ⟨new, opponents⟩ site = (.error fault, site') ∧
        site.CannotWrite fault := by
  have entrants : ∀ s ∈ Schedule.entrants new opponents, s ∈ new :: opponents := fun s hs =>
    List.Sublist.subset (List.filter_sublist.cons_cons new) hs
  obtain ⟨o, middle, played⟩ := playOnSave_ends never (fun s hs => names s (entrants s hs)) site
  have kept := playOnSave_aside aside new opponents site
  rw [played] at kept
  have challenge := playOnSave_isChallenge aside distinct played
  obtain ⟨store, applied⟩ := Store.exists_apply_challenge challenge known whole
  rw [← kept.store] at applied
  obtain ⟨host, -, -, taken⟩ | ⟨fault, host, -, -, unwritable, failed⟩ :=
    applyOutcome_settles applied
  · exact .inl ⟨_, o, _, (Work.bind_of_ok played).trans (Work.bind_of_ok taken)⟩
  · refine .inr ⟨fault, _, (Work.bind_of_ok played).trans (Work.bind_of_error failed), ?_⟩
    obtain ⟨p, cause, file, e⟩ := unwritable
    exact ⟨p, cause, kept.file ▸ file, e⟩

theorem save_ends (aside : observe.StandsAside) (never : observe.NeverGivesUp) {q : SaveRequest}
    (named : q.name.trimmed ≠ [])
    (fresh : ∀ t ∈ site.arena.store.strategies,
      t.key ≠ Host.strategyId site.host.strategiesNamed)
    (orderly : site.arena.store.IsOrderly) :
    (∃ saved o site', save observe q site = (.ok (saved, o), site')) ∨
      ∃ fault site', save observe q site = (.error fault, site') ∧ site.CannotWrite fault := by
  have listed : site.arena.store.ranked = .ok (Standings.sorted site.arena.store.strategies) :=
    if_pos (List.all_eq_true.2 orderly.rankable)
  have perm := Store.perm_of_ranked listed
  obtain ⟨shown, display⟩ := displayName_text q.author q.authorId
  have begun := beginSave_eq ((ranked_apply site).trans (congrArg (·, site) listed)) named display
  obtain ⟨new, hnew⟩ : ∃ new, new = site.newcomer (.text q.name.trimmed) q.tree
    (.ofOption q.authorId) (.text shown) := ⟨_, rfl⟩
  have distinct : Distinct (new :: Standings.sorted site.arena.store.strategies) :=
    hnew ▸ distinct_newcomer fresh listed
  have added := Store.strategies_add distinct perm
  obtain ⟨host, -, -, stored⟩ | ⟨fault, host, -, -, unwritable, failed⟩ :=
    site.addStrategy_settles (.text q.name.trimmed) q.tree (.ofOption q.authorId) (.text shown)
  · have goesOn : save observe q site = finishSave observe _ _ :=
      Work.bind_of_ok (begun.trans (Work.bind_of_ok stored))
    rw [goesOn, ← hnew]
    refine finishSave_ends aside never distinct (fun t ht => ?_) (fun t ht => ?_) fun t ht => ?_
    · rcases List.mem_cons.1 ht with rfl | ht
      · rw [hnew]
        exact ⟨_, rfl⟩
      · exact orderly.names t (perm.mem_iff.1 ht)
    · rw [after_store, added]
      rcases List.mem_cons.1 ht with rfl | ht
      · exact List.mem_append_right _ (List.mem_singleton_self _)
      · exact List.mem_append_left _ (perm.mem_iff.1 ht)
    · rw [after_store, added] at ht
      rcases List.mem_append.1 ht with ht | ht
      · exact orderly.whole t ht
      · exact ⟨0, by rw [List.mem_singleton.1 ht, hnew]; rfl⟩
  · exact .inr ⟨fault, _, Work.bind_of_error (begun.trans (Work.bind_of_error failed)), unwritable⟩

/-- A save that nothing comes in between, under a name that is not blank and a new identifier. If it
succeeds, each strategy that was stored has met the newcomer once, the newcomer on the first side,
and the scores have grown by what the records say; all of this is in the outcome, and nothing else
has changed. Without others there is no record and the newcomer has the score 0. And in an orderly
arena it succeeds, unless the file of the arena cannot be written or the observer gives up. -/
theorem save_changes_what_it_earned (aside : observe.StandsAside) {q : SaveRequest}
    (named : q.name.trimmed ≠ [])
    (fresh : ∀ t ∈ site.arena.store.strategies,
      t.key ≠ Host.strategyId site.host.strategiesNamed) :
    (∀ saved o site', save observe q site = (.ok (saved, o), site') →
      site.HasEarned q saved o site' ∧
      (site.arena.store.strategies = [] → site.HasSettled saved o site')) ∧
    (observe.NeverGivesUp → site.arena.store.IsOrderly →
      (∃ saved o site', save observe q site = (.ok (saved, o), site')) ∨
        ∃ fault site', save observe q site = (.error fault, site') ∧ site.CannotWrite fault) := by
  refine ⟨fun saved o site' h => ?_, fun never orderly => save_ends aside never named fresh orderly⟩
  obtain ⟨given, shown, opponents, required, display, goes⟩ := saveStrategy_goes aside h
  rw [requiredName_text named] at required
  obtain rfl := Except.ok.inj required
  have earned := goes.hasEarned aside display fresh
  exact ⟨earned, earned.hasSettled⟩

/-- A gambler comes to an arena with three strategies. -/
theorem save_changes_what_it_earned_trio :
    let q : SaveRequest := ⟨"Gambler", Builtin.random.tree, none, none⟩
    ∃ saved o site', save .silent q trio = (.ok (saved, o), site') ∧
      trio.HasEarned q saved o site' ∧ o.records.length = 3 := by
  intro q
  have quiet := Observer.silent_isQuiet
  have never : Observer.silent.NeverGivesUp := fun progress site => ⟨site, rfl⟩
  have orderly : trio.arena.store.IsOrderly := by
    refine ⟨by decide +kernel, fun s hs => ?_, fun s hs => ?_⟩ <;>
      obtain ⟨b, -, rfl⟩ := List.mem_map.1 hs
    · exact ⟨_, rfl⟩
    · exact ⟨_, rfl⟩
  have named : q.name.trimmed ≠ [] := by decide
  have fresh : ∀ t ∈ trio.arena.store.strategies,
      t.key ≠ Host.strategyId trio.host.strategiesNamed := by decide +kernel
  obtain ⟨changes, ends⟩ := save_changes_what_it_earned quiet.standsAside named fresh
  obtain ⟨saved, o, site', h⟩ | ⟨_, _, -, unwritable⟩ := ends never orderly
  case inr => exact absurd rfl unwritable.file
  have earned := (changes saved o site' h).1
  obtain ⟨opponents, ranked, each⟩ := earned.records
  refine ⟨saved, o, site', h, earned, ?_⟩
  rw [← each.length_eq, (Store.perm_of_ranked ranked).length_eq]
  rfl

end Site
end IteratedDilemma
