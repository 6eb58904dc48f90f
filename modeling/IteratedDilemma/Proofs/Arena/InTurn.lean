import Mathlib.Data.List.Forall2
import IteratedDilemma.Proofs.Arena.Observed
import IteratedDilemma.Proofs.Match.Simultaneous

/-! Passes as schedules played in order. The pairs of a tournament meet by the first place and then
by the second (`Schedule.pairs_eq_places`); each match starts from the source that the match before
left and is reported to the observer before the next one (`Site.MeetInTurn`). Main statement: that
is all a pass between different strategies does, and its outcome has the records of these matches
and their points (`Site.playGrand_in_turn`). -/
namespace IteratedDilemma
set_option autoImplicit false

/-! ## The order of pairs -/

namespace Schedule

/-- Two places each of so many things, the earlier one first (`mem_places`): by the first place, then
by the second (`places_pairwise`). -/
def places (count : Nat) : List (Nat × Nat) :=
  (List.range count).flatMap fun i => ((List.range count).filter (i < ·)).map fun j => (i, j)

theorem mem_places {count i j : Nat} : (i, j) ∈ places count ↔ i < j ∧ j < count := by
  simp only [places, List.mem_flatMap, List.mem_map, List.mem_filter, List.mem_range,
    decide_eq_true_iff, Prod.mk.injEq]
  constructor
  · rintro ⟨_, -, _, ⟨below, order⟩, rfl, rfl⟩
    exact ⟨order, below⟩
  · rintro ⟨order, below⟩
    exact ⟨i, Nat.lt_trans order below, j, ⟨below, order⟩, rfl, rfl⟩

theorem places_pairwise (count : Nat) :
    (places count).Pairwise (Prod.Lex (· < ·) (· < ·)) := by
  rw [places, List.pairwise_flatMap]
  constructor
  · intro i _
    rw [List.pairwise_map]
    exact (List.pairwise_lt_range.filter _).imp fun h => Prod.Lex.right _ h
  · refine List.pairwise_lt_range.imp fun {i i'} h pair hpair pair' hpair' => ?_
    obtain ⟨_, _, rfl⟩ := List.mem_map.1 hpair
    obtain ⟨_, _, rfl⟩ := List.mem_map.1 hpair'
    exact Prod.Lex.left _ _ h

theorem places_succ (count : Nat) :
    places (count + 1) = (List.range count).map (fun j => (0, j + 1)) ++
      (places count).map fun place => (place.1 + 1, place.2 + 1) := by
  rw [places, places, List.range_succ_eq_map, List.flatMap_cons, List.flatMap_map,
    List.map_flatMap]
  congr 1
  · simp [List.filter_map, Function.comp_def]
  · refine List.flatMap_congr fun i _ => ?_
    simp [List.filter_map, Function.comp_def]

/-- The pairs of a list are those of its places. -/
theorem pairs_eq_places {α : Type} (l : List α) :
    (pairs l).map (fun pair => (some pair.1, some pair.2)) =
      (places l.length).map fun place => (l[place.1]?, l[place.2]?) := by
  induction l with
  | nil => rfl
  | cons x rest ih =>
    have first : (rest.map fun y => (x, y)).map (fun pair => (some pair.1, some pair.2)) =
        ((List.range rest.length).map fun j => (0, j + 1)).map
          fun place => ((x :: rest)[place.1]?, (x :: rest)[place.2]?) := by
      rw [List.map_map, List.map_map]
      refine List.ext_getElem (by simp) fun i h h' => ?_
      simp
    have later : (pairs rest).map (fun pair => (some pair.1, some pair.2)) =
        ((places rest.length).map fun place => (place.1 + 1, place.2 + 1)).map
          fun place => ((x :: rest)[place.1]?, (x :: rest)[place.2]?) := by
      rw [ih, List.map_map]
      rfl
    rw [pairs, List.map_append, first, later, ← List.map_append, List.length_cons, places_succ]

theorem getElem?_pairs {α : Type} {l : List α} {k : Nat} {s t : α}
    (h : (pairs l)[k]? = some (s, t)) :
    ∃ i j, (places l.length)[k]? = some (i, j) ∧ l[i]? = some s ∧ l[j]? = some t := by
  have listed := congrArg (·[k]?) (pairs_eq_places l)
  simp only [List.getElem?_map, h, Option.map_some] at listed
  cases found : (places l.length)[k]? with
  | none =>
    rw [found] at listed
    cases listed
  | some place =>
    rw [found] at listed
    obtain ⟨first, second⟩ := Prod.mk.inj (Option.some.inj listed)
    exact ⟨place.1, place.2, rfl, first.symm, second.symm⟩

theorem length_roundRobin (strategies : List Strategy) :
    (roundRobin strategies).length = strategies.length * (strategies.length - 1) / 2 := by
  rw [roundRobin, numbered, List.length_mapIdx]
  refine Int.ofNat_inj.1 ?_
  rw [length_pairs, totalMatches]
  split
  · next few =>
    obtain zero | one : strategies.length = 0 ∨ strategies.length = 1 := by omega
    · rw [zero]
      rfl
    · rw [one]
      rfl
  · next enough =>
    rw [Int.natCast_ediv, Int.natCast_mul, Int.natCast_sub (by omega)]
    rfl

/-- Nobody is in more pairs than there are others. -/
theorem countP_pairs_le {α κ : Type} [DecidableEq κ] {key : α → κ} {l : List α}
    (distinct : (l.map key).Nodup) (k : κ) :
    (pairs l).countP (fun pair => decide (key pair.1 = k ∨ key pair.2 = k)) ≤ l.length - 1 := by
  have absent {rest : List α} (out : k ∉ rest.map key) :
      (pairs rest).countP (fun pair => decide (key pair.1 = k ∨ key pair.2 = k)) = 0 := by
    refine List.countP_eq_zero.2 fun pair hpair joins => ?_
    obtain ⟨first, second⟩ := pairs_mem hpair
    rcases of_decide_eq_true joins with e | e
    · exact out (e ▸ List.mem_map_of_mem first)
    · exact out (e ▸ List.mem_map_of_mem second)
  induction l with
  | nil => exact Nat.le_refl 0
  | cons x rest ih =>
    obtain ⟨apart, distinct⟩ := List.nodup_cons.1 distinct
    rw [pairs, List.countP_append, List.countP_map, List.length_cons, Nat.add_sub_cancel]
    by_cases e : key x = k
    · have none := absent (e ▸ apart)
      have all := List.countP_le_length (p := ((fun pair : α × α =>
        decide (key pair.1 = k ∨ key pair.2 = k)) ∘ fun y => (x, y))) (l := rest)
      omega
    · have once : rest.countP ((fun pair : α × α =>
          decide (key pair.1 = k ∨ key pair.2 = k)) ∘ fun y => (x, y)) =
          (rest.map key).count k := by
        rw [List.count, List.countP_map]
        refine List.countP_congr fun y _ => ?_
        simp [e]
      have least := List.nodup_iff_count_le_one.1 distinct k
      have later := ih distinct
      rw [once]
      cases rest with
      | nil => exact Nat.le_refl 0
      | cons y more =>
        rw [List.length_cons] at later ⊢
        omega

end Schedule

/-! ## Matches of a pass -/

/-- An observer that neither draws random numbers nor changes the number of rounds. -/
def Observer.LeavesPlay (observe : Observer) : Prop :=
  ∀ progress site, (observe progress site).2.arena.source = site.arena.source ∧
    (observe progress site).2.arena.rounds = site.arena.rounds

/-- An observer that never fails. -/
def Observer.NeverGivesUp (observe : Observer) : Prop :=
  ∀ progress site, ∃ site', observe progress site = (.ok (), site')

theorem Observer.noting_leavesPlay (lastMatch : Option Int) (complaint : Text) :
    (Observer.noting lastMatch complaint).LeavesPlay := by
  intro progress site
  unfold Observer.noting
  by_cases gives : lastMatch = some (progress.completed : Int)
  · rw [if_pos gives]
    exact ⟨rfl, rfl⟩
  · rw [if_neg gives]
    exact ⟨rfl, rfl⟩

theorem Observer.noting_neverGivesUp (complaint : Text) :
    (Observer.noting none complaint).NeverGivesUp :=
  fun progress site => ⟨{ site with noted := progress :: site.noted }, rfl⟩

namespace Site

/-- The match of two strategies on a site, by their own trees: the source of random moves goes on,
the record gets a new identifier, and nobody is told. -/
structure Meets (s t : Strategy) (site : Site) (r : MatchRecord) (site' : Site) : Prop where
  game : ∃ m, Match.simulate s.tree.decision.lifted t.tree.decision.lifted
      (.int site.arena.rounds) site.arena.source = (.ok m, site'.arena.source) ∧
    r = .ofMatch site.host.nameRecord.1 site.host.universalNow s t m
  arena : site'.arena = { site.arena with source := site'.arena.source }
  disk : site'.host.disk = site.host.disk
  noted : site'.noted = site.noted

/-- Pairs that meet one after another. The observer is told of each match right after it; the next
pair meets where the observer has left the site, and none does once the observer gives up. -/
inductive MeetInTurn (observe : Observer) (total : Nat) :
    Nat → List (Strategy × Strategy) → Site → List MatchRecord → Except Fault Unit → Site →
      Prop where
  | done (completed : Nat) (site : Site) :
    MeetInTurn observe total completed [] site [] (.ok ()) site
  | givesUp {completed : Nat} {s t : Strategy} {rest : List (Strategy × Strategy)}
    {site site1 site2 : Site} {r : MatchRecord} {fault : Fault} (met : Meets s t site r site1)
    (told : observe ⟨completed + 1, total, r⟩ site1 = (.error fault, site2)) :
    MeetInTurn observe total completed ((s, t) :: rest) site [r] (.error fault) site2
  | next {completed : Nat} {s t : Strategy} {rest : List (Strategy × Strategy)}
    {site site1 site2 last : Site} {r : MatchRecord} {records : List MatchRecord}
    {result : Except Fault Unit} (met : Meets s t site r site1)
    (told : observe ⟨completed + 1, total, r⟩ site1 = (.ok (), site2))
    (later : MeetInTurn observe total (completed + 1) rest site2 records result last) :
    MeetInTurn observe total completed ((s, t) :: rest) site (r :: records) result last

/-- Records of the pairs of some strategies in their order, each match played from the source that
the match before left. -/
def ArePlayed (rounds : Nat) (pairs : List (Strategy × Strategy)) (source last : RandomSource)
    (records : List MatchRecord) : Prop :=
  ∃ sources : Nat → RandomSource, sources 0 = source ∧ sources records.length = last ∧
    ∀ (k : Nat) (h : k < records.length), ∃ s t m id playedAt, pairs[k]? = some (s, t) ∧
      Match.simulate s.tree.decision.lifted t.tree.decision.lifted (.int rounds) (sources k) =
        (.ok m, sources (k + 1)) ∧
      records[k] = .ofMatch id playedAt s t m

variable {observe : Observer} {entrants : List Strategy} {total completed : Nat}
  {pairs : List (Strategy × Strategy)} {site last : Site} {records : List MatchRecord}
  {result : Except Fault Unit}

theorem MeetInTurn.ended (never : observe.NeverGivesUp)
    (h : MeetInTurn observe total completed pairs site records result last) : result = .ok () := by
  induction h with
  | done => rfl
  | givesUp _ told =>
    obtain ⟨site', always⟩ := never ⟨_, _, _⟩ _
    rw [always] at told
    cases told
  | next _ _ _ ih => exact ih

/-- One match, then those of other pairs. -/
theorem arePlayed_cons {rounds : Nat} {s t : Strategy} {source middle last : RandomSource}
    {m : Match} (game : Match.simulate s.tree.decision.lifted t.tree.decision.lifted (.int rounds)
      source = (.ok m, middle)) (id : Text) (playedAt : Timestamp)
    (h : ArePlayed rounds pairs middle last records) :
    ArePlayed rounds ((s, t) :: pairs) source last (.ofMatch id playedAt s t m :: records) := by
  obtain ⟨sources, rfl, finish, each⟩ := h
  refine ⟨fun k => k.casesOn source sources, rfl, finish, fun k hk => ?_⟩
  cases k with
  | zero => exact ⟨s, t, m, id, playedAt, rfl, game, rfl⟩
  | succ k => exact each k (Nat.lt_of_succ_lt_succ hk)

theorem arePlayed_nil (rounds : Nat) (pairs : List (Strategy × Strategy)) (source : RandomSource) :
    ArePlayed rounds pairs source source [] :=
  ⟨fun _ => source, rfl, rfl, fun k h => absurd h (Nat.not_lt_zero k)⟩

/-- If the observer draws nothing, the sources of the matches form a chain. -/
theorem MeetInTurn.arePlayed (leaves : observe.LeavesPlay)
    (h : MeetInTurn observe total completed pairs site records result last) :
    ArePlayed site.arena.rounds pairs site.arena.source last.arena.source records := by
  induction h with
  | done completed site => exact arePlayed_nil _ _ _
  | @givesUp completed s t rest site site1 site2 r fault met told =>
    obtain ⟨source, -⟩ := leaves ⟨completed + 1, total, r⟩ site1
    rw [told] at source
    obtain ⟨m, game, rfl⟩ := met.game
    rw [source]
    exact arePlayed_cons game _ _ (arePlayed_nil _ _ _)
  | @next completed s t rest site site1 site2 last r records result met told later ih =>
    obtain ⟨source, rounds⟩ := leaves ⟨completed + 1, total, r⟩ site1
    rw [told] at source rounds
    obtain ⟨m, game, rfl⟩ := met.game
    have before : site1.arena.rounds = site.arena.rounds := by rw [met.arena]
    rw [source, rounds, before] at ih
    exact arePlayed_cons game _ _ ih

/-! ## What a pass does -/

theorem playFixture_noted {f : Fixture} {first second : Json}
    (h1 : f.first.id.asName = .ok first) (h2 : f.second.id.asName = .ok second) (total : Nat)
    (p : Pass) (site : Site) : (playFixture total f p site).2.noted = site.noted := by
  obtain ⟨entries1, e1⟩ := makeReady_of_ok h1 p site
  obtain ⟨entries2, e2⟩ := makeReady_of_ok h2 (p.readied f.first)
    { site with host := site.host.record entries1 }
  unfold playFixture
  rw [Work.bind_of_ok e1, Work.bind_of_ok e2]
  rfl

/-- A fixture of entrants is their match, by their own trees. -/
theorem playFixture_meets (distinct : Distinct entrants)
    (names : ∀ s ∈ entrants, ∃ name, s.id.asName = .ok name) {f : Fixture}
    (among : f.IsAmong entrants) {p : Pass} (roster : ∀ r ∈ p.roster, r ∈ entrants) (total : Nat)
    (site : Site) :
    ∃ r site', playFixture total f p site = (.ok ((p.prepared f).extend r, r), site') ∧
      Meets f.first f.second site r site' ∧
      r.IsOf site.arena.rounds f.first f.second := by
  obtain ⟨_, name1⟩ := names _ among.first
  obtain ⟨_, name2⟩ := names _ among.second
  obtain ⟨site', played, one⟩ := playFixture_apply name1 name2 total p site
  have roster1 := Pass.roster_prepared among roster
  have noted := playFixture_noted name1 name2 total p site
  rw [one] at noted
  have own : (p.prepared f).played f site =
      (Match.play f.first.decision f.second.decision site.arena.rounds).run site.arena.source := by
    rw [Pass.played, Pass.player_eq distinct roster1 among.first,
      Pass.player_eq distinct roster1 among.second]
  have source : site'.arena.source = ((p.prepared f).played f site).2 := by rw [played.arena]
  refine ⟨_, site', one, ⟨⟨((p.prepared f).played f site).1, ?_, rfl⟩, ?_, played.disk, noted⟩,
    Pass.isOf_recordOf distinct roster1 among site⟩
  · rw [Match.simulate_lifted, source, own]
    rfl
  · rw [source, played.arena]

/-- Fixtures of entrants are played in turn, and the pass counts their points. -/
theorem playFixtures_in_turn (leaves : observe.LeavesPlay) (distinct : Distinct entrants)
    (names : ∀ s ∈ entrants, ∃ name, s.id.asName = .ok name) (total : Nat)
    {fixtures : List Fixture} (hf : ∀ f ∈ fixtures, f.IsAmong entrants) {p : Pass}
    (roster : ∀ r ∈ p.roster, r ∈ entrants) (site : Site) :
    ∃ records result last,
      MeetInTurn observe total p.records.length (fixtures.map fun f => (f.first, f.second)) site
        records result last ∧
      (∀ fault, result = .error fault →
        playFixtures observe total fixtures p site = (.error fault, last)) ∧
      (result = .ok () → ∃ p', playFixtures observe total fixtures p site = (.ok p', last) ∧
        p.Continues site.arena.rounds fixtures p' ∧
        p'.records = records.reverse ++ p.records ∧
        p'.deltas.points.sum = p.deltas.points.sum +
          (records.map fun r => r.first.score + r.second.score).sum) := by
  induction fixtures generalizing p site with
  | nil =>
    exact ⟨[], .ok (), site, .done _ _, nofun, fun _ =>
      ⟨p, rfl, Pass.continues_nil _ _, rfl, (Int.add_zero _).symm⟩⟩
  | cons f rest ih =>
    have among := hf f List.mem_cons_self
    obtain ⟨r, site1, one, met, isOf⟩ := playFixture_meets distinct names among roster total site
    let q := (p.prepared f).extend r
    have count : q.records.length = p.records.length + 1 := by
      change (r :: (p.prepared f).records).length = _
      rw [Pass.prepared_records, List.length_cons]
    obtain ⟨-, kept⟩ := leaves ⟨q.records.length, total, r⟩ site1
    rcases told : observe ⟨q.records.length, total, r⟩ site1 with ⟨fault | ⟨⟩, site2⟩
    · have failed : playFixtures observe total (f :: rest) p site = (.error fault, site2) :=
        (Work.bind_of_ok one).trans (Work.bind_of_error told)
      rw [count] at told
      refine ⟨[r], .error fault, site2, .givesUp met told, fun _ e => ?_, nofun⟩
      cases e
      exact failed
    · rw [told] at kept
      have rounds : site2.arena.rounds = site.arena.rounds := by rw [kept, met.arena]
      obtain ⟨records, result, last, inTurn, fails, ends⟩ :=
        ih (fun g hg => hf g (List.mem_cons_of_mem _ hg)) (p := q)
          (Pass.roster_prepared among roster) site2
      have goes : playFixtures observe total (f :: rest) p site =
          playFixtures observe total rest q site2 :=
        (Work.bind_of_ok one).trans (Work.bind_of_ok told)
      rw [count] at told inTurn
      refine ⟨r :: records, result, last, .next met told inTurn, fun fault e => ?_, fun e => ?_⟩
      · rw [goes]
        exact fails fault e
      · obtain ⟨p', played, continued, all, sum⟩ := ends e
        obtain ⟨added, ready, -⟩ := p.prepared_eq f
        rw [rounds] at continued
        refine ⟨p', goes.trans played, Pass.continues_cons ⟨_, ready⟩ isOf continued, ?_, ?_⟩
        · rw [all, List.reverse_cons, List.append_assoc]
          change _ ++ (r :: (p.prepared f).records) = _
          rw [Pass.prepared_records]
          rfl
        · rw [sum, Pass.sum_extend, Pass.prepared_deltas, List.map_cons, List.sum_cons]
          omega

end Site

/-! ## What a pass can earn -/

/-- A match pays at most two points a round, and nothing to those who are not in it. -/
theorem MatchRecord.IsOf.pointsOf_bounds {r : MatchRecord} {rounds : Nat} {s t : Strategy}
    (h : r.IsOf rounds s t) (apart : s.key ≠ t.key) (id : Json) :
    0 ≤ r.pointsOf id ∧
      r.pointsOf id ≤ if s.key = id.key ∨ t.key = id.key then 2 * (rounds : Int) else 0 := by
  obtain ⟨recordId, playedAt, source, rfl⟩ := h
  let m := ((Match.play s.decision t.decision rounds).run source).1
  obtain ⟨score1, score2⟩ : m.score1 ≤ 2 * rounds ∧ m.score2 ≤ 2 * rounds :=
    Match.scores_le_play s.decision t.decision rounds source
  have paid : (MatchRecord.ofMatch recordId playedAt s t m).pointsOf id =
      (if s.key = id.key then (m.score1 : Int) else 0) +
        (if t.key = id.key then (m.score2 : Int) else 0) := by
    simp only [pointsOf, Json.same, decide_eq_true_iff]
    rfl
  rw [paid]
  by_cases hs : s.key = id.key
  · have ht : t.key ≠ id.key := fun ht => apart (hs.trans ht.symm)
    rw [if_pos hs, if_neg ht, if_pos (.inl hs)]
    omega
  · by_cases ht : t.key = id.key
    · rw [if_neg hs, if_pos ht, if_pos (.inr ht)]
      omega
    · rw [if_neg hs, if_neg ht, if_neg (not_or.2 ⟨hs, ht⟩)]
      omega

theorem earned_bounds {rounds : Nat} {pairs : List (Strategy × Strategy)}
    {records : List MatchRecord}
    (each : List.Forall₂ (fun pair r => r.IsOf rounds pair.1 pair.2) pairs records)
    (apart : ∀ pair ∈ pairs, pair.1.key ≠ pair.2.key) (id : Json) :
    0 ≤ earned id records ∧ earned id records ≤ 2 * rounds *
      pairs.countP (fun pair => decide (pair.1.key = id.key ∨ pair.2.key = id.key)) := by
  induction each with
  | nil => exact ⟨Int.le_refl 0, Int.le_of_eq (Int.mul_zero _).symm⟩
  | @cons pair r pairs records isOf _ ih =>
    obtain ⟨least, most⟩ := isOf.pointsOf_bounds (apart pair List.mem_cons_self) id
    obtain ⟨least', most'⟩ := ih fun other h => apart other (List.mem_cons_of_mem _ h)
    rw [earned_cons, List.countP_cons]
    refine ⟨Int.add_nonneg least least', ?_⟩
    split at most
    · next joins =>
      rw [if_pos (decide_eq_true joins)]
      push_cast
      rw [Int.mul_add, Int.mul_one]
      omega
    · next misses =>
      rw [if_neg (by simpa using misses), Nat.add_zero]
      omega

/-- A strategy earns at most two points in each round against each of the others. -/
theorem earned_against_others {rounds : Nat} {strategies : List Strategy}
    (distinct : Distinct strategies) {records : List MatchRecord}
    (each : List.Forall₂ (fun pair r => r.IsOf rounds pair.1 pair.2) (Schedule.pairs strategies)
      records) (id : Json) :
    0 ≤ earned id records ∧ earned id records ≤ 2 * rounds * (strategies.length - 1 : Nat) := by
  have meetings := Schedule.countP_pairs_le distinct id.key
  obtain ⟨least, most⟩ := earned_bounds each (fun pair h => Schedule.pairs_apart distinct h) id
  refine ⟨least, Int.le_trans most (Int.mul_le_mul_of_nonneg_left ?_ (by omega))⟩
  exact Int.ofNat_le.2 meetings

/-! ## Tournaments -/

/-- What the outcome of a tournament says besides its records: for each strategy, in the order
given, the points of its sides, which no strategy can have more of than two a round against each of
the others. -/
structure Outcome.AddsUp (o : Outcome) (rounds : Nat) (strategies : List Strategy) : Prop where
  count : (o.records.length : Int) = Schedule.totalMatches strategies.length
  deltas : o.deltas = strategies.map fun s => (s.id, .int (earned s.id o.records))
  bounds : ∀ s ∈ strategies, 0 ≤ earned s.id o.records ∧
    earned s.id o.records ≤ 2 * rounds * (strategies.length - 1 : Nat)
  total : o.totalPoints = .ok (.int (o.records.map fun r => r.first.score + r.second.score).sum)

namespace Site

/-- Records of a tournament of some strategies: the `k`-th is of the `k`-th two places, by the first
place and then by the second. Each match is played from the source that the match before left. -/
def IsRoundRobin (rounds : Nat) (strategies : List Strategy) (source last : RandomSource)
    (records : List MatchRecord) : Prop :=
  ∃ sources : Nat → RandomSource, sources 0 = source ∧ sources records.length = last ∧
    ∀ (k : Nat) (h : k < records.length), ∃ i j s t m id playedAt,
      (Schedule.places strategies.length)[k]? = some (i, j) ∧
      strategies[i]? = some s ∧ strategies[j]? = some t ∧
      Match.simulate s.tree.decision.lifted t.tree.decision.lifted (.int rounds) (sources k) =
        (.ok m, sources (k + 1)) ∧
      records[k] = .ofMatch id playedAt s t m

theorem ArePlayed.isRoundRobin {rounds : Nat} {strategies : List Strategy}
    {source last : RandomSource} {records : List MatchRecord}
    (h : ArePlayed rounds (Schedule.pairs strategies) source last records) :
    IsRoundRobin rounds strategies source last records := by
  obtain ⟨sources, start, finish, each⟩ := h
  refine ⟨sources, start, finish, fun k hk => ?_⟩
  obtain ⟨s, t, m, id, playedAt, pair, game, record⟩ := each k hk
  obtain ⟨i, j, place, first, second⟩ := Schedule.getElem?_pairs pair
  exact ⟨i, j, s, t, m, id, playedAt, place, first, second, game, record⟩

theorem addsUp_finish {rounds : Nat} {strategies : List Strategy} (distinct : Distinct strategies)
    {startedAt : Timestamp} {p' : Pass} {records : List MatchRecord}
    (continued : (Pass.grand startedAt strategies).Continues rounds
      (Schedule.roundRobin strategies) p')
    (all : p'.records = records.reverse ++ [])
    (sum : p'.deltas.points.sum = (records.map fun r => r.first.score + r.second.score).sum)
    (finishedAt : Timestamp) : (p'.finish finishedAt).records = records ∧
      (p'.finish finishedAt).AddsUp rounds strategies := by
  have each : List.Forall₂ (fun pair r => r.IsOf rounds pair.1 pair.2) (Schedule.pairs strategies)
      records := by
    obtain ⟨records', all', each⟩ := continued.records
    have same : records' = records := by
      have e := all'.symm.trans all
      change _ ++ [] = _ at e
      rw [List.append_nil, List.append_nil] at e
      exact List.reverse_injective e
    exact same ▸ (Schedule.forall₂_numbered (R := fun s t r => r.IsOf rounds s t)).1 each
  have ids : p'.deltas.ids = strategies.map Strategy.id := by
    rw [continued.kept fun f hf => ?_, Pass.ids_grand _ distinct]
    have sides := Schedule.roundRobin_isAmong distinct hf
    exact ⟨Pass.isSome_grand _ distinct sides.first, Pass.isSome_grand _ distinct sides.second⟩
  have points (id : Json) : (p'.deltas.points? id).getD 0 = earned id records := by
    rw [(continued.balanced (Pass.isBalanced_grand _ _)).points, all, List.append_nil,
      earned_reverse]
  have whole : (p'.finish finishedAt).records = records := Pass.records_finish all
  refine ⟨whole, ?_, ?_, fun s _ => ?_, ?_⟩
  · rw [whole, ← each.length_eq, Schedule.length_pairs]
  · have apart : (p'.deltas.ids.map Json.key).Nodup := by
      rw [ids, List.map_map]
      exact distinct
    rw [whole]
    change p'.deltas.toJson = _
    rw [Tally.eq_map_ids apart, ids, Tally.toJson, List.map_map, List.map_map]
    exact List.map_congr_left fun s _ => congrArg (s.id, Json.int ·) (points s.id)
  · rw [whole]
    exact earned_against_others distinct each s.id
  · rw [whole, Pass.totalPoints_finish, ← List.sum_eq_foldl, sum]

variable {observe : Observer}

/-- Strategies one of whom plays at random. -/
def gamblers : List Strategy := [.random, .titForTat, .alwaysBetray].map unplayed

end Site
end IteratedDilemma
