import IteratedDilemma.Arena.Operations
import IteratedDilemma.Proofs.Work
import IteratedDilemma.Proofs.Tournament.Entrants
import IteratedDilemma.Proofs.Tournament.Points

/-! Playing the fixtures of a pass. One fixture either fails because an identifier cannot be counted
under, or it adds the record of one match between what has been made ready under the two identifiers
(`playFixture_apply`, `playFixture_ok`). After many a pass has one more record for each of them
(`Pass.Continues`). -/
namespace IteratedDilemma
set_option autoImplicit false

/-- The record of a match of so many rounds between two strategies. -/
def MatchRecord.IsOf (r : MatchRecord) (rounds : Nat) (first second : Strategy) : Prop :=
  ∃ id playedAt source, r = .ofMatch id playedAt first second
    ((Match.play first.decision second.decision rounds).run source).1

namespace Pass

/-- The match that a prepared fixture comes to on a site, with the source that it leaves. -/
def played (p : Pass) (f : Fixture) (site : Site) : Match × RandomSource :=
  (Match.play (p.player f.first).decision (p.player f.second).decision site.arena.rounds).run
    site.arena.source

/-- The record of a prepared fixture on a site. -/
def recordOf (p : Pass) (f : Fixture) (site : Site) : MatchRecord :=
  .ofMatch site.host.nameRecord.1 site.host.universalNow f.first f.second (p.played f site).1

theorem isBalanced_prepared {p : Pass} (h : p.IsBalanced) (f : Fixture) :
    (p.prepared f).IsBalanced where
  points id := by
    rw [prepared_deltas, prepared_records]
    exact h.points id
  counted r hr := by
    rw [prepared_records] at hr
    rw [prepared_deltas]
    exact h.counted r hr

/-- Entrants are played by their own trees, whatever has been made ready before. -/
theorem isOf_recordOf {p : Pass} {entrants : List Strategy} (distinct : Distinct entrants)
    (roster : ∀ r ∈ p.roster, r ∈ entrants) {f : Fixture} (hf : f.IsAmong entrants) (site : Site) :
    (p.recordOf f site).IsOf site.arena.rounds f.first f.second := by
  refine ⟨site.host.nameRecord.1, site.host.universalNow, site.arena.source, ?_⟩
  rw [recordOf, played, player_eq distinct roster hf.first, player_eq distinct roster hf.second]

/-- A pass after some fixtures: it has a record for each of them, in their order, and has counted
nobody else. -/
structure Continues (rounds : Nat) (fixtures : List Fixture) (p p' : Pass) : Prop where
  kind : p'.kind = p.kind
  newStrategyId : p'.newStrategyId = p.newStrategyId
  records : ∃ records, p'.records = records.reverse ++ p.records ∧
    List.Forall₂ (fun f r => r.IsOf rounds f.first f.second) fixtures records
  balanced : p.IsBalanced → p'.IsBalanced
  counted : ∀ id ∈ p'.deltas.ids,
    id ∈ p.deltas.ids ∨ ∃ f ∈ fixtures, id = f.first.id ∨ id = f.second.id
  kept : (∀ f ∈ fixtures, (p.deltas.points? f.first.id).isSome ∧
    (p.deltas.points? f.second.id).isSome) → p'.deltas.ids = p.deltas.ids

theorem continues_nil (rounds : Nat) (p : Pass) : Continues rounds [] p p where
  kind := rfl
  newStrategyId := rfl
  records := ⟨[], rfl, .nil⟩
  balanced h := h
  counted _ h := .inl h
  kept _ := rfl

theorem continues_cons {rounds : Nat} {f : Fixture} {rest : List Fixture} {p q p' : Pass}
    {r : MatchRecord} (hq : ∃ roster, q = { p with roster })
    (isOf : r.IsOf rounds f.first f.second) (h : Continues rounds rest (q.extend r) p') :
    Continues rounds (f :: rest) p p' := by
  obtain ⟨roster, rfl⟩ := hq
  obtain ⟨_, _, _, e⟩ := isOf
  have first : r.first.id = f.first.id := by rw [e]; rfl
  have second : r.second.id = f.second.id := by rw [e]; rfl
  exact {
    kind := h.kind
    newStrategyId := h.newStrategyId
    records := by
      obtain ⟨records, all, each⟩ := h.records
      refine ⟨r :: records, ?_, .cons ⟨_, _, _, e⟩ each⟩
      rw [all, List.reverse_cons, List.append_assoc]
      rfl
    balanced := fun hp => h.balanced
      (isBalanced_extend (p := { p with roster }) ⟨hp.points, hp.counted⟩ r)
    counted := by
      intro id hid
      rcases h.counted id hid with old | ⟨g, hg, e⟩
      · change id ∈ ((p.deltas.add r.first.id _).add r.second.id _).ids at old
        rcases Tally.ids_set _ _ _ _ old with old | rfl
        · rcases Tally.ids_set _ _ _ _ old with old | rfl
          · exact .inl old
          · exact .inr ⟨f, List.mem_cons_self, .inl first⟩
        · exact .inr ⟨f, List.mem_cons_self, .inr second⟩
      · exact .inr ⟨g, List.mem_cons_of_mem _ hg, e⟩
    kept := by
      intro some
      have still (id : Json) (hid : (p.deltas.points? id).isSome) :
          ((((p.deltas.add r.first.id r.first.score).add r.second.id r.second.score).points?
            id)).isSome :=
        Tally.isSome_add _ _ _ _ (Tally.isSome_add _ _ _ _ hid)
      have ids := h.kept fun g hg =>
        ⟨still _ (some g (List.mem_cons_of_mem _ hg)).1,
          still _ (some g (List.mem_cons_of_mem _ hg)).2⟩
      obtain ⟨one, two⟩ := some f List.mem_cons_self
      rw [ids]
      change ((p.deltas.add r.first.id _).add r.second.id _).ids = _
      rw [Tally.add, Tally.ids_set_of_isSome, Tally.add, Tally.ids_set_of_isSome]
      · rw [first]; exact one
      · rw [second]; exact Tally.isSome_add _ _ _ _ two }

theorem records_finish {p : Pass} {finishedAt : Timestamp} {records : List MatchRecord}
    (all : p.records = records.reverse ++ []) : (p.finish finishedAt).records = records := by
  change p.records.reverse = records
  rw [all, List.append_nil, List.reverse_reverse]

/-- A grand tournament starts with nothing for each of its strategies. -/
theorem deltas_grand (startedAt : Timestamp) {strategies : List Strategy}
    (distinct : Distinct strategies) :
    (Pass.grand startedAt strategies).deltas = strategies.map fun s => (s.id, 0) := by
  refine Tally.ofPairs_eq ?_
  rw [List.map_map]
  exact distinct

/-- A grand tournament counts all of its strategies from the start. -/
theorem ids_grand (startedAt : Timestamp) {strategies : List Strategy}
    (distinct : Distinct strategies) :
    (Pass.grand startedAt strategies).deltas.ids = strategies.map Strategy.id := by
  rw [deltas_grand startedAt distinct, Tally.ids, List.map_map]
  rfl

theorem isSome_grand (startedAt : Timestamp) {strategies : List Strategy}
    (distinct : Distinct strategies) {s : Strategy} (hs : s ∈ strategies) :
    ((Pass.grand startedAt strategies).deltas.points? s.id).isSome := by
  refine (Tally.isSome_points? _ _).2 ⟨s.id, ?_, decide_eq_true rfl⟩
  rw [ids_grand startedAt distinct]
  exact List.mem_map_of_mem hs

end Pass

namespace Site

/-- A site after a match: the host has given one identifier to a record and has written its
journal, and the source of random moves has gone on. -/
structure HasPlayed (site : Site) (source : RandomSource) (site' : Site) : Prop where
  arena : site'.arena = { site.arena with source }
  disk : site'.host.disk = site.host.disk
  now : site'.host.now = site.host.now
  strategies : site'.host.strategiesNamed = site.host.strategiesNamed
  records : site'.host.recordsNamed = site.host.recordsNamed + 1

theorem makeReady_of_ok {s : Strategy} {name : Json} (h : s.id.asName = .ok name) (p : Pass)
    (site : Site) :
    ∃ entries, makeReady s p site =
      (.ok (p.readied s), { site with host := site.host.record entries }) := by
  unfold makeReady Pass.readied
  rw [h, Work.lift_bind_ok]
  cases p.ready? s with
  | some _ => exact ⟨[], rfl⟩
  | none => exact ⟨[s.readyEntry], rfl⟩

theorem makeReady_ok {s : Strategy} {p q : Pass} {site site' : Site}
    (h : makeReady s p site = (.ok q, site')) : ∃ name, s.id.asName = .ok name := by
  obtain ⟨name, t, h, -⟩ := Work.bind_eq_ok h
  exact ⟨name, (Work.lift_eq_ok h).1⟩

/-- A fixture between two identifiers that can be counted under is always played. -/
theorem playFixture_apply {f : Fixture} {first second : Json} (h1 : f.first.id.asName = .ok first)
    (h2 : f.second.id.asName = .ok second) (total : Nat) (p : Pass) (site : Site) :
    ∃ site', HasPlayed site ((p.prepared f).played f site).2 site' ∧
      playFixture total f p site =
        (.ok ((p.prepared f).extend ((p.prepared f).recordOf f site),
          (p.prepared f).recordOf f site), site') := by
  obtain ⟨entries1, e1⟩ := makeReady_of_ok h1 p site
  obtain ⟨entries2, e2⟩ := makeReady_of_ok h2 (p.readied f.first)
    { site with host := site.host.record entries1 }
  refine ⟨(playMatch total f (p.prepared f)
    { site with host := (site.host.record entries1).record entries2 }).2, ⟨rfl, rfl, rfl, rfl, rfl⟩,
    ?_⟩
  unfold playFixture
  rw [Work.bind_of_ok e1, Work.bind_of_ok e2]
  rfl

theorem playFixture_ok {total : Nat} {f : Fixture} {p p' : Pass} {r : MatchRecord}
    {site site' : Site} (h : playFixture total f p site = (.ok (p', r), site')) :
    r = (p.prepared f).recordOf f site ∧ p' = (p.prepared f).extend r ∧
      HasPlayed site ((p.prepared f).played f site).2 site' := by
  have names : (∃ first, f.first.id.asName = .ok first) ∧
      ∃ second, f.second.id.asName = .ok second := by
    obtain ⟨q, t, hq, h⟩ := Work.bind_eq_ok h
    obtain ⟨q', t', hq', -⟩ := Work.bind_eq_ok h
    exact ⟨makeReady_ok hq, makeReady_ok hq'⟩
  obtain ⟨⟨first, h1⟩, second, h2⟩ := names
  obtain ⟨t, played, e⟩ := playFixture_apply h1 h2 total p site
  rw [h] at e
  cases e
  exact ⟨rfl, rfl, played⟩

/-! ## What passes keep -/

section

variable {observe : Observer} {holds : Pass → Prop} {fixtures : List Fixture} {p : Pass}
  {site site' : Site} {o : Outcome}

/-- What one more match keeps is kept up to the end of a pass, whatever its observer does. -/
theorem playFixtures_keeps
    (one : ∀ q, holds q → ∀ f ∈ fixtures, ∀ site,
      holds ((q.prepared f).extend ((q.prepared f).recordOf f site)))
    (before : holds p) {total : Nat} {p' : Pass}
    (h : playFixtures observe total fixtures p site = (.ok p', site')) : holds p' := by
  induction fixtures generalizing p site with
  | nil =>
    cases h
    exact before
  | cons f rest ih =>
    obtain ⟨⟨q, r⟩, _, met, observed⟩ := Work.bind_eq_ok h
    obtain ⟨_, _, -, others⟩ := Work.bind_eq_ok observed
    obtain ⟨rfl, rfl, -⟩ := playFixture_ok met
    exact ih (fun q hq g hg => one q hq g (List.mem_cons_of_mem _ hg))
      (one p before f List.mem_cons_self site) others

theorem playPass_keeps
    (one : ∀ q, holds q → ∀ f ∈ fixtures, ∀ site,
      holds ((q.prepared f).extend ((q.prepared f).recordOf f site)))
    (before : holds p) (h : playPass observe fixtures p site = (.ok o, site')) :
    ∃ p' finishedAt, holds p' ∧ o = p'.finish finishedAt := by
  obtain ⟨p', site1, played, h⟩ := Work.bind_eq_ok h
  cases h
  exact ⟨p', _, playFixtures_keeps one before played, rfl⟩

theorem playGrand_keeps {strategies : List Strategy}
    (one : ∀ q, holds q → ∀ f ∈ Schedule.roundRobin strategies, ∀ site,
      holds ((q.prepared f).extend ((q.prepared f).recordOf f site)))
    (before : ∀ startedAt, holds (.grand startedAt strategies))
    (h : playGrand observe strategies site = (.ok o, site')) :
    ∃ p' finishedAt, holds p' ∧ o = p'.finish finishedAt := by
  obtain ⟨_, _, -, h⟩ := Work.bind_eq_ok h
  obtain ⟨_, _, -, h⟩ := Work.bind_eq_ok h
  obtain ⟨_, _, -, h⟩ := Work.bind_eq_ok h
  exact playPass_keeps one (before _) h

theorem playOnSave_keeps {new : Strategy} {existing : List Strategy}
    (one : ∀ q, holds q → ∀ f ∈ Schedule.challenge new existing, ∀ site,
      holds ((q.prepared f).extend ((q.prepared f).recordOf f site)))
    (before : ∀ startedAt, holds (.onSave startedAt new))
    (h : playOnSave observe new existing site = (.ok o, site')) :
    ∃ p' finishedAt, holds p' ∧ o = p'.finish finishedAt := by
  obtain ⟨_, _, -, h⟩ := Work.bind_eq_ok h
  obtain ⟨_, _, -, h⟩ := Work.bind_eq_ok h
  obtain ⟨_, _, -, h⟩ := Work.bind_eq_ok h
  exact playPass_keeps one (before _) h

end

section

variable {R : Site → Site → Prop} [IsPreorder Site R] {observe : Observer}

theorem playFixture_within
    (said : ∀ (site : Site) (entries : List Entry),
      R site { site with host := site.host.record entries })
    (met : ∀ total f p, Work.Within R (playMatch total f p)) (total : Nat) (f : Fixture)
    (p : Pass) : Work.Within R (playFixture total f p) := by
  have ready (s : Strategy) (p : Pass) : Work.Within R (makeReady s p) := by
    refine Work.within_bind (Work.within_lift _) fun _ => ?_
    split
    · exact Work.within_pure _
    · exact Work.within_bind (fun site => said site _) fun _ => Work.within_pure _
  exact Work.within_bind (ready f.first p) fun p => Work.within_bind (ready f.second p) fun p =>
    met total f p

/-- A pass keeps what its matches, its observer and the journal keep. -/
theorem playPass_within
    (said : ∀ (site : Site) (entries : List Entry),
      R site { site with host := site.host.record entries })
    (met : ∀ total f p, Work.Within R (playMatch total f p))
    (observed : ∀ progress, Work.Within R (observe progress)) (fixtures : List Fixture)
    (p : Pass) : Work.Within R (playPass observe fixtures p) := by
  have played (total : Nat) (fixtures : List Fixture) (p : Pass) :
      Work.Within R (playFixtures observe total fixtures p) := by
    induction fixtures generalizing p with
    | nil => exact Work.within_pure _
    | cons f rest ih =>
      exact Work.within_bind (playFixture_within said met total f p) fun _ =>
        Work.within_bind (observed _) fun _ => ih _
  exact Work.within_bind (played _ _ _) fun _ => Work.within_bind Work.within_get fun _ =>
    Work.within_bind (fun site => said site _) fun _ => Work.within_pure _

theorem playGrand_within
    (said : ∀ (site : Site) (entries : List Entry),
      R site { site with host := site.host.record entries })
    (met : ∀ total f p, Work.Within R (playMatch total f p))
    (observed : ∀ progress, Work.Within R (observe progress)) (strategies : List Strategy) :
    Work.Within R (playGrand observe strategies) :=
  Work.within_bind Work.within_get fun _ => Work.within_bind (Work.within_lift _) fun _ =>
    Work.within_bind (fun site => said site _) fun _ => playPass_within said met observed _ _

theorem playOnSave_within
    (said : ∀ (site : Site) (entries : List Entry),
      R site { site with host := site.host.record entries })
    (met : ∀ total f p, Work.Within R (playMatch total f p))
    (observed : ∀ progress, Work.Within R (observe progress)) (new : Strategy)
    (existing : List Strategy) : Work.Within R (playOnSave observe new existing) :=
  Work.within_bind (Work.within_lift _) fun _ => Work.within_bind (fun site => said site _) fun _ =>
    Work.within_bind Work.within_get fun _ => playPass_within said met observed _ _

end

end Site
end IteratedDilemma
