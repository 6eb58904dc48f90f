import IteratedDilemma.Proofs.Arena.Interleaving
import IteratedDilemma.Proofs.Arena.Names
import IteratedDilemma.Proofs.Match.Transcript

/-! Logs that are faithful: every record says what the trees now stored under its two identifiers
have played. The invariant of a store is `Store.IsSound`; a pass under way keeps it because whoever
is stored under the identifier of one of its entrants has the entrant's tree (`Site.Knows`). Main
statements: a step of a caller keeps the store sound (`Scene.Act.isSound_store`), and what the
callers hold (`Scene.Act.isSound_caller`). -/
namespace IteratedDilemma
set_option autoImplicit false

/-! ## Faithful records -/

/-- A record of a match between two of some strategies, under their identifiers. -/
def MatchRecord.IsFaithful (r : MatchRecord) (strategies : List Strategy) : Prop :=
  ∃ s1 ∈ strategies, ∃ s2 ∈ strategies, s1.id = r.first.id ∧ s2.id = r.second.id ∧
    r.IsTranscript s1.tree s2.tree

theorem MatchRecord.IsFaithful.mono {r : MatchRecord} {strategies others : List Strategy}
    (faithful : r.IsFaithful strategies)
    (kept : ∀ s ∈ strategies, s.id = r.first.id ∨ s.id = r.second.id →
      ∃ t ∈ others, t.id = s.id ∧ t.tree = s.tree) :
    r.IsFaithful others := by
  obtain ⟨s1, h1, s2, h2, e1, e2, transcript⟩ := faithful
  obtain ⟨t1, there1, id1, tree1⟩ := kept s1 h1 (.inl e1)
  obtain ⟨t2, there2, id2, tree2⟩ := kept s2 h2 (.inr e2)
  refine ⟨t1, there1, t2, there2, id1.trans e1, id2.trans e2, ?_⟩
  rw [tree1, tree2]
  exact transcript

/-! ## Sound stores -/

namespace Store

/-- A store of an arena on a host: its identifiers are those that the host has given, a document can
hold it, and its log is faithful. -/
structure IsSound (s : Store) (host : Host) : Prop where
  named : ∀ t ∈ s.strategies, host.HasNamed t.id
  storable : s.IsStorable
  faithful : ∀ r ∈ s.records, r.IsFaithful s.strategies

theorem isSound_empty (host : Host) : IsSound .empty host where
  named t ht := by cases ht
  storable := ⟨fun t ht => (by cases ht), fun r hr => (by cases hr)⟩
  faithful r hr := by cases hr

theorem IsSound.mono {s : Store} {host host' : Host} (h : s.IsSound host)
    (le : host.strategiesNamed ≤ host'.strategiesNamed) : s.IsSound host' :=
  ⟨fun t ht => (h.named t ht).mono le, h.storable, h.faithful⟩

theorem IsSound.hasWholeScores {s : Store} {host : Host} (h : s.IsSound host) :
    s.HasWholeScores := fun t ht => (h.storable.strategies t ht).score

theorem isSound_rescore {s : Store} {host : Host} (h : s.IsSound host) {score : Strategy → Json}
    (whole : ∀ t ∈ s.strategies, ∃ n, score t = .int n) : (s.rescore score).IsSound host where
  named t ht := by
    obtain ⟨u, hu, rfl⟩ := List.mem_map.1 ht
    exact h.named u hu
  storable := by
    refine ⟨fun t ht => ?_, h.storable.records⟩
    obtain ⟨u, hu, rfl⟩ := List.mem_map.1 ht
    have storable := h.storable.strategies u hu
    exact ⟨storable.id, storable.name, storable.author, storable.authorId, whole u hu,
      storable.createdAt⟩
  faithful r hr := by
    refine (h.faithful r hr).mono fun s hs _ => ?_
    exact ⟨s.withScore (score s), List.mem_map_of_mem hs, rfl, rfl⟩

theorem isSound_append {s : Store} {host : Host} (h : s.IsSound host) {records : List MatchRecord}
    (storable : ∀ r ∈ records, r.IsStorable)
    (faithful : ∀ r ∈ records, r.IsFaithful s.strategies) : (s.append records).IsSound host where
  named := h.named
  storable := by
    refine ⟨h.storable.strategies, fun r hr => ?_⟩
    rcases List.mem_append.1 hr with hr | hr
    · exact h.storable.records r hr
    · exact storable r hr
  faithful r hr := by
    rcases List.mem_append.1 hr with hr | hr
    · exact h.faithful r hr
    · exact faithful r hr

theorem isSound_add {s : Store} {host host' : Host} (h : s.IsSound host) {new : Strategy}
    (next : new.id = Host.strategyId host.strategiesNamed) (storable : new.IsStorable)
    (named : host'.strategiesNamed = host.strategiesNamed + 1) : (s.add new).IsSound host' := by
  have absent : ∀ t ∈ s.strategies, t.key ≠ new.key :=
    fun t ht => (h.named t ht).key_ne_next next
  have added : (s.add new).strategies = s.strategies ++ [new] := place_of_absent absent
  refine ⟨fun t ht => ?_, ⟨fun t ht => ?_, h.storable.records⟩, fun r hr => ?_⟩
  · rw [added] at ht
    rcases List.mem_append.1 ht with ht | ht
    · exact (h.named t ht).mono (by omega)
    · rw [List.mem_singleton.1 ht, next]
      exact ⟨host.strategiesNamed, by omega, rfl⟩
  · rw [added] at ht
    rcases List.mem_append.1 ht with ht | ht
    · exact h.storable.strategies t ht
    · rw [List.mem_singleton.1 ht]
      exact storable
  · refine (h.faithful r hr).mono fun t ht _ => ?_
    rw [added]
    exact ⟨t, List.mem_append_left _ ht, rfl, rfl⟩

end Store

/-! ## Passes under way -/

namespace Site

/-- A strategy that the host has named. Whoever is stored under its identifier has its tree. -/
structure Knows (site : Site) (s : Strategy) : Prop where
  named : site.host.HasNamed s.id
  storable : s.IsStorable
  tree : ∀ t ∈ site.arena.store.strategies, t.id = s.id → t.tree = s.tree

/-- The host has forgotten no name, and no tree has come under one of its names. -/
structure Recalls (site site' : Site) : Prop where
  names : site.host.strategiesNamed ≤ site'.host.strategiesNamed
  trees : ∀ t ∈ site'.arena.store.strategies, site.host.HasNamed t.id →
    ∃ u ∈ site.arena.store.strategies, u.id = t.id ∧ u.tree = t.tree

theorem Knows.mono {site site' : Site} {s : Strategy} (knows : site.Knows s)
    (recalls : site.Recalls site') : site'.Knows s where
  named := knows.named.mono recalls.names
  storable := knows.storable
  tree t ht e := by
    obtain ⟨u, hu, id, tree⟩ := recalls.trees t ht (by rw [e]; exact knows.named)
    rw [← tree]
    exact knows.tree u hu (id.trans e)

theorem knows_of_mem {site : Site} (sound : site.arena.store.IsSound site.host) {s : Strategy}
    (hs : s ∈ site.arena.store.strategies) : site.Knows s where
  named := sound.named s hs
  storable := sound.storable.strategies s hs
  tree t ht e := by
    have key : t.key = s.key := congrArg Json.key e
    rw [List.inj_on_of_nodup_map site.arena.store.distinct ht hs key]

end Site

/-- A pass under way between strategies that a site knows: what it has recorded is faithful to them,
and what is left to play is between them. -/
structure Pass.IsSound (p : Pass) (site : Site) (entrants : List Strategy) (left : List Fixture) :
    Prop where
  distinct : Distinct entrants
  known : ∀ s ∈ entrants, site.Knows s
  left : ∀ f ∈ left, f.IsAmong entrants
  roster : ∀ s ∈ p.roster, s ∈ entrants
  balanced : p.IsBalanced
  storable : ∀ r ∈ p.records, r.IsStorable
  faithful : ∀ r ∈ p.records, r.IsFaithful entrants

/-- What a caller holds is sound: the opponents that it has looked up, or the pass that it plays. -/
def Caller.IsSound (c : Caller) (site : Site) : Prop :=
  match c.stage with
  | .looked _ _ _ _ opponents => Distinct opponents ∧ ∀ s ∈ opponents, site.Knows s
  | .playing _ left p => ∃ entrants, p.IsSound site entrants left
  | .admitted | .done => True

theorem Pass.IsSound.mono {p : Pass} {site site' : Site} {entrants : List Strategy}
    {left : List Fixture} (sound : p.IsSound site entrants left) (recalls : site.Recalls site') :
    p.IsSound site' entrants left :=
  { sound with known := fun s hs => (sound.known s hs).mono recalls }

theorem Caller.IsSound.mono {c : Caller} {site site' : Site} (sound : c.IsSound site)
    (recalls : site.Recalls site') : c.IsSound site' := by
  unfold Caller.IsSound at sound ⊢
  split
  · next looked =>
    rw [looked] at sound
    exact ⟨sound.1, fun s hs => (sound.2 s hs).mono recalls⟩
  · next playing =>
    rw [playing] at sound
    obtain ⟨entrants, sound⟩ := sound
    exact ⟨entrants, sound.mono recalls⟩
  · trivial
  · trivial

namespace Pass

variable {p : Pass} {site : Site} {entrants : List Strategy} {left : List Fixture}
  {f : Fixture}

theorem isStorable_recordOf (sound : p.IsSound site entrants (f :: left)) :
    ((p.prepared f).recordOf f site).IsStorable where
  first := by
    have storable := (sound.known _ (sound.left f List.mem_cons_self).first).storable
    exact ⟨storable.id, storable.name, storable.author⟩
  second := by
    have storable := (sound.known _ (sound.left f List.mem_cons_self).second).storable
    exact ⟨storable.id, storable.name, storable.author⟩
  playedAt := Timestamp.survives_of_offset_zero site.host.universalNow_offset

/-- The sides of a fixture are played by their own trees, whatever has been made ready before. -/
theorem isFaithful_recordOf (sound : p.IsSound site entrants (f :: left)) :
    ((p.prepared f).recordOf f site).IsFaithful entrants := by
  have among := sound.left f List.mem_cons_self
  have roster := roster_prepared among sound.roster
  have first := player_eq sound.distinct roster among.first
  have second := player_eq sound.distinct roster among.second
  refine ⟨f.first, among.first, f.second, among.second, rfl, rfl, ?_⟩
  refine MatchRecord.isTranscript_ofMatch ?_ _ _ _ _
  rw [played, first, second]
  exact Match.isPlayed_play f.first f.second site.arena.rounds site.arena.source

theorem isSound_extend (sound : p.IsSound site entrants (f :: left)) :
    ((p.prepared f).extend ((p.prepared f).recordOf f site)).IsSound site entrants left where
  distinct := sound.distinct
  known := sound.known
  left g hg := sound.left g (List.mem_cons_of_mem _ hg)
  roster := roster_prepared (sound.left f List.mem_cons_self) sound.roster
  balanced := isBalanced_extend (isBalanced_prepared sound.balanced f) _
  storable r hr := by
    rcases List.mem_cons.1 hr with rfl | hr
    · exact isStorable_recordOf sound
    · rw [prepared_records] at hr
      exact sound.storable r hr
  faithful r hr := by
    rcases List.mem_cons.1 hr with rfl | hr
    · exact isFaithful_recordOf sound
    · rw [prepared_records] at hr
      exact sound.faithful r hr

/-- A side of a recorded match is stored with its tree, if everybody who has counted points is
stored. -/
theorem exists_stored (sound : p.IsSound site entrants left)
    (store : site.arena.store.IsSound site.host) {finishedAt : Timestamp}
    (known : site.arena.store.unknown (p.finish finishedAt) = []) {r : MatchRecord}
    (hr : r ∈ p.records) {s : Strategy} (hs : s ∈ entrants)
    (side : s.id = r.first.id ∨ s.id = r.second.id) :
    ∃ t ∈ site.arena.store.strategies, t.id = s.id ∧ t.tree = s.tree := by
  have counted : (p.deltas.points? s.id).isSome := by
    obtain ⟨first, second⟩ := sound.balanced.counted r hr
    rcases side with e | e <;> rw [e]
    · exact first
    · exact second
  obtain ⟨t, ht, key⟩ := Store.exists_of_unknown_eq_nil rfl known counted
  have id : t.id = s.id := by
    rw [← (store.named t ht).key, ← (sound.known s hs).named.key]
    exact key
  exact ⟨t, ht, id, (sound.known s hs).tree t ht id⟩

end Pass

/-! ## Steps -/

namespace Scene

variable {site site' : Site} {c c' : Option Caller} {e : Option Event}

theorem Act.recalls (h : Act site c e site' c') : site.Recalls site' := by
  refine ⟨h.steady.strategies, fun t ht named => ?_⟩
  have change := h.store_change
  -- only a strategy under a new identifier comes, so what was known keeps its tree
  rcases e with _ | new | records | _ | _
  · have same : site'.arena.store = site.arena.store := change
    rw [same] at ht
    exact ⟨t, ht, rfl, rfl⟩
  · obtain ⟨⟨_, _, _, _, rfl⟩, added⟩ := change
    rw [added] at ht
    rcases Store.mem_place site.arena.store.distinct ht with rfl | ⟨ht, -⟩
    · exact absurd named (Host.not_hasNamed_next _)
    · exact ⟨t, ht, rfl, rfl⟩
  · obtain ⟨_, _, p, _, -, -, applied⟩ := change
    obtain ⟨-, score, rescored⟩ := Store.apply_ok applied
    rw [rescored] at ht
    obtain ⟨u, hu, rfl⟩ := List.mem_map.1 ht
    exact ⟨u, hu, rfl, rfl⟩
  · have rescored : site'.arena.store = site.arena.store.reset := change
    rw [rescored] at ht
    obtain ⟨u, hu, rfl⟩ := List.mem_map.1 ht
    exact ⟨u, hu, rfl, rfl⟩
  · have cleared : site'.arena.store = .empty := change
    rw [cleared] at ht
    cases ht

/-- A pass that is taken over leaves a sound store: all of its entrants that have played are stored
with the trees that have played. -/
theorem isSound_commit {p : Pass} {entrants : List Strategy} {left : List Fixture}
    (sound : p.IsSound site entrants left) (store : site.arena.store.IsSound site.host)
    {finishedAt : Timestamp} {s : Store}
    (h : site.arena.store.apply (p.finish finishedAt) = .ok s) : s.IsSound site.host := by
  obtain ⟨known, -⟩ := Store.apply_ok h
  rw [Store.apply_eq store.hasWholeScores rfl, if_pos known] at h
  cases h
  have credited : (site.arena.store.credited p.deltas).IsSound site.host :=
    Store.isSound_rescore store fun t _ => ⟨_, rfl⟩
  refine Store.isSound_append credited (fun r hr => ?_) fun r hr => ?_
  · exact sound.storable r (List.mem_reverse.1 hr)
  · have hr := List.mem_reverse.1 hr
    refine (sound.faithful r hr).mono fun s hs side => ?_
    -- the store would have refused the pass if one of its sides had been cleared away
    obtain ⟨t, ht, id, tree⟩ := Pass.exists_stored sound store known hr hs side
    exact ⟨_, List.mem_map_of_mem ht, id, tree⟩

theorem Act.isSound_store (h : Act site c e site' c')
    (store : site.arena.store.IsSound site.host) (caller : ∀ d ∈ c, d.IsSound site) :
    site'.arena.store.IsSound site'.host := by
  have names := h.steady.strategies
  have change := h.store_change
  rcases e with _ | new | records | _ | _
  · have same : site'.arena.store = site.arena.store := change
    rw [same]
    exact store.mono names
  · cases h with
    | store startedAt h =>
      obtain ⟨host', same, -, e⟩ | ⟨_, _, -, -, -, e⟩ :=
        (site.addStrategy_settles _ _ _ _).of_eq h
      · cases e
        exact Store.isSound_add store rfl (site.isStorable_newcomer _ _ _ _) same.strategies
      · cases e
  · obtain ⟨_, _, p, finishedAt, rfl, rfl, applied⟩ := change
    obtain ⟨entrants, sound⟩ := caller _ rfl
    exact (isSound_commit sound store applied).mono names
  · have rescored : site'.arena.store = site.arena.store.reset := change
    rw [rescored]
    exact (Store.isSound_rescore store fun t _ => ⟨0, rfl⟩).mono names
  · have cleared : site'.arena.store = .empty := change
    rw [cleared]
    exact Store.isSound_empty _

theorem known_of_ranked {strategies : List Strategy} (store : site.arena.store.IsSound site.host)
    (h : Site.ranked site = (.ok strategies, site')) :
    Distinct strategies ∧ ∀ s ∈ strategies, site.Knows s := by
  have perm := Store.perm_of_ranked (Site.ranked_eq h).1.symm
  refine ⟨Distinct.perm site.arena.store.distinct perm.symm, fun s hs => ?_⟩
  exact Site.knows_of_mem store (perm.mem_iff.1 hs)

theorem isSound_onSave {new : Strategy} {opponents : List Strategy} (distinct : Distinct opponents)
    (known : ∀ s ∈ opponents, site.Knows s) (stored : site.Knows new) (startedAt : Timestamp) :
    (Pass.onSave startedAt new).IsSound site (Schedule.entrants new opponents)
      (Schedule.challenge new opponents) where
  distinct := Schedule.entrants_distinct new distinct
  known s hs := by
    rcases List.mem_cons.1 hs with rfl | hs
    · exact stored
    · exact known s (List.mem_filter.1 hs).1
  left f hf := Schedule.challenge_isAmong hf
  roster s hs := by cases hs
  balanced := Pass.isBalanced_onSave startedAt new
  storable r hr := by cases hr
  faithful r hr := by cases hr

theorem isSound_grand {strategies : List Strategy} (distinct : Distinct strategies)
    (known : ∀ s ∈ strategies, site.Knows s) (startedAt : Timestamp) :
    (Pass.grand startedAt strategies).IsSound site strategies
      (Schedule.roundRobin strategies) where
  distinct := distinct
  known := known
  left f hf := Schedule.roundRobin_isAmong distinct hf
  roster s hs := by cases hs
  balanced := Pass.isBalanced_grand startedAt strategies
  storable r hr := by cases hr
  faithful r hr := by cases hr

theorem Act.isSound_caller (h : Act site c e site' c')
    (store : site.arena.store.IsSound site.host) (caller : ∀ d ∈ c, d.IsSound site) :
    ∀ d ∈ c', d.IsSound site' := by
  have store' := h.isSound_store store caller
  have recalls := h.recalls
  intro d hd
  cases h with
  | look _ _ h =>
    cases hd
    obtain ⟨distinct, known⟩ := known_of_ranked store h
    exact ⟨distinct, fun s hs => (known s hs).mono recalls⟩
  | @store _ _ _ _ _ opponents new startedAt h =>
    cases hd
    obtain ⟨distinct, known⟩ := caller _ rfl
    have there : new ∈ site'.arena.store.strategies := by
      have settles := (site.addStrategy_settles _ _ _ _).of_eq h
      rw [settles.store_of_ok.2, ← settles.store_of_ok.1]
      exact Store.mem_place_self _ _
    have stored := Site.knows_of_mem store' there
    exact ⟨_, isSound_onSave distinct (fun s hs => (known s hs).mono recalls) stored startedAt⟩
  | muster startedAt h _ =>
    cases hd
    obtain ⟨distinct, known⟩ := known_of_ranked store h
    exact ⟨_, isSound_grand distinct (fun s hs => (known s hs).mono recalls) startedAt⟩
  | play h =>
    cases hd
    obtain ⟨entrants, sound⟩ := caller _ rfl
    obtain ⟨rfl, rfl, -⟩ := Site.playFixture_ok h
    exact ⟨entrants, (Pass.isSound_extend sound).mono recalls⟩
  | storeFails | claim | commit | commitFails | reset | resetFails | clear | clearFails =>
    cases hd
    trivial
  | release | leave => cases hd

/-! ## Everybody at once -/

/-- The store of an arena is sound, and so is what its callers hold. -/
def AreSound (site : Site) (callers : List Caller) : Prop :=
  site.arena.store.IsSound site.host ∧ ∀ c ∈ callers, c.IsSound site

theorem areSound_act {before after : List Caller} (h : Act site c e site' c')
    (sound : AreSound site (before ++ c.toList ++ after)) :
    AreSound site' (before ++ c'.toList ++ after) := by
  obtain ⟨store, callers⟩ := sound
  have caller : ∀ d ∈ c, d.IsSound site := fun d hd =>
    callers d (by simp only [List.mem_append, Option.mem_toList]; tauto)
  have others : ∀ d, d ∈ before ∨ d ∈ after → d.IsSound site' := fun d hd =>
    (callers d (by simp only [List.mem_append]; tauto)).mono h.recalls
  refine ⟨h.isSound_store store caller, fun d hd => ?_⟩
  simp only [List.mem_append, Option.mem_toList] at hd
  rcases hd with (hd | hd) | hd
  · exact others d (.inl hd)
  · exact h.isSound_caller store caller d hd
  · exact others d (.inr hd)

theorem Aside.recalls (h : Aside site site') : site.Recalls site' where
  names := h.strategies
  trees t ht _ := by
    rw [h.store] at ht
    exact ⟨t, ht, rfl, rfl⟩

theorem areSound_aside {callers : List Caller} (h : Aside site site')
    (sound : AreSound site callers) : AreSound site' callers := by
  refine ⟨?_, fun d hd => (sound.2 d hd).mono h.recalls⟩
  have store := sound.1.mono h.strategies
  rw [← h.store] at store
  exact store

theorem areSound_empty (empty : site.arena.store = .empty) : AreSound site [] := by
  refine ⟨?_, fun c hc => by cases hc⟩
  rw [empty]
  exact Store.isSound_empty _

end Scene
end IteratedDilemma
