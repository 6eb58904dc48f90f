import IteratedDilemma.Proofs.Arena.FixedPass
import IteratedDilemma.Proofs.Arena.Interleaving
import IteratedDilemma.Proofs.Arena.Names

/-! Arenas in which everybody has won what it wins when all stored strategies meet each other
(`Site.IsField`). An empty arena is one, and a save of a tree without random actions leads from one
to the next, since it adds the meetings of the newcomer (`save_isField`, `saveAll_isField`). -/
namespace IteratedDilemma
set_option autoImplicit false

open Tournament (pointsTo won)

/-! ## Sums over schedules -/

namespace Schedule

theorem map_numbered {β : Type} (g : Strategy → Strategy → β)
    (pairs : List (Strategy × Strategy)) :
    (numbered pairs).map (fun f => g f.first f.second) = pairs.map fun pair => g pair.1 pair.2 := by
  conv_rhs => rw [← sides_numbered pairs, List.map_map]
  rfl

theorem sum_roundRobin (rounds : Nat) (id : Json) (l : List Strategy) :
    ((roundRobin l).map fun f => pointsTo rounds id f.first f.second).sum = won rounds id l := by
  rw [roundRobin, map_numbered]
  rfl

theorem sum_challenge (rounds : Nat) (id : Json) {new : Strategy} {existing : List Strategy}
    (apart : ∀ s ∈ existing, s.key ≠ new.key) :
    ((challenge new existing).map fun f => pointsTo rounds id f.first f.second).sum =
      (existing.map (pointsTo rounds id new)).sum := by
  have all : (existing.filter fun s => s.key ≠ new.key) = existing :=
    List.filter_eq_self.2 fun s hs => decide_eq_true (apart s hs)
  rw [challenge, map_numbered, all, List.map_map]
  rfl

theorem pairs_map {α β : Type} (g : α → β) (l : List α) :
    pairs (l.map g) = (pairs l).map fun pair => (g pair.1, g pair.2) := by
  induction l with
  | nil => rfl
  | cons x rest ih =>
    rw [List.map_cons, pairs, pairs, ih, List.map_append, List.map_map, List.map_map]
    rfl

end Schedule

theorem Tournament.won_rescored (rounds : Nat) (id : Json) (score : Strategy → Json)
    (l : List Strategy) :
    won rounds id (l.map fun t => t.withScore (score t)) = won rounds id l := by
  rw [won, Schedule.pairs_map, List.map_map]
  rfl

/-! ## The invariant -/

namespace Site

/-- An arena in which everybody has won what it wins in the meetings with all others. -/
structure IsField (site : Site) (trees : List LogicTree) : Prop where
  trees : site.arena.store.strategies.map Strategy.tree = trees
  fixed : ∀ t ∈ site.arena.store.strategies, t.tree.usesRandom = false
  named : ∀ t ∈ site.arena.store.strategies, site.host.HasNamed t.id
  rankable : ∀ t ∈ site.arena.store.strategies, Standings.isRankable t = true
  scores : ∀ t ∈ site.arena.store.strategies,
    t.score = .int (won site.arena.rounds t.id site.arena.store.strategies)

theorem isField_empty {site : Site} (empty : site.arena.store = .empty) : site.IsField [] := by
  constructor <;> rw [empty]
  · rfl
  all_goals exact fun t ht => by cases ht

variable {site : Site} {trees : List LogicTree}

theorem IsField.ranked (field : site.IsField trees) :
    ∃ l, ranked site = (.ok l, site) ∧ l.Perm site.arena.store.strategies := by
  have all : site.arena.store.strategies.all Standings.isRankable = true :=
    List.all_eq_true.2 field.rankable
  refine ⟨Standings.sorted site.arena.store.strategies, ?_, List.mergeSort_perm _ _⟩
  rw [ranked_apply, Store.ranked, Standings.ranked, if_pos all]

theorem IsField.hasWholeScores (field : site.IsField trees) :
    site.arena.store.HasWholeScores := fun t ht => ⟨_, field.scores t ht⟩

theorem IsField.areFixed (field : site.IsField trees) {l : List Strategy}
    (perm : l.Perm site.arena.store.strategies) : AreFixed l where
  distinct := Distinct.perm site.arena.store.distinct perm.symm
  names s hs := ⟨s.id, (field.named s (perm.mem_iff.1 hs)).asName⟩
  fixed s hs := field.fixed s (perm.mem_iff.1 hs)

theorem IsField.fresh (field : site.IsField trees) {new : Strategy}
    (next : new.id = Host.strategyId site.host.strategiesNamed) :
    ∀ s ∈ site.arena.store.strategies, s.key ≠ new.key :=
  fun s hs => (field.named s hs).key_ne_next next

end Site

theorem Store.unknown_eq_nil {s : Store} {o : Outcome} {points : Tally Int}
    (deltas : o.deltas = points.toJson)
    (known : ∀ id ∈ points.ids, ∃ t ∈ s.strategies, t.key = id.key) : s.unknown o = [] := by
  refine unknown_eq_nil_iff.2 fun id hid => ?_
  rw [deltas, Tally.ids_toJson] at hid
  obtain ⟨t, ht, e⟩ := known id hid
  exact e ▸ List.mem_map_of_mem ht

/-! ## Saving -/

theorem requiredName_text {name : Text} (h : name.trimmed ≠ []) :
    requiredName (.text name) = .ok name.trimmed := by
  have given : name ≠ [] := by
    intro e
    rw [e] at h
    exact h rfl
  have truthy : (Json.text name).isTruthy = true := by
    simpa [Json.isTruthy] using given
  have rest : name.trimmed.isEmpty = false := by simpa using h
  unfold requiredName
  rw [if_pos truthy]
  change (if name.trimmed.isEmpty then throw .blankName else return name.trimmed :
    Except Fault Text) = _
  rw [rest]
  rfl

theorem requiredName_blank {name : Text} (h : name.trimmed = []) :
    requiredName (.text name) = .error .blankName := by
  have nothing : stripped (.text name) = .ok [] := congrArg Except.ok h
  unfold requiredName
  rw [nothing]
  split <;> rfl

/-- A save under a blank name does nothing. -/
theorem Site.saveStrategy_of_blank {name : Text} (blank : name.trimmed = []) (observe : Observer)
    (tree : LogicTree) (authorId author : Json) (site : Site) :
    saveStrategy observe (.text name) tree authorId author site = (.error .blankName, site) := by
  unfold saveStrategy beginSave
  rw [requiredName_blank blank]
  rfl

theorem displayName_text (author authorId : Option Text) :
    ∃ shown, displayName (.ofOption author) (.ofOption authorId) = .ok shown := by
  have byId : ∃ shown, defaultDisplayName (.ofOption authorId) = .ok shown := by
    unfold defaultDisplayName
    rcases authorId with _ | _ | ⟨c, rest⟩ <;> exact ⟨_, rfl⟩
  obtain ⟨shown, byId⟩ := byId
  unfold displayName
  rw [byId]
  rcases author with _ | _ | ⟨c, rest⟩
  · exact ⟨shown, rfl⟩
  · exact ⟨shown, rfl⟩
  · change ∃ t, (if (Text.trimmed (c :: rest)).isEmpty then Except.ok shown
      else Except.ok (Text.trimmed (c :: rest))) = .ok t
    split <;> exact ⟨_, rfl⟩

namespace Site

/-- After a save everybody has won its meeting with the newcomer as well, and the newcomer its
meetings with all. -/
theorem isField_credited {site site' : Site} {trees : List LogicTree} (field : site.IsField trees)
    {new : Strategy} (next : new.id = Host.strategyId site.host.strategiesNamed)
    (score : new.score = .int 0) (fixed : new.tree.usesRandom = false)
    (rankable : Standings.isRankable new = true) {opponents : List Strategy}
    (perm : opponents.Perm site.arena.store.strategies) {p' : Pass} {startedAt : Timestamp}
    (met : (Pass.onSave startedAt new).HasMet site.arena.rounds
      (Schedule.challenge new opponents) p')
    (rounds : site'.arena.rounds = site.arena.rounds)
    (names : site'.host.strategiesNamed = site.host.strategiesNamed + 1)
    (store : site'.arena.store =
      ((site.arena.store.add new).credited p'.deltas).append p'.records.reverse) :
    site'.IsField (trees ++ [new.tree]) := by
  have apart := field.fresh next
  obtain ⟨l, hl⟩ : ∃ l, l = site.arena.store.strategies := ⟨_, rfl⟩
  rw [← hl] at apart perm
  -- what the pass has counted are the meetings with the newcomer
  have points : ∀ id, (p'.deltas.points? id).getD 0 =
      (l.map (pointsTo site.arena.rounds id new)).sum := by
    intro id
    have balanced := met.balanced (Pass.isBalanced_onSave startedAt new)
    have others : ∀ s ∈ opponents, s.key ≠ new.key := fun s hs => apart s (perm.mem_iff.1 hs)
    have sum := Schedule.sum_challenge site.arena.rounds id others
    rw [balanced.points, met.earned, sum, (perm.map _).sum_eq]
    exact Int.zero_add _
  have before : ∀ t ∈ l ++ [new], t.score = .int (won site.arena.rounds t.id l) := by
    intro t ht
    rcases List.mem_append.1 ht with ht | ht
    · rw [hl] at ht ⊢
      exact field.scores t ht
    · have absent : ∀ s ∈ l, s.id.same new.id = false := fun s hs => decide_eq_false (apart s hs)
      rw [List.mem_singleton.1 ht, score, Tournament.won_of_absent absent]
  have strategies : site'.arena.store.strategies = (l ++ [new]).map fun t =>
      t.withScore (.int (t.score.toInt?.getD 0 + (p'.deltas.points? t.id).getD 0)) := by
    have added : (site.arena.store.add new).strategies = l ++ [new] := by
      rw [hl] at apart ⊢
      exact Store.place_of_absent apart
    rw [store, ← added]
    rfl
  have kept : ∀ t' ∈ site'.arena.store.strategies, ∃ t ∈ l ++ [new],
      t' = t.withScore (.int (t.score.toInt?.getD 0 + (p'.deltas.points? t.id).getD 0)) := by
    intro t' ht'
    rw [strategies] at ht'
    obtain ⟨t, ht, e⟩ := List.mem_map.1 ht'
    exact ⟨t, ht, e.symm⟩
  constructor
  · rw [strategies, ← field.trees, ← hl, List.map_map, ← List.map_singleton, ← List.map_append]
    rfl
  · intro t' ht'
    obtain ⟨t, ht, rfl⟩ := kept t' ht'
    rcases List.mem_append.1 ht with ht | ht
    · exact field.fixed t (hl ▸ ht)
    · rw [List.mem_singleton.1 ht]
      exact fixed
  · intro t' ht'
    obtain ⟨t, ht, rfl⟩ := kept t' ht'
    rcases List.mem_append.1 ht with ht | ht
    · exact (field.named t (hl ▸ ht)).mono (by omega)
    · rw [List.mem_singleton.1 ht]
      exact ⟨site.host.strategiesNamed, by omega, next⟩
  · intro t' ht'
    obtain ⟨t, ht, rfl⟩ := kept t' ht'
    rcases List.mem_append.1 ht with ht | ht
    · exact field.rankable t (hl ▸ ht)
    · rw [List.mem_singleton.1 ht]
      exact rankable
  · intro t' ht'
    obtain ⟨t, ht, rfl⟩ := kept t' ht'
    change Json.int _ = .int (won site'.arena.rounds t.id _)
    rw [strategies, Tournament.won_rescored, rounds, Tournament.won_concat, before t ht, points]
    rfl

theorem applyOutcome_counted {site : Site} (whole : site.arena.store.HasWholeScores) {p : Pass}
    (known : ∀ id ∈ p.deltas.ids, ∃ t ∈ site.arena.store.strategies, t.key = id.key)
    (finishedAt : Timestamp) :
    Settles site site.host ((site.arena.store.credited p.deltas).append p.records.reverse) ()
      (applyOutcome (p.finish finishedAt) site) := by
  have deltas : (p.finish finishedAt).deltas = p.deltas.toJson := rfl
  refine applyOutcome_settles ?_
  rw [Store.apply_eq whole deltas, if_pos (Store.unknown_eq_nil deltas known)]
  rfl

/-- Saves one request after another. -/
def saveAll (observe : Observer) : List SaveRequest → Work Site Unit
  | [] => return ()
  | q :: rest => do
    let _ ← save observe q
    saveAll observe rest

variable {observe : Observer}

theorem beginSave_eq {site : Site} {opponents : List Strategy}
    (h : ranked site = (.ok opponents, site)) {q : SaveRequest} (named : q.name.trimmed ≠ [])
    {author : Text}
    (shown : displayName (.ofOption q.author) (.ofOption q.authorId) = .ok author) :
    beginSave (.text q.name) q.tree (.ofOption q.authorId) (.ofOption q.author) site =
      (do
        let strategy ← addStrategy (.text q.name.trimmed) q.tree (.ofOption q.authorId)
          (.text author)
        return ⟨strategy, opponents⟩ : Work Site PendingSave) site := by
  unfold beginSave
  rw [requiredName_text named, shown]
  exact Work.bind_of_ok h

/-- The pass of a strategy that has just been stored in a field ends in the next field; it fails
only in an arena with a file. -/
theorem finishSave_isField (quiet : observe.IsQuiet) {site : Site} {trees : List LogicTree}
    (field : site.IsField trees) {new : Strategy}
    (next : new.id = Host.strategyId site.host.strategiesNamed) (score : new.score = .int 0)
    (fixed : new.tree.usesRandom = false) (rankable : Standings.isRankable new = true)
    {opponents : List Strategy} (perm : opponents.Perm site.arena.store.strategies) {host : Host}
    (names : host.strategiesNamed = site.host.strategiesNamed + 1) :
    (∃ saved site', finishSave observe ⟨new, opponents⟩
        (site.after host (site.arena.store.add new)) = (.ok saved, site') ∧
      site'.IsField (trees ++ [new.tree]) ∧ site'.arena.rounds = site.arena.rounds ∧
      site'.arena.file = site.arena.file) ∨
    ∃ fault site', finishSave observe ⟨new, opponents⟩
      (site.after host (site.arena.store.add new)) = (.error fault, site') ∧
        site.arena.file ≠ none := by
  have name : new.id.asName = .ok new.id := by rw [next]; rfl
  have among := (field.areFixed perm).entrants ⟨_, name⟩ fixed
  obtain ⟨p', site2, played, met, undisturbed⟩ :=
    playOnSave_fixed quiet among (site.after host (site.arena.store.add new))
  have store2 : site2.arena.store = site.arena.store.add new := by rw [undisturbed.arena]; rfl
  have rounds2 : site2.arena.rounds = site.arena.rounds := by rw [undisturbed.arena]; rfl
  have file2 : site2.arena.file = site.arena.file := by rw [undisturbed.arena]; rfl
  have added : (site.arena.store.add new).strategies =
      site.arena.store.strategies ++ [new] := Store.place_of_absent (field.fresh next)
  have whole : site2.arena.store.HasWholeScores := by
    intro t ht
    rw [store2, added] at ht
    rcases List.mem_append.1 ht with ht | ht
    · exact field.hasWholeScores t ht
    · exact ⟨0, List.mem_singleton.1 ht ▸ score⟩
  -- the pass counts its entrants only, and all of them are stored by now
  have known : ∀ id ∈ p'.deltas.ids, ∃ t ∈ site2.arena.store.strategies, t.key = id.key := by
    intro id hid
    obtain ⟨s, hs, rfl⟩ := met.counted_entrant (fun f hf => Schedule.challenge_isAmong hf)
      (fun other hother => ⟨new, List.mem_cons_self, (List.mem_singleton.1 hother).symm⟩) id hid
    rw [store2, added]
    rcases List.mem_cons.1 hs with rfl | hs
    · exact ⟨s, List.mem_append_right _ (List.mem_singleton_self s), rfl⟩
    · have there := perm.mem_iff.1 (List.mem_filter.1 hs).1
      exact ⟨s, List.mem_append_left _ there, rfl⟩
  obtain ⟨host', names', -, committed⟩ | ⟨fault, host', -, -, unwritable, failed⟩ :=
    applyOutcome_counted whole known (site.after host (site.arena.store.add new)).host.universalNow
  · refine .inl ⟨_, _, (Work.bind_of_ok played).trans (Work.bind_of_ok committed), ?_, rounds2, file2⟩
    refine isField_credited field next score fixed rankable perm met rounds2 ?_ ?_
    · rw [after_host, names'.strategies, undisturbed.strategies]
      exact names
    · rw [after_store, store2]
  · refine .inr ⟨fault, _, (Work.bind_of_ok played).trans (Work.bind_of_error failed), ?_⟩
    rw [← file2]
    exact unwritable.file

theorem save_isField (quiet : observe.IsQuiet) {site : Site} {trees : List LogicTree}
    (field : site.IsField trees) {q : SaveRequest} (named : q.name.trimmed ≠ [])
    (fixed : q.tree.usesRandom = false) :
    (∃ saved site', save observe q site = (.ok saved, site') ∧
      site'.IsField (trees ++ [q.tree]) ∧ site'.arena.rounds = site.arena.rounds ∧
      site'.arena.file = site.arena.file) ∨
    ∃ fault site', save observe q site = (.error fault, site') ∧ site.arena.file ≠ none := by
  obtain ⟨opponents, ranked, perm⟩ := field.ranked
  obtain ⟨author, shown⟩ := displayName_text q.author q.authorId
  have begun := beginSave_eq ranked named shown
  obtain ⟨host, names, -, stored⟩ | ⟨fault, host, -, -, unwritable, failed⟩ :=
    site.addStrategy_settles (.text q.name.trimmed) q.tree (.ofOption q.authorId) (.text author)
  · have saved : save observe q site = finishSave observe _ _ :=
      Work.bind_of_ok (begun.trans (Work.bind_of_ok stored))
    have rankable := site.isRankable_newcomer (.text q.name.trimmed) q.tree (.ofOption q.authorId)
      (.text author)
    rw [saved]
    exact finishSave_isField quiet field rfl rfl fixed rankable perm names.strategies
  · exact .inr ⟨fault, _, Work.bind_of_error (begun.trans (Work.bind_of_error failed)),
      unwritable.file⟩

/-- Requests that can be saved and whose trees use no random action. -/
def AreFit (requests : List SaveRequest) : Prop :=
  ∀ q ∈ requests, q.name.trimmed ≠ [] ∧ q.tree.usesRandom = false

theorem saveAll_isField (quiet : observe.IsQuiet) {requests : List SaveRequest}
    (fit : AreFit requests) {site : Site} {trees : List LogicTree} (field : site.IsField trees) :
    (∃ site', saveAll observe requests site = (.ok (), site') ∧
      site'.IsField (trees ++ requests.map SaveRequest.tree) ∧
      site'.arena.rounds = site.arena.rounds) ∨
    ∃ fault site', saveAll observe requests site = (.error fault, site') ∧
      site.arena.file ≠ none := by
  induction requests generalizing site trees with
  | nil =>
    refine .inl ⟨site, rfl, ?_, rfl⟩
    rw [List.map_nil, List.append_nil]
    exact field
  | cons q rest ih =>
    obtain ⟨named, fixed⟩ := fit q List.mem_cons_self
    obtain ⟨saved, site1, one, field1, rounds1, file1⟩ | ⟨fault, site1, failed, file⟩ :=
      save_isField quiet field named fixed
    · obtain ⟨site', later, field', rounds'⟩ | ⟨fault, site', failed, file⟩ :=
        ih (fun r hr => fit r (List.mem_cons_of_mem _ hr)) field1
      · refine .inl ⟨site', (Work.bind_of_ok one).trans later, ?_, rounds'.trans rounds1⟩
        rw [List.append_assoc] at field'
        exact field'
      · exact .inr ⟨fault, site', (Work.bind_of_ok one).trans failed, file1 ▸ file⟩
    · exact .inr ⟨fault, site1, Work.bind_of_error failed, file⟩

end Site
end IteratedDilemma
