import IteratedDilemma.Proofs.Arena.Grand

/-! Saving one after another and a grand tournament come to the same scores, if no tree uses a
random action (`saves_agree_with_grand`): a grand tournament plays the meetings that the saves have
played, from other sides and in another order. -/
namespace IteratedDilemma
set_option autoImplicit false

open Tournament (prize prize_of_mem prize_perm share)

namespace Site

variable {observe : Observer}

/-! ## The grand tournament -/

theorem IsField.scores_of_prizes {site : Site} {trees : List LogicTree} (field : site.IsField trees)
    {points : Tally Int} (prizes : ∀ id,
      points.points? id = prize site.arena.rounds site.arena.store.strategies id) :
    ∀ t ∈ site.arena.store.strategies, t.score = .int ((points.points? t.id).getD 0) := by
  intro t ht
  rw [prizes, prize_of_mem ht]
  exact field.scores t ht

/-- In a field everybody has exactly the points that a grand tournament finds for it. -/
theorem playGrand_isField (quiet : observe.IsQuiet) {site : Site} {trees : List LogicTree}
    (field : site.IsField trees) {strategies : List Strategy}
    (perm : strategies.Perm site.arena.store.strategies) :
    ∃ (p' : Pass) (site' : Site), playGrand observe strategies site =
        (.ok (p'.finish site.host.universalNow), site') ∧ Undisturbed site site' ∧
      p'.deltas.ids = strategies.map Strategy.id ∧
      ∀ t ∈ site.arena.store.strategies,
        t.score = .int ((p'.deltas.points? t.id).getD 0) := by
  obtain ⟨p', site', played, undisturbed, ids, prizes⟩ :=
    playGrand_prize quiet (field.areFixed perm) site
  exact ⟨p', site', played, undisturbed, ids,
    field.scores_of_prizes fun id => (prizes id).trans (prize_perm perm)⟩

theorem points?_eq_score {s : Store} {points : Tally Int} {strategies : List Strategy}
    (perm : strategies.Perm s.strategies) (ids : points.ids = strategies.map Strategy.id)
    (scores : ∀ t ∈ s.strategies, t.score = .int ((points.points? t.id).getD 0)) (id : Json) :
    points.toJson.points? id = (s.get? id).map Strategy.score := by
  rw [Tally.points?_toJson]
  cases found : s.get? id with
  | some t =>
    obtain ⟨ht, key⟩ := Store.mem_of_get? found
    have same : t.id.same id = true := decide_eq_true key
    have counted : (points.points? id).isSome := by
      refine (Tally.isSome_points? _ _).2 ⟨t.id, ?_, same⟩
      rw [ids]
      exact List.mem_map_of_mem (perm.mem_iff.2 ht)
    obtain ⟨n, hn⟩ := Option.isSome_iff_exists.1 counted
    have score := scores t ht
    rw [Tally.points?_congr _ same, hn] at score
    rw [hn, Option.map_some, Option.map_some, score]
    rfl
  | none =>
    cases hn : points.points? id with
    | none => rfl
    | some n =>
      obtain ⟨other, hother, same⟩ := (Tally.isSome_points? points id).1 (by rw [hn]; rfl)
      rw [ids] at hother
      obtain ⟨t, ht, rfl⟩ := List.mem_map.1 hother
      have key : t.key = id.key := of_decide_eq_true same
      have absent := List.find?_eq_none.1 found t (perm.mem_iff.1 ht)
      exact absurd (decide_eq_true key) absent

/-- Every score is twice what it was. -/
def HasDoubled (s s' : Store) : Prop :=
  ∀ t ∈ s.strategies, ∃ n : Int, t.score = .int n ∧
    s'.get? t.id = some (t.withScore (.int (2 * n)))

theorem hasDoubled_credited {s : Store} {points : Tally Int} {records : List MatchRecord}
    (scores : ∀ t ∈ s.strategies, t.score = .int ((points.points? t.id).getD 0)) :
    HasDoubled s ((s.credited points).append records) := by
  intro t ht
  have score := scores t ht
  refine ⟨_, score, ?_⟩
  have doubled : t.withScore (.int (t.score.toInt?.getD 0 + (points.points? t.id).getD 0)) =
      t.withScore (.int (2 * (points.points? t.id).getD 0)) := by
    rw [score, Int.two_mul]
    rfl
  have there : t.withScore (.int (t.score.toInt?.getD 0 + (points.points? t.id).getD 0)) ∈
      ((s.credited points).append records).strategies := List.mem_map_of_mem ht
  rw [← doubled]
  exact Store.get?_of_mem there

theorem hasDoubled_runGrand (quiet : observe.IsQuiet) {site site' : Site} {trees : List LogicTree}
    (field : site.IsField trees) {o : Outcome}
    (h : runGrand observe site = (.ok (some o), site')) :
    HasDoubled site.arena.store site'.arena.store := by
  obtain ⟨p', -, prizes, arena⟩ :=
    runGrand_fixed quiet (field.areFixed (.refl _)) field.hasWholeScores h
  rw [arena]
  exact hasDoubled_credited (field.scores_of_prizes prizes)

/-! ## Any order of saves -/

/-- The trees of a store with their scores. -/
def scoreboard (s : Store) : List (LogicTree × Json) :=
  s.strategies.map fun t => (t.tree, t.score)

theorem scoreboard_isField {site : Site} {trees : List LogicTree} (field : site.IsField trees) :
    scoreboard site.arena.store =
      trees.map fun t => (t, .int (share site.arena.rounds trees t)) := by
  rw [scoreboard, ← field.trees, List.map_map]
  refine List.map_congr_left fun t ht => ?_
  rw [field.scores t ht, Tournament.won_eq_share site.arena.store.distinct ht]
  rfl

theorem scoreboard_perm {site other : Site} {trees trees' : List LogicTree}
    (field : site.IsField trees) (field' : other.IsField trees') (perm : trees.Perm trees')
    (rounds : other.arena.rounds = site.arena.rounds) :
    (scoreboard site.arena.store).Perm (scoreboard other.arena.store) := by
  have same : (trees'.map fun t => (t, Json.int (share other.arena.rounds trees' t))) =
      trees'.map fun t => (t, Json.int (share site.arena.rounds trees t)) := by
    refine List.map_congr_left fun t _ => ?_
    rw [rounds, Tournament.share_perm perm]
  rw [scoreboard_isField field, scoreboard_isField field', same]
  exact perm.map _

end Site
end IteratedDilemma
