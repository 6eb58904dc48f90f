import Mathlib.Tactic.Ring
import IteratedDilemma.Proofs.Arena.Grand

/-! Grand tournaments again and again. Which points one gives out does not depend on the order of
the strategies that it is given, so in an arena whose strategies use no random actions every grand
tournament gives out the same (`grand_ignores_order`), although each of them changes the order of
the standings, in which the next one takes the strategies. -/
namespace IteratedDilemma
set_option autoImplicit false

open Tournament (prize_of_mem prize_perm won won_rescored)

namespace Strategy

/-- The strategy with points added to its score. -/
def rewarded (s : Strategy) (points : Int) : Strategy :=
  s.withScore (.int (s.score.toInt?.getD 0 + points))

theorem rewarded_zero {s : Strategy} {n : Int} (whole : s.score = .int n) : s.rewarded 0 = s := by
  obtain ⟨id, name, tree, author, authorId, score, createdAt⟩ := s
  cases whole
  rw [rewarded, Int.add_zero]
  rfl

theorem rewarded_rewarded (s : Strategy) (m n : Int) :
    (s.rewarded m).rewarded n = s.rewarded (m + n) := by
  change s.withScore (.int (s.score.toInt?.getD 0 + m + n)) = _
  rw [Int.add_assoc]
  rfl

end Strategy

namespace Site

/-- Grand tournaments one after another, each of which hands out its outcome, the first one first.
Between them the arena is left alone. -/
inductive Holds (observe : Observer) : Site → List Outcome → Site → Prop where
  | start (site : Site) : Holds observe site [] site
  | next {site site1 site2 site' : Site} {o : Outcome} {outcomes : List Outcome} :
      runGrand observe site = (.ok (some o), site1) → Scene.Aside site1 site2 →
      Holds observe site2 outcomes site' → Holds observe site (o :: outcomes) site'

/-- What a strategy wins when all that are stored meet each other. -/
def gain (site : Site) (s : Strategy) : Int :=
  won site.arena.rounds s.id site.arena.store.strategies

/-- An arena whose strategies use no random actions and have whole scores. -/
structure IsFixed (site : Site) : Prop where
  among : AreFixed site.arena.store.strategies
  whole : site.arena.store.HasWholeScores

/-- An arena in which nothing stands in the way of a grand tournament. -/
structure IsReady (site : Site) : Prop where
  rankable : ∀ s ∈ site.arena.store.strategies, Standings.isRankable s = true
  enough : 2 ≤ site.arena.store.strategies.length
  free : site.arena.isHeld = false
  file : site.arena.file = none
  unexported : site.arena.settings.exportResults.isTruthy = false

variable {observe observe' : Observer} {site site' other : Site}

/-- Two runs between the same strategies in any two orders give everybody the same points. -/
theorem playGrand_perm (quiet : observe.IsQuiet) (quiet' : observe'.IsQuiet)
    {strategies others : List Strategy} (among : AreFixed strategies)
    (perm : strategies.Perm others) (rounds : other.arena.rounds = site.arena.rounds) :
    ∃ o site' o' other', playGrand observe strategies site = (.ok o, site') ∧
      playGrand observe' others other = (.ok o', other') ∧
      ∀ id, o'.deltas.points? id = o.deltas.points? id := by
  obtain ⟨p, site', played, -, -, prizes⟩ := playGrand_prize quiet among site
  obtain ⟨p', other', played', -, -, prizes'⟩ := playGrand_prize quiet' (among.perm perm) other
  refine ⟨_, site', _, other', played, played', fun id => ?_⟩
  change p'.deltas.toJson.points? id = p.deltas.toJson.points? id
  rw [Tally.points?_toJson, Tally.points?_toJson, prizes, prizes', rounds, prize_perm perm]

/-! ## One tournament -/

theorem IsFixed.runGrand (fixed : site.IsFixed) (quiet : observe.IsQuiet) {o : Outcome}
    (h : Site.runGrand observe site = (.ok (some o), site')) :
    (∀ s ∈ site.arena.store.strategies, o.deltas.points? s.id = some (.int (site.gain s))) ∧
      ∃ store : Store, site'.arena = { site.arena with store } ∧ store.strategies =
        site.arena.store.strategies.map fun s => s.rewarded (site.gain s) := by
  obtain ⟨p', rfl, prizes, arena⟩ := runGrand_fixed quiet fixed.among fixed.whole h
  have gained : ∀ s ∈ site.arena.store.strategies,
      p'.deltas.points? s.id = some (site.gain s) := by
    intro s hs
    rw [prizes, prize_of_mem hs]
    rfl
  refine ⟨fun s hs => ?_, _, arena, List.map_congr_left fun s hs => ?_⟩
  · change p'.deltas.toJson.points? s.id = _
    rw [Tally.points?_toJson, gained s hs]
    rfl
  · dsimp only
    rw [gained s hs]
    rfl

/-- Where nothing has changed but scores, everybody still gains the same. -/
theorem IsFixed.rewarded (fixed : site.IsFixed) {points : Strategy → Int}
    (strategies : site'.arena.store.strategies =
      site.arena.store.strategies.map fun s => s.rewarded (points s))
    (rounds : site'.arena.rounds = site.arena.rounds) :
    site'.IsFixed ∧ ∀ s n, site'.gain (s.rewarded n) = site.gain s := by
  refine ⟨⟨?_, fun t ht => ?_⟩, fun s n => ?_⟩
  · rw [strategies]
    exact fixed.among.rescored _
  · rw [strategies] at ht
    obtain ⟨s, -, rfl⟩ := List.mem_map.1 ht
    exact ⟨_, rfl⟩
  · rw [gain, strategies, rounds]
    exact won_rescored _ _ _ _

theorem IsReady.rewarded (ready : site.IsReady) {points : Strategy → Int} {store : Store}
    (arena : site'.arena = { site.arena with store })
    (strategies : store.strategies =
      site.arena.store.strategies.map fun s => s.rewarded (points s)) : site'.IsReady := by
  constructor <;> rw [arena]
  case rankable =>
    intro t ht
    rw [strategies] at ht
    obtain ⟨s, hs, rfl⟩ := List.mem_map.1 ht
    exact ready.rankable s hs
  case enough =>
    rw [strategies, List.length_map]
    exact ready.enough
  case free => exact ready.free
  case file => exact ready.file
  case unexported => exact ready.unexported

/-! ## One after another -/

theorem Holds.gains {outcomes : List Outcome} (holds : Holds observe site outcomes site')
    (quiet : observe.IsQuiet) (fixed : site.IsFixed) :
    (∀ o ∈ outcomes, ∀ s ∈ site.arena.store.strategies,
      o.deltas.points? s.id = some (.int (site.gain s))) ∧
      site'.arena.store.strategies = site.arena.store.strategies.map fun s =>
        s.rewarded (outcomes.length * site.gain s) := by
  induction holds with
  | start site =>
    refine ⟨fun o ho => (by cases ho), ?_⟩
    have still : ∀ s ∈ site.arena.store.strategies,
        s.rewarded (([] : List Outcome).length * site.gain s) = s := by
      intro s hs
      obtain ⟨n, whole⟩ := fixed.whole s hs
      rw [List.length_nil, Nat.cast_zero, Int.zero_mul, Strategy.rewarded_zero whole]
    rw [List.map_congr_left still, List.map_id']
  | @next site site1 site2 site' o outcomes h aside _ ih =>
    obtain ⟨given, store, arena, strategies⟩ := fixed.runGrand quiet h
    have strategies2 : site2.arena.store.strategies =
        site.arena.store.strategies.map fun s => s.rewarded (site.gain s) := by
      rw [aside.store, arena]
      exact strategies
    obtain ⟨fixed2, same⟩ := fixed.rewarded strategies2 (by rw [aside.rounds, arena])
    obtain ⟨later, final⟩ := ih fixed2
    refine ⟨fun o' ho' s hs => ?_, ?_⟩
    · rcases List.mem_cons.1 ho' with rfl | ho'
      · exact given s hs
      · have there : s.rewarded (site.gain s) ∈ site2.arena.store.strategies := by
          rw [strategies2]
          exact List.mem_map_of_mem hs
        rw [← same s (site.gain s)]
        exact later o' ho' (s.rewarded (site.gain s)) there
    · rw [final, strategies2, List.map_map]
      refine List.map_congr_left fun s _ => ?_
      have total : site.gain s + outcomes.length * site.gain s =
          (o :: outcomes).length * site.gain s := by
        rw [List.length_cons, Nat.cast_add, Nat.cast_one]
        ring
      rw [Function.comp_apply, same, Strategy.rewarded_rewarded, total]

theorem exists_holds (quiet : observe.IsQuiet) (k : Nat) (fixed : site.IsFixed)
    (ready : site.IsReady) : ∃ outcomes site', outcomes.length = k ∧
      Holds observe site outcomes site' := by
  induction k generalizing site with
  | zero => exact ⟨[], site, rfl, .start site⟩
  | succ k ih =>
    obtain ⟨o, site1, h⟩ := exists_runGrand quiet fixed.among fixed.whole ready.rankable
      ready.enough ready.free ready.file ready.unexported
    obtain ⟨-, store, arena, strategies⟩ := fixed.runGrand quiet h
    have strategies1 : site1.arena.store.strategies =
        site.arena.store.strategies.map fun s => s.rewarded (site.gain s) := by
      rw [arena]
      exact strategies
    obtain ⟨fixed1, -⟩ := fixed.rewarded strategies1 (by rw [arena])
    obtain ⟨outcomes, site', length, holds⟩ := ih fixed1 (ready.rewarded arena strategies)
    exact ⟨o :: outcomes, site', congrArg (· + 1) length,
      .next h ⟨rfl, rfl, rfl, rfl, rfl, Nat.le_refl _, Nat.le_refl _⟩ holds⟩

/-- The points that a grand tournament gives out do not depend on the order of the strategies. So in
an arena whose strategies use no random actions any number of grand tournaments adds to each score
that many times one and the same number; and if nothing stands in their way, there can be any number
of them. -/
theorem grand_ignores_order (quiet : observe.IsQuiet) (quiet' : observe'.IsQuiet) :
    (∀ strategies others, AreFixed strategies → strategies.Perm others →
      ∀ site other, other.arena.rounds = site.arena.rounds →
        ∃ o site' o' other', playGrand observe strategies site = (.ok o, site') ∧
          playGrand observe' others other = (.ok o', other') ∧
          ∀ id, o'.deltas.points? id = o.deltas.points? id) ∧
    ∀ site : Site, site.IsFixed →
      (∀ outcomes site', Holds observe site outcomes site' →
        (∀ o ∈ outcomes, ∀ s ∈ site.arena.store.strategies,
          o.deltas.points? s.id = some (.int (site.gain s))) ∧
        site'.arena.store.strategies = site.arena.store.strategies.map fun s =>
          s.rewarded (outcomes.length * site.gain s)) ∧
      (site.IsReady → ∀ k, ∃ outcomes site', outcomes.length = k ∧
        Holds observe site outcomes site') :=
  ⟨fun _ _ among perm _ _ rounds => playGrand_perm quiet quiet' among perm rounds,
    fun _ fixed => ⟨fun _ _ holds => holds.gains quiet fixed,
      fun ready k => exists_holds quiet k fixed ready⟩⟩

/-- A built-in tree as a strategy that has not played yet. -/
def unplayed (b : Builtin) : Strategy where
  id := .text b.name
  name := .text b.name
  tree := b.tree
  author := .text "Arena"
  authorId := .null
  score := .int 0
  createdAt := none

/-- An arena with a mirror, a traitor and a grudge that have not met yet. -/
def trio : Site :=
  started.after started.host {
    strategies := [.titForTat, .alwaysBetray, .grudger].map unplayed
    records := []
    distinct := by decide +kernel }

/-- Three tournaments in such an arena, and one that takes the strategies the other way round. -/
theorem grand_ignores_order_trio :
    (∃ o site' o' other', playGrand .silent trio.arena.store.strategies trio = (.ok o, site') ∧
      playGrand .silent trio.arena.store.strategies.reverse trio = (.ok o', other') ∧
      ∀ id, o'.deltas.points? id = o.deltas.points? id) ∧
    ∃ outcomes site', outcomes.length = 3 ∧ Holds .silent trio outcomes site' ∧
      site'.arena.store.strategies.map Strategy.score = [.int 60, .int 12, .int 60] := by
  have fixed : trio.IsFixed := by
    refine ⟨⟨trio.arena.store.distinct, fun s hs => ?_, by decide +kernel⟩, fun s hs => ?_⟩ <;>
      obtain ⟨b, -, rfl⟩ := List.mem_map.1 hs
    · exact ⟨_, rfl⟩
    · exact ⟨_, rfl⟩
  have ready : trio.IsReady := ⟨by decide +kernel, by decide +kernel, rfl, rfl, rfl⟩
  have quiet := Observer.silent_isQuiet
  obtain ⟨perm, tournaments⟩ := grand_ignores_order quiet quiet
  obtain ⟨gains, exist⟩ := tournaments trio fixed
  obtain ⟨outcomes, site', length, holds⟩ := exist ready 3
  refine ⟨perm _ _ fixed.among (List.reverse_perm _).symm trio trio rfl,
    outcomes, site', length, holds, ?_⟩
  rw [(gains _ _ holds).2, length]
  decide +kernel

end Site
end IteratedDilemma
