import IteratedDilemma.Proofs.Arena.Calls
import IteratedDilemma.Proofs.Arena.Field

/-! Scores are conserved: however the steps of callers interleave, the score of a stored strategy is
what it has earned in the records committed since the last reset, or since it was stored if that is
later (`score_eq_earned_since`). The invariant that carries this is `Scene.IsCounted`; saves that
work on an old look at the store keep it because every pass counts what its own records say. -/
namespace IteratedDilemma
set_option autoImplicit false

/-! ## What the past says -/

namespace Event

/-- The records committed since the last reset, or since the strategy of an identifier was stored
if that is later. The newest event stands first, and so do the records in their order. -/
def since (id : Json) : List Event → List MatchRecord
  | [] => []
  | .committed records :: past => since id past ++ records
  | .reset :: _ => []
  | .stored new :: past => if new.id.same id then [] else since id past
  | .cleared :: past => since id past

/-- All records committed since the last clear. -/
def logged : List Event → List MatchRecord
  | [] => []
  | .committed records :: past => logged past ++ records
  | .cleared :: _ => []
  | .reset :: past | .stored _ :: past => logged past

end Event

/-- Nobody loses points in a match. -/
def MatchRecord.IsFair (r : MatchRecord) : Prop := 0 ≤ r.first.score ∧ 0 ≤ r.second.score

/-- The past holds only fair records. -/
def Event.IsFair : Event → Prop
  | .committed records => ∀ r ∈ records, r.IsFair
  | _ => True

theorem Event.isFair_of_mem_since {id : Json} {past : List Event} (h : ∀ e ∈ past, e.IsFair) :
    ∀ r ∈ Event.since id past, r.IsFair := by
  induction past with
  | nil => intro r hr; cases hr
  | cons e past ih =>
    have ih := ih fun e he => h e (List.mem_cons_of_mem _ he)
    intro r hr
    cases e with
    | committed records =>
      rcases List.mem_append.1 hr with hr | hr
      · exact ih r hr
      · exact h _ List.mem_cons_self r hr
    | reset => cases hr
    | stored new =>
      rw [Event.since] at hr
      split at hr
      · cases hr
      · exact ih r hr
    | cleared => exact ih r hr

/-! ## Passes under way -/

namespace Pass

/-- A pass that counts what its records say, all of which are fair. -/
structure IsFair (p : Pass) : Prop where
  balanced : p.IsBalanced
  records : ∀ r ∈ p.records, r.IsFair

theorem isFair_extend {p : Pass} (h : p.IsFair) (f : Fixture) (site : Site) :
    ((p.prepared f).extend ((p.prepared f).recordOf f site)).IsFair where
  balanced := isBalanced_extend (isBalanced_prepared h.balanced f) _
  records r hr := by
    rcases List.mem_cons.1 hr with rfl | hr
    · exact ⟨Int.natCast_nonneg _, Int.natCast_nonneg _⟩
    · rw [prepared_records] at hr
      exact h.records r hr

end Pass

/-- Whatever a caller plays is fair. -/
def Caller.IsFair (c : Caller) : Prop :=
  ∀ total left p, c.stage = .playing total left p → p.IsFair

namespace Scene

variable {site site' : Site} {c c' : Option Caller} {e : Option Event}

theorem Act.isFair (h : Act site c e site' c') (fair : ∀ d ∈ c, d.IsFair) :
    ∀ d ∈ c', d.IsFair := by
  intro d hd total left p hp
  cases h <;> cases hd <;> cases hp
  case store startedAt _ =>
    exact ⟨Pass.isBalanced_onSave _ _, fun r hr => by cases hr⟩
  case muster startedAt _ _ =>
    exact ⟨Pass.isBalanced_grand _ _, fun r hr => by cases hr⟩
  case play f q r h =>
    obtain ⟨rfl, rfl, -⟩ := Site.playFixture_ok h
    exact Pass.isFair_extend (fair _ rfl _ _ q rfl) _ _

end Scene

/-! ## Stores that are counted -/

namespace Store

/-- A store whose log and scores are what the past says. -/
structure IsCounted (s : Store) (past : List Event) : Prop where
  log : s.records = Event.logged past
  scores : ∀ t ∈ s.strategies, t.score = .int (earned t.id (Event.since t.id past))

theorem isCounted_empty : IsCounted .empty [] where
  log := rfl
  scores t ht := by cases ht

theorem IsCounted.hasWholeScores {s : Store} {past : List Event} (h : s.IsCounted past) :
    s.HasWholeScores := fun t ht => ⟨_, h.scores t ht⟩

theorem isCounted_add {s : Store} {past : List Event} (h : s.IsCounted past) {new : Strategy}
    (score : new.score = .int 0) : (s.add new).IsCounted (.stored new :: past) where
  log := h.log
  scores t ht := by
    rcases mem_place s.distinct ht with rfl | ⟨ht, apart⟩
    · rw [Event.since, if_pos (by simp [Json.same]), score]
      rfl
    · have other : t.id.key ≠ new.id.key := apart
      rw [Event.since, if_neg (by simpa [Json.same] using other.symm)]
      exact h.scores t ht

/-- What a pass has counted is what its records add to the earnings. -/
theorem isCounted_credit {s : Store} {past : List Event} (h : s.IsCounted past) {p : Pass}
    (fair : p.IsBalanced) :
    ((s.credited p.deltas).append p.records.reverse).IsCounted
      (.committed p.records.reverse :: past) where
  log := by rw [Event.logged, ← h.log]; rfl
  scores t ht := by
    obtain ⟨u, hu, rfl⟩ := List.mem_map.1 ht
    change Json.int _ = .int (earned u.id (Event.since u.id past ++ p.records.reverse))
    rw [h.scores u hu, fair.points, earned_append, earned_reverse]
    rfl

theorem isCounted_reset {s : Store} {past : List Event} (h : s.IsCounted past) :
    s.reset.IsCounted (.reset :: past) where
  log := h.log
  scores t ht := by
    obtain ⟨u, -, rfl⟩ := List.mem_map.1 ht
    rfl

theorem isCounted_clear (past : List Event) : IsCounted .empty (.cleared :: past) where
  log := rfl
  scores t ht := by cases ht

end Store

/-! ## Whole runs -/

namespace Scene

/-- A scene in which everything is as the past says. -/
structure IsCounted (scene : Scene) (past : List Event) : Prop where
  store : scene.site.arena.store.IsCounted past
  past : ∀ e ∈ past, e.IsFair
  callers : ∀ c ∈ scene.callers, c.IsFair

theorem Changes.isCounted {site : Site} {c : Option Caller} {store : Store} {e : Option Event}
    {past : List Event} (h : Changes site c store e) (fair : ∀ d ∈ c, d.IsFair)
    (counted : site.arena.store.IsCounted past) :
    store.IsCounted (e.toList ++ past) ∧ ∀ new ∈ e, new.IsFair := by
  -- nothing, a strategy stored, records committed, a reset, a clear
  rcases e with _ | new | records | _ | _
  · cases h
    exact ⟨counted, fun _ h => by cases h⟩
  · obtain ⟨⟨_, _, _, _, rfl⟩, rfl⟩ := h
    exact ⟨Store.isCounted_add counted rfl, fun _ h => by cases h; trivial⟩
  · obtain ⟨_, total, p, finishedAt, rfl, rfl, applied⟩ := h
    have hp := fair _ rfl total [] p rfl
    rw [Store.apply_eq counted.hasWholeScores rfl] at applied
    split at applied <;> cases applied
    refine ⟨Store.isCounted_credit counted hp.balanced, fun _ h => ?_⟩
    cases h
    exact fun r hr => hp.records r (List.mem_reverse.1 hr)
  · cases h
    exact ⟨Store.isCounted_reset counted, fun _ h => by cases h; trivial⟩
  · cases h
    exact ⟨Store.isCounted_clear past, fun _ h => by cases h; trivial⟩

theorem Step.isCounted {scene scene' : Scene} {e : Option Event} {past : List Event}
    (h : Step scene e scene') (counted : scene.IsCounted past) :
    scene'.IsCounted (e.toList ++ past) := by
  have callers := h.callers counted.callers fun act => act.isFair
  cases h with
  | @act site site' c c' _ before after act =>
    have fair : ∀ d ∈ c, d.IsFair := fun d hd =>
      counted.callers d (by simp only [List.mem_append, Option.mem_toList]; tauto)
    obtain ⟨store, news⟩ := act.store_change.isCounted fair counted.store
    refine ⟨store, fun event he => ?_, callers⟩
    rcases List.mem_append.1 he with he | he
    · exact news event (Option.mem_toList.1 he)
    · exact counted.past event he
  | aside callers aside =>
    exact ⟨aside.store ▸ counted.store, counted.past, counted.callers⟩

theorem Run.isCounted {start scene : Scene} {past : List Event} (run : Run start past scene)
    (empty : start.site.arena.store = .empty) (nobody : start.callers = []) :
    scene.IsCounted past := by
  induction run with
  | start =>
    refine ⟨empty ▸ Store.isCounted_empty, fun _ h => (by cases h), fun c hc => ?_⟩
    rw [nobody] at hc
    cases hc
  | step _ step ih => exact step.isCounted ih

/-- However the steps of saves, grand tournaments, resets and clears interleave and whichever of
them fail, the log holds the records committed since the last clear, and each stored strategy has
the points of those that were committed since the last reset and since it was stored. -/
theorem score_eq_earned_since {start scene : Scene} {past : List Event}
    (run : Run start past scene) (empty : start.site.arena.store = .empty)
    (nobody : start.callers = []) :
    scene.site.arena.store.records = Event.logged past ∧
      ∀ t ∈ scene.site.arena.store.strategies,
        t.score = .int (earned t.id (Event.since t.id past)) ∧
          0 ≤ earned t.id (Event.since t.id past) := by
  have counted := run.isCounted empty nobody
  refine ⟨counted.store.log, fun t ht => ⟨counted.store.scores t ht, ?_⟩⟩
  exact earned_nonneg (Event.isFair_of_mem_since counted.past)

/-- Two saves as such a run. -/
theorem score_eq_earned_since_two_saves :
    ∃ past scene, Run ⟨.started, []⟩ past scene ∧
      scene.site.arena.store.strategies.length = 2 ∧
      scene.site.arena.store.records = Event.logged past ∧
      ∀ t ∈ scene.site.arena.store.strategies,
        t.score = .int (earned t.id (Event.since t.id past)) ∧
          0 ≤ earned t.id (Event.since t.id past) := by
  have quiet := Observer.silent_isQuiet
  obtain ⟨mirror, hmirror⟩ : ∃ q : SaveRequest,
    q = ⟨"Mirror", Builtin.titForTat.tree, none, none⟩ := ⟨_, rfl⟩
  obtain ⟨traitor, htraitor⟩ : ∃ q : SaveRequest,
    q = ⟨"Traitor", Builtin.alwaysBetray.tree, none, none⟩ := ⟨_, rfl⟩
  have empty : Site.started.IsField [] := Site.isField_empty rfl
  obtain ⟨_, site1, one, field1, -, file1⟩ | ⟨_, _, -, file⟩ := Site.save_isField quiet empty
    (q := mirror) (by rw [hmirror]; decide)
    (by rw [hmirror]; decide)
  case inr => exact absurd rfl file
  obtain ⟨_, site2, two, field2, -, -⟩ | ⟨_, _, -, file⟩ := Site.save_isField quiet field1
    (q := traitor) (by rw [htraitor]; decide) (by rw [htraitor]; decide)
  case inr => exact absurd file1 file
  have begun : Run ⟨.started, []⟩ [] ⟨.started, []⟩ := .start
  obtain ⟨_, first⟩ := (Call.save mirror).run quiet begun
  rw [Call.after, one] at first
  obtain ⟨_, run⟩ := (Call.save traitor).run quiet first
  rw [Call.after, two] at run
  have length : site2.arena.store.strategies.length = 2 := by
    rw [← List.length_map (f := Strategy.tree), field2.trees]
    rfl
  exact ⟨_, _, run, length, score_eq_earned_since run rfl rfl⟩

end Scene
end IteratedDilemma
