import IteratedDilemma.Proofs.Arena.Interleaving
import IteratedDilemma.Proofs.Arena.Repetition

/-! Settings that have been checked. An arena can be built with settings that break no rule, unless
their seed is below zero, and every match of every pass in it has as many rounds as they say. Main
statement: `Arena.checked_settings_serve`. -/
namespace IteratedDilemma
set_option autoImplicit false

/-! ## What is checked -/

namespace Settings

/-- The seed is a whole number below zero. -/
def HasNegativeSeed (s : Settings) : Prop := ∃ n, s.seed.toInt? = some n ∧ n < 0

theorem isSome_roundCount?_iff (s : Settings) :
    s.roundCount?.isSome = true ↔ ∃ n, s.rounds.toInt? = some n ∧ 1 ≤ n := by
  unfold roundCount?
  rcases s.rounds.toInt? with _ | n
  · simp
  · by_cases small : n < 1
    · simp [small]
    · simp [small, Int.not_lt.1 small]

theorem hasSeed_iff (s : Settings) :
    s.hasSeed = true ↔ s.seed = .null ∨ ∃ n, s.seed.toInt? = some n := by
  unfold hasSeed
  split
  · next absent => exact iff_of_true rfl (.inl absent)
  · next given => rw [or_iff_right given, Option.isSome_iff_exists]

/-- What settings must be like to break no rule: a positive whole number of rounds, no seed or a
whole number, and some arena file. -/
theorem violations_eq_nil_iff (s : Settings) : s.violations = [] ↔
    (∃ n, s.rounds.toInt? = some n ∧ 1 ≤ n) ∧ (s.seed = .null ∨ ∃ n, s.seed.toInt? = some n) ∧
      s.arenaFile.isTruthy = true := by
  rw [violations, List.append_eq_nil_iff, List.append_eq_nil_iff, and_assoc,
    ← isSome_roundCount?_iff, ← hasSeed_iff]
  cases s.roundCount?.isSome <;> cases s.hasSeed <;> cases s.arenaFile.isTruthy <;> simp

theorem roundCount?_of_violations {s : Settings} (unviolated : s.violations = []) :
    ∃ rounds, s.roundCount? = some rounds ∧ s.rounds.toInt? = some (rounds : Int) ∧
      1 ≤ rounds := by
  obtain ⟨⟨n, whole, positive⟩, -⟩ := s.violations_eq_nil_iff.1 unviolated
  refine ⟨n.toNat, ?_, ?_, by omega⟩
  · rw [roundCount?, whole]
    exact if_neg (by omega)
  · rw [whole, Int.toNat_of_nonneg (by omega)]

theorem check_of_violations {s : Settings} (violated : s.violations ≠ []) :
    s.check = .error (.settings s.violations) := by
  unfold check
  split
  · next unviolated _ => exact absurd unviolated violated
  · rfl

theorem check_eq_ok {s : Settings} {rounds : Nat} (unviolated : s.violations = [])
    (count : s.roundCount? = some rounds) : s.check = .ok rounds := by
  rw [check, unviolated, count]

theorem source_of_negative {s : Settings} (negative : s.HasNegativeSeed) (entropy : Nat) :
    s.source entropy = .error .negativeSeed := by
  obtain ⟨n, whole, below⟩ := negative
  unfold source
  split
  · next absent =>
    rw [absent] at whole
    cases whole
  · rw [RandomSource.ofJson, whole]
    exact if_pos below

theorem exists_source {s : Settings} (unviolated : s.violations = [])
    (notNegative : ¬s.HasNegativeSeed) (entropy : Nat) :
    ∃ source, s.source entropy = .ok source := by
  obtain ⟨-, seed, -⟩ := s.violations_eq_nil_iff.1 unviolated
  unfold source
  split
  · exact ⟨_, rfl⟩
  · next given =>
    obtain ⟨n, whole⟩ := seed.resolve_left given
    have above : ¬n < 0 := fun below => notNegative ⟨n, whole, below⟩
    rw [RandomSource.ofJson, whole]
    exact ⟨_, if_neg above⟩

end Settings

namespace Arena

variable {s : Settings} (store : Store) (file : Option Path) (entropy : Nat)

/-- An arena is built unless a rule is broken or the seed is below zero. -/
theorem exists_build (unviolated : s.violations = []) (notNegative : ¬s.HasNegativeSeed) :
    ∃ (rounds : Nat) (source : RandomSource), s.rounds.toInt? = some (rounds : Int) ∧ 1 ≤ rounds ∧
      s.source entropy = .ok source ∧
      build store file s none entropy = .ok ⟨store, file, s, rounds, source, false⟩ := by
  obtain ⟨rounds, count, whole, positive⟩ := Settings.roundCount?_of_violations unviolated
  obtain ⟨source, seeded⟩ := Settings.exists_source unviolated notNegative entropy
  refine ⟨rounds, source, whole, positive, seeded, ?_⟩
  rw [build, Settings.check_eq_ok unviolated count]
  dsimp only
  rw [seeded]
  rfl

theorem build_of_negative (unviolated : s.violations = []) (negative : s.HasNegativeSeed) :
    build store file s none entropy = .error .negativeSeed := by
  obtain ⟨rounds, count, -⟩ := Settings.roundCount?_of_violations unviolated
  rw [build, Settings.check_eq_ok unviolated count]
  dsimp only
  rw [Settings.source_of_negative negative]
  rfl

theorem build_of_violations (violated : s.violations ≠ []) :
    build store file s none entropy = .error (.settings s.violations) := by
  rw [build, Settings.check_of_violations violated]
  rfl

end Arena

/-! ## How long matches are -/

theorem Match.length_playOn (first second : Decision Drawing) (n : Nat) (past : Match)
    (source : RandomSource) :
    ((playOn first second n past).run source).1.moves1.length = past.moves1.length + n ∧
      ((playOn first second n past).run source).1.moves2.length = past.moves2.length + n := by
  induction n generalizing past source with
  | zero => exact ⟨rfl, rfl⟩
  | succ n ih =>
    obtain ⟨one, two⟩ := ih ((round first second past).run source).1
      ((round first second past).run source).2
    rw [run_playOn_succ]
    exact ⟨one.trans (Nat.succ_add_eq_add_succ _ n), two.trans (Nat.succ_add_eq_add_succ _ n)⟩

/-- Both sides of a record have so many moves. -/
structure MatchRecord.HasRounds (r : MatchRecord) (rounds : Nat) : Prop where
  first : r.first.moves.length = rounds
  second : r.second.moves.length = rounds

theorem Pass.hasRounds_recordOf (p : Pass) (f : Fixture) (site : Site) :
    (p.recordOf f site).HasRounds site.arena.rounds := by
  obtain ⟨one, two⟩ := Match.length_playOn (p.player f.first).decision (p.player f.second).decision
    site.arena.rounds .empty site.arena.source
  exact ⟨(List.length_reverse).trans (one.trans (Nat.zero_add _)),
    (List.length_reverse).trans (two.trans (Nat.zero_add _))⟩

namespace Site

/-- Sites with the same settings and the same number of rounds. -/
structure SameRules (site site' : Site) : Prop where
  settings : site'.arena.settings = site.arena.settings
  rounds : site'.arena.rounds = site.arena.rounds

instance : IsPreorder Site SameRules where
  refl _ := ⟨rfl, rfl⟩
  trans _ _ _ a b := ⟨b.settings.trans a.settings, b.rounds.trans a.rounds⟩

end Site

/-- An observer that does not change the rules of an arena, whatever else it does. -/
def Observer.KeepsRules (observe : Observer) : Prop :=
  ∀ progress, Work.Within Site.SameRules (observe progress)

namespace Site

variable {observe observe' : Observer}

theorem playFixture_sameRules (total : Nat) (f : Fixture) (p : Pass) :
    Work.Within SameRules (playFixture total f p) :=
  playFixture_within (fun _ _ => ⟨rfl, rfl⟩) (fun _ _ _ _ => ⟨rfl, rfl⟩) total f p

theorem playGrand_sameRules (keeps : observe.KeepsRules) (strategies : List Strategy) :
    Work.Within SameRules (playGrand observe strategies) :=
  playGrand_within (fun _ _ => ⟨rfl, rfl⟩) (fun _ _ _ _ => ⟨rfl, rfl⟩) keeps strategies

theorem playOnSave_sameRules (keeps : observe.KeepsRules) (new : Strategy)
    (existing : List Strategy) : Work.Within SameRules (playOnSave observe new existing) :=
  playOnSave_within (fun _ _ => ⟨rfl, rfl⟩) (fun _ _ _ _ => ⟨rfl, rfl⟩) keeps new existing

/-- What an observer is told of are matches of as many rounds as the arena has. So a pass, failed or
not, is the same with an observer that differs on other matches only, and in the end it holds no
other matches if it held none before. -/
theorem playFixtures_hasRounds (keeps : observe.KeepsRules) {site : Site}
    (same : ∀ progress, progress.record.HasRounds site.arena.rounds →
      observe' progress = observe progress) (total : Nat) (fixtures : List Fixture) (p : Pass) :
    playFixtures observe' total fixtures p site = playFixtures observe total fixtures p site ∧
    ((∀ r ∈ p.records, r.HasRounds site.arena.rounds) → ∀ p' site',
      playFixtures observe total fixtures p site = (.ok p', site') →
        ∀ r ∈ p'.records, r.HasRounds site.arena.rounds) := by
  induction fixtures generalizing p site with
  | nil =>
    refine ⟨rfl, fun old p' site' h => ?_⟩
    cases h
    exact old
  | cons f rest ih =>
    -- one match, what the observer does after it, and the other matches under the same rules
    have rules := playFixture_sameRules total f p site
    rcases met : playFixture total f p site with ⟨fault | ⟨q, r⟩, site1⟩
    · refine ⟨?_, fun _ p' site' h => ?_⟩
      · rw [playFixtures, playFixtures, Work.bind_of_error met, Work.bind_of_error met]
      · rw [playFixtures, Work.bind_of_error met] at h
        cases h
    · rw [met] at rules
      obtain ⟨e, extended, -⟩ := playFixture_ok met
      have new : r.HasRounds site.arena.rounds := e ▸ Pass.hasRounds_recordOf _ f site
      have told := same ⟨q.records.length, total, r⟩ new
      have kept := keeps ⟨q.records.length, total, r⟩ site1
      rw [playFixtures, playFixtures, Work.bind_of_ok met, Work.bind_of_ok met]
      dsimp only
      rw [told]
      rcases observed : observe ⟨q.records.length, total, r⟩ site1 with ⟨fault | _, site2⟩
      · refine ⟨by rw [Work.bind_of_error observed, Work.bind_of_error observed],
          fun _ p' site' h => ?_⟩
        rw [Work.bind_of_error observed] at h
        cases h
      · rw [observed] at kept
        have rounds : site2.arena.rounds = site.arena.rounds :=
          (trans_of SameRules rules kept).rounds
        rw [← rounds] at same
        have later := ih same q
        rw [rounds] at later
        rw [Work.bind_of_ok observed, Work.bind_of_ok observed]
        refine ⟨later.1, fun old => later.2 ?_⟩
        rw [extended]
        intro r' hr'
        rcases List.mem_cons.1 hr' with rfl | hr'
        · exact new
        · rw [Pass.prepared_records] at hr'
          exact old r' hr'

/-- A pass plays no matches but those of so many rounds: its outcome holds no others, and no
observer is told of another one, whether or not the pass comes to its end. -/
def PlaysOnly (rounds : Nat) (pass : Observer → Work Site Outcome) (observe : Observer)
    (site : Site) : Prop :=
  (∀ observe' : Observer, (∀ progress, progress.record.HasRounds rounds →
    observe' progress = observe progress) → pass observe' site = pass observe site) ∧
  ∀ o site', pass observe site = (.ok o, site') → ∀ r ∈ o.records, r.HasRounds rounds

theorem playPass_playsOnly (keeps : observe.KeepsRules) (fixtures : List Fixture) {p : Pass}
    (fresh : p.records = []) (site : Site) :
    PlaysOnly site.arena.rounds (playPass · fixtures p) observe site := by
  refine ⟨fun observe' same => ?_, fun o site' h => ?_⟩
  · exact Work.bind_congr (playFixtures_hasRounds keeps same _ fixtures p).1 _
  · obtain ⟨p', site1, played, h⟩ := Work.bind_eq_ok h
    cases h
    have each := (playFixtures_hasRounds keeps (fun _ _ => rfl) _ fixtures p).2
      (by rw [fresh]; exact fun r hr => absurd hr List.not_mem_nil) p' site1 played
    exact fun r hr => each r (List.mem_reverse.1 hr)

/-- Work before a pass that keeps the rules and does not concern the observer changes nothing. -/
theorem PlaysOnly.after {α : Type} {before : Work Site α} {pass : α → Observer → Work Site Outcome}
    {site : Site} (rules : Work.Within SameRules before)
    (h : ∀ a site, PlaysOnly site.arena.rounds (pass a) observe site) :
    PlaysOnly site.arena.rounds (fun observe => before >>= fun a => pass a observe) observe
      site := by
  have kept := rules site
  have rounds (a : α) (middle : Site) (one : before site = (.ok a, middle)) :
      PlaysOnly site.arena.rounds (pass a) observe middle := by
    rw [one] at kept
    exact kept.rounds ▸ h a middle
  refine ⟨fun observe' same => Work.bind_congr_right fun a middle one => ?_, fun o site' run => ?_⟩
  · exact (rounds a middle one).1 observe' same
  · obtain ⟨a, middle, one, rest⟩ := Work.bind_eq_ok run
    exact (rounds a middle one).2 o site' rest

theorem playGrand_playsOnly (keeps : observe.KeepsRules) (strategies : List Strategy)
    (site : Site) : PlaysOnly site.arena.rounds (playGrand · strategies) observe site :=
  .after Work.within_get fun _ _ => .after (Work.within_lift _) fun _ _ =>
    .after (fun _ => ⟨rfl, rfl⟩) fun _ _ => playPass_playsOnly keeps _ rfl _

theorem playOnSave_playsOnly (keeps : observe.KeepsRules) (new : Strategy)
    (existing : List Strategy) (site : Site) :
    PlaysOnly site.arena.rounds (playOnSave · new existing) observe site :=
  .after (Work.within_lift _) fun _ _ => .after (fun _ => ⟨rfl, rfl⟩) fun _ _ =>
    .after Work.within_get fun _ _ => playPass_playsOnly keeps _ rfl _

end Site

/-! ## Arenas that callers share -/

/-- The caller has no matches but those of so many rounds. -/
def Caller.HasRounds (rounds : Nat) (c : Caller) : Prop :=
  ∀ total left p, c.stage = .playing total left p → ∀ r ∈ p.records, r.HasRounds rounds

/-- No matches were committed but those of so many rounds. -/
def Event.HasRounds (rounds : Nat) : Event → Prop
  | .committed records => ∀ r ∈ records, r.HasRounds rounds
  | _ => True

namespace Scene

variable {site site' : Site} {c c' : Option Caller} {e : Option Event}

theorem Act.hasRounds (h : Act site c e site' c')
    (old : ∀ d ∈ c, d.HasRounds site.arena.rounds) :
    ∀ d ∈ c', d.HasRounds site.arena.rounds := by
  intro d hd total left p hp r hr
  cases h <;> cases hd <;> cases hp
  case store startedAt _ => cases hr
  case muster startedAt _ _ => cases hr
  case play f q r' h =>
    obtain ⟨rfl, rfl, -⟩ := Site.playFixture_ok h
    rcases List.mem_cons.1 hr with rfl | hr
    · exact Pass.hasRounds_recordOf _ f site
    · rw [Pass.prepared_records] at hr
      exact old _ rfl _ _ q rfl r hr

theorem Act.event_hasRounds (h : Act site c e site' c')
    (old : ∀ d ∈ c, d.HasRounds site.arena.rounds) :
    ∀ event ∈ e, event.HasRounds site.arena.rounds := by
  intro event he
  rcases event with _ | records | _ | _
  case committed =>
    cases he
    obtain ⟨_, total, p, _, rfl, rfl, -⟩ := h.store_change
    exact fun r hr => old _ rfl total [] p rfl r (List.mem_reverse.1 hr)
  all_goals trivial

/-- A scene that keeps the rules of the scene it came from, in which nobody has other matches than
those rules say and none were committed. -/
structure Obeys (start scene : Scene) (past : List Event) : Prop where
  rules : start.site.SameRules scene.site
  callers : ∀ c ∈ scene.callers, c.HasRounds start.site.arena.rounds
  past : ∀ e ∈ past, e.HasRounds start.site.arena.rounds

theorem Step.obeys {start scene scene' : Scene} {e : Option Event} {past : List Event}
    (h : Step scene e scene') (obeys : start.Obeys scene past) :
    start.Obeys scene' (e.toList ++ past) := by
  have rounds := obeys.rules.rounds
  refine ⟨?_, ?_, ?_⟩
  · refine trans_of Site.SameRules obeys.rules ?_
    cases h with
    | act before after act => exact ⟨act.steady.settings, act.steady.rounds⟩
    | aside callers aside => exact ⟨aside.settings, aside.rounds⟩
  · refine h.callers obeys.callers fun act old => ?_
    rw [← rounds] at old ⊢
    exact act.hasRounds old
  · intro event he
    rcases List.mem_append.1 he with he | he
    · cases h with
      | @act _ _ c _ _ before after act =>
        have old : ∀ d ∈ c, d.HasRounds start.site.arena.rounds := fun d hd =>
          obeys.callers d (by simp only [List.mem_append, Option.mem_toList]; tauto)
        rw [← rounds] at old ⊢
        exact act.event_hasRounds old event (Option.mem_toList.1 he)
      | aside callers aside => cases he
    · exact obeys.past event he

theorem Run.obeys {start scene : Scene} {past : List Event} (run : Run start past scene)
    (nobody : start.callers = []) : start.Obeys scene past := by
  induction run with
  | start => exact ⟨refl_of _ _, nobody ▸ fun _ h => (by cases h), fun _ h => by cases h⟩
  | step _ step ih => exact step.obeys ih

end Scene

/-! ## Main statement -/

namespace Arena

/-- An arena that plays by settings: it has them, and so many rounds as they say make up each match
of each pass, whether one caller uses the arena or many do at once. -/
structure PlaysBy (arena : Arena) (s : Settings) : Prop where
  settings : arena.settings = s
  rounds : s.rounds.toInt? = some (arena.rounds : Int)
  positive : 1 ≤ arena.rounds
  grand : ∀ (site : Site) (observe : Observer), site.arena.rounds = arena.rounds →
    observe.KeepsRules → ∀ strategies,
      Site.PlaysOnly arena.rounds (Site.playGrand · strategies) observe site ∧
      site.SameRules (Site.playGrand observe strategies site).2
  onSave : ∀ (site : Site) (observe : Observer), site.arena.rounds = arena.rounds →
    observe.KeepsRules → ∀ new existing,
      Site.PlaysOnly arena.rounds (Site.playOnSave · new existing) observe site ∧
      site.SameRules (Site.playOnSave observe new existing site).2
  shared : ∀ (site : Site) past scene, site.arena = arena → Scene.Run ⟨site, []⟩ past scene →
    scene.site.arena.settings = s ∧ scene.site.arena.rounds = arena.rounds ∧
      (∀ e ∈ past, e.HasRounds arena.rounds) ∧ ∀ c ∈ scene.callers, c.HasRounds arena.rounds

theorem playsBy {arena : Arena} (rounds : arena.settings.rounds.toInt? = some (arena.rounds : Int))
    (positive : 1 ≤ arena.rounds) : arena.PlaysBy arena.settings where
  settings := rfl
  rounds := rounds
  positive := positive
  grand site observe same keeps strategies :=
    ⟨same ▸ Site.playGrand_playsOnly keeps strategies site,
      Site.playGrand_sameRules keeps strategies site⟩
  onSave site observe same keeps new existing :=
    ⟨same ▸ Site.playOnSave_playsOnly keeps new existing site,
      Site.playOnSave_sameRules keeps new existing site⟩
  shared site past scene same run := by
    obtain ⟨rules, callers, past⟩ := run.obeys rfl
    subst same
    exact ⟨rules.settings, rules.rounds, past, callers⟩

end Arena

end IteratedDilemma
