import Mathlib.Logic.Relation
import IteratedDilemma.Proofs.Arena.Exports
import IteratedDilemma.Proofs.Arena.FixedPass
import IteratedDilemma.Proofs.Arena.Interleaving

/-! Whole calls as runs. A save, a grand tournament, a reset or a clear that nobody comes in between
is one of the runs of interleaved steps, whether it succeeds or fails (`Call.leads`). -/
namespace IteratedDilemma
set_option autoImplicit false

namespace Scene

/-! ## What happens aside -/

instance : IsPreorder Site Aside where
  refl _ := ⟨rfl, rfl, rfl, rfl, rfl, Nat.le_refl _, Nat.le_refl _⟩
  trans _ _ _ a b := ⟨b.store.trans a.store, b.file.trans a.file, b.settings.trans a.settings,
    b.rounds.trans a.rounds, b.isHeld.trans a.isHeld, Nat.le_trans a.strategies b.strategies,
    Nat.le_trans a.records b.records⟩

/-- What happens aside without a change of the disk. -/
structure Still (site site' : Site) : Prop extends Aside site site' where
  disk : site'.host.disk = site.host.disk

instance : IsPreorder Site Still where
  refl site := ⟨refl_of Aside site, rfl⟩
  trans _ _ _ a b := ⟨trans_of Aside a.toAside b.toAside, b.disk.trans a.disk⟩

theorem aside_of_names (site : Site) {host : Host} (h : site.host.SameNames host) :
    Aside site { site with host } :=
  ⟨rfl, rfl, rfl, rfl, rfl, Nat.le_of_eq h.strategies.symm, Nat.le_of_eq h.records.symm⟩

theorem still_record (site : Site) (entries : List Entry) :
    Still site { site with host := site.host.record entries } :=
  ⟨aside_of_names site (Host.sameNames_record site.host entries), rfl⟩

theorem exportOutcome_within (o : Outcome) : Work.Within Aside (Site.exportOutcome o) :=
  Site.exportOutcome_within (fun site _ h => aside_of_names site h) o

/-! ## Leading from scene to scene -/

/-- A step of a caller, or something aside that is of a kind. -/
inductive Turn (kind : Site → Site → Prop) : Scene → Scene → Prop where
  | act {site site' : Site} {c c' : Option Caller} {e : Option Event}
      (before after : List Caller) : Act site c e site' c' →
      Turn kind ⟨site, before ++ c.toList ++ after⟩ ⟨site', before ++ c'.toList ++ after⟩
  | aside {site site' : Site} (callers : List Caller) : Aside site site' → kind site site' →
      Turn kind ⟨site, callers⟩ ⟨site', callers⟩

/-- The first scene goes on to the second if only things of a kind happen aside. -/
def Leads (kind : Site → Site → Prop) : Scene → Scene → Prop := Relation.ReflTransGen (Turn kind)

theorem Turn.step {kind : Site → Site → Prop} {scene scene' : Scene}
    (h : Turn kind scene scene') : ∃ e, Step scene e scene' := by
  cases h with
  | act before after h => exact ⟨_, .act before after h⟩
  | aside callers h _ => exact ⟨none, .aside callers h⟩

/-- Every run that ends in the first scene goes on to the second. -/
theorem Leads.run {kind : Site → Site → Prop} {start scene scene' : Scene} {past : List Event}
    (h : Leads kind scene scene') (run : Run start past scene) :
    ∃ events, Run start (events ++ past) scene' := by
  induction h with
  | refl => exact ⟨[], run⟩
  | tail _ turn ih =>
    obtain ⟨events, run⟩ := ih
    obtain ⟨e, step⟩ := turn.step
    refine ⟨e.toList ++ events, ?_⟩
    rw [List.append_assoc]
    exact run.step step

theorem Leads.settings {kind : Site → Site → Prop} {scene scene' : Scene}
    (h : Leads kind scene scene') :
    scene'.site.arena.file = scene.site.arena.file ∧
      scene'.site.arena.settings = scene.site.arena.settings := by
  induction h with
  | refl => exact ⟨rfl, rfl⟩
  | tail _ turn ih =>
    obtain ⟨file, settings⟩ := ih
    cases turn with
    | act before after h =>
      exact ⟨h.steady.file.trans file, h.steady.settings.trans settings⟩
    | aside callers h _ => exact ⟨h.file.trans file, h.settings.trans settings⟩

theorem Leads.gate {kind : Site → Site → Prop} {scene scene' : Scene}
    (h : Leads kind scene scene') :
    scene'.callers.countP Caller.holdsGate + scene.site.arena.isHeld.toNat =
      scene.callers.countP Caller.holdsGate + scene'.site.arena.isHeld.toNat := by
  induction h with
  | refl => rfl
  | tail _ turn ih =>
    obtain ⟨_, step⟩ := turn.step
    have one := step.gate
    omega

/-- The gate is as it was if as many callers hold it. -/
theorem Leads.isHeld {kind : Site → Site → Prop} {scene scene' : Scene}
    (h : Leads kind scene scene')
    (same : scene'.callers.countP Caller.holdsGate = scene.callers.countP Caller.holdsGate) :
    scene'.site.arena.isHeld = scene.site.arena.isHeld := by
  have gate := h.gate
  rw [same] at gate
  rw [Bool.eq_iff_iff, ← Bool.toNat_eq_one, ← Bool.toNat_eq_one, Nat.add_left_cancel gate]

variable {kind : Site → Site → Prop}

theorem Leads.refl (scene : Scene) : Leads kind scene scene := Relation.ReflTransGen.refl

theorem Leads.trans {a b c : Scene} (h : Leads kind a b) (h' : Leads kind b c) : Leads kind a c :=
  Relation.ReflTransGen.trans h h'

theorem Leads.aside {site site' : Site} (callers : List Caller) (h : Aside site site')
    (of : kind site site') : Leads kind ⟨site, callers⟩ ⟨site', callers⟩ :=
  Relation.ReflTransGen.single (.aside callers h of)

/-- Whatever leaves the disk alone is of a kind. -/
def HasStill (kind : Site → Site → Prop) : Prop :=
  ∀ ⦃site site' : Site⦄, Still site site' → kind site site'

theorem Leads.still (still : HasStill kind) {site site' : Site} (callers : List Caller)
    (h : Still site site') : Leads kind ⟨site, callers⟩ ⟨site', callers⟩ :=
  Leads.aside callers h.toAside (still h)

theorem Leads.act {site site' : Site} {c c' : Option Caller} {e : Option Event}
    (callers : List Caller) (h : Act site c e site' c') :
    Leads kind ⟨site, callers ++ c.toList⟩ ⟨site', callers ++ c'.toList⟩ := by
  have turn : Turn kind _ _ := Turn.act callers [] h
  rw [List.append_nil, List.append_nil] at turn
  exact Relation.ReflTransGen.single turn

variable {site site' : Site} (callers : List Caller)

theorem Leads.come {c : Caller} {e : Option Event} (h : Act site none e site' (some c)) :
    Leads kind ⟨site, callers⟩ ⟨site', callers ++ [c]⟩ := by
  have step := @Leads.act kind _ _ _ _ _ callers h
  rw [Option.toList_none, List.append_nil] at step
  exact step

theorem Leads.go {c : Caller} {e : Option Event} (h : Act site (some c) e site' none) :
    Leads kind ⟨site, callers ++ [c]⟩ ⟨site', callers⟩ := by
  have step := @Leads.act kind _ _ _ _ _ callers h
  rw [Option.toList_none, List.append_nil] at step
  exact step

/-- A site goes on to another one, whoever is there, and all are where they were. -/
def Goes (kind : Site → Site → Prop) (site site' : Site) : Prop :=
  ∀ callers, Leads kind ⟨site, callers⟩ ⟨site', callers⟩

instance : IsPreorder Site (Goes kind) where
  refl _ _ := Leads.refl _
  trans _ _ _ a b callers := (a callers).trans (b callers)

theorem Goes.isHeld (h : Goes kind site site') : site'.arena.isHeld = site.arena.isHeld :=
  (h []).isHeld rfl

end Scene

/-- All that an observer does is steps of callers who come and go. -/
def Observer.GoesAlong (kind : Site → Site → Prop) (observe : Observer) : Prop :=
  ∀ progress, Work.Within (Scene.Goes kind) (observe progress)

theorem Observer.IsQuiet.goesAlong {observe : Observer} (quiet : observe.IsQuiet)
    {kind : Site → Site → Prop} (still : Scene.HasStill kind) : observe.GoesAlong kind := by
  intro progress site callers
  obtain ⟨noted, told⟩ := quiet progress site
  rw [told]
  exact Scene.Leads.still still _
    ⟨⟨rfl, rfl, rfl, rfl, rfl, Nat.le_refl _, Nat.le_refl _⟩, rfl⟩

namespace Scene

variable {kind : Site → Site → Prop} {site site' : Site} (callers : List Caller)

/-! ## Passes -/

theorem playMatch_within (total : Nat) (f : Fixture) (p : Pass) :
    Work.Within Still (Site.playMatch total f p) :=
  fun _ => ⟨⟨rfl, rfl, rfl, rfl, rfl, Nat.le_refl _, Nat.le_succ _⟩, rfl⟩

theorem playFixture_within (total : Nat) (f : Fixture) (p : Pass) :
    Work.Within Still (Site.playFixture total f p) :=
  Site.playFixture_within still_record playMatch_within total f p

section

variable {R : Site → Site → Prop} [IsPreorder Site R] {observe : Observer}

/-- A tournament keeps what its observer keeps, if nothing that leaves store and disk alone breaks
it. -/
theorem playGrand_within (still : HasStill R)
    (observed : ∀ progress, Work.Within R (observe progress)) (strategies : List Strategy) :
    Work.Within R (Site.playGrand observe strategies) :=
  Site.playGrand_within (fun site entries => still (still_record site entries))
    (fun total f p site => still (playMatch_within total f p site)) observed strategies

theorem playOnSave_within (still : HasStill R)
    (observed : ∀ progress, Work.Within R (observe progress)) (new : Strategy)
    (existing : List Strategy) : Work.Within R (Site.playOnSave observe new existing) :=
  Site.playOnSave_within (fun site entries => still (still_record site entries))
    (fun total f p site => still (playMatch_within total f p site)) observed new existing

end

/-- The matches of a pass as steps, up to the end or up to a fixture that cannot be played. -/
theorem playFixtures_leads {observe : Observer} (along : observe.GoesAlong kind)
    (still : HasStill kind) (holdsGate : Bool)
    {total : Nat} {fixtures : List Fixture} {p : Pass} {result : Except Fault Pass}
    (h : Site.playFixtures observe total fixtures p site = (result, site')) :
    ∃ left q, (∀ p', result = .ok p' → left = [] ∧ q = p') ∧
      Leads kind ⟨site, callers ++ [⟨holdsGate, .playing total fixtures p⟩]⟩
        ⟨site', callers ++ [⟨holdsGate, .playing total left q⟩]⟩ := by
  induction fixtures generalizing p site with
  | nil =>
    cases h
    exact ⟨[], p, fun p' e => ⟨rfl, Except.ok.inj e⟩, Leads.refl _⟩
  | cons f rest ih =>
    rcases Work.bind_cases h with ⟨⟨q, r⟩, site1, one, h⟩ | ⟨fault, one, rfl⟩
    · have first : Leads kind ⟨site, callers ++ [⟨holdsGate, .playing total (f :: rest) p⟩]⟩
          ⟨site1, callers ++ [⟨holdsGate, .playing total rest q⟩]⟩ :=
        Leads.act callers (.play one)
      have observed := along ⟨q.records.length, total, r⟩ site1
      rcases Work.bind_cases h with ⟨_, site2, told, h⟩ | ⟨fault, failed, rfl⟩
      · rw [told] at observed
        obtain ⟨left, q', done, later⟩ := ih h
        exact ⟨left, q', done, first.trans ((observed _).trans later)⟩
      · rw [failed] at observed
        exact ⟨rest, q, fun p' ok => (by cases ok), first.trans (observed _)⟩
    · have aside := playFixture_within total f p site
      rw [one] at aside
      exact ⟨f :: rest, p, fun p' ok => (by cases ok), Leads.still still _ aside⟩

theorem playPass_leads {observe : Observer} (along : observe.GoesAlong kind)
    (still : HasStill kind) (holdsGate : Bool)
    {fixtures : List Fixture} {p : Pass} {result : Except Fault Outcome}
    (h : Site.playPass observe fixtures p site = (result, site')) :
    ∃ left q, (∀ o, result = .ok o → left = [] ∧ ∃ finishedAt, o = q.finish finishedAt) ∧
      Leads kind ⟨site, callers ++ [⟨holdsGate, .playing fixtures.length fixtures p⟩]⟩
        ⟨site', callers ++ [⟨holdsGate, .playing fixtures.length left q⟩]⟩ := by
  rcases Work.bind_cases h with ⟨p', site1, played, h⟩ | ⟨fault, failed, rfl⟩
  · obtain ⟨left, q, done, steps⟩ := playFixtures_leads callers along still holdsGate played
    obtain ⟨rfl, rfl⟩ := done p' rfl
    cases h
    have logged := still_record site1 [⟨.info, q.summary⟩]
    refine ⟨[], q, fun o e => ⟨rfl, _, (Except.ok.inj e).symm⟩, ?_⟩
    exact steps.trans (Leads.still still _ logged)
  · obtain ⟨left, q, -, steps⟩ := playFixtures_leads callers along still holdsGate failed
    exact ⟨left, q, fun o e => (by cases e), steps⟩

/-! ## Saves -/

theorem applyOutcome_leads (holdsGate : Bool) {total : Nat} {p : Pass} {finishedAt : Timestamp}
    {result : Except Fault Unit}
    (h : Site.applyOutcome (p.finish finishedAt) site = (result, site')) :
    Leads kind ⟨site, callers ++ [⟨holdsGate, .playing total [] p⟩]⟩
      ⟨site', callers ++ [⟨holdsGate, .done⟩]⟩ := by
  cases result with
  | ok => exact Leads.act callers (.commit finishedAt h)
  | error fault => exact Leads.act callers (.commitFails finishedAt h)

theorem finishSave_leads {observe : Observer} (along : observe.GoesAlong kind)
    (still : HasStill kind) {new : Strategy}
    {opponents : List Strategy} {result : Except Fault (Strategy × Outcome)}
    (h : Site.finishSave observe ⟨new, opponents⟩ site = (result, site')) :
    Leads kind ⟨site, callers ++ [⟨false, .playing (Schedule.challenge new opponents).length
      (Schedule.challenge new opponents) (.onSave site.host.universalNow new)⟩]⟩
      ⟨site', callers⟩ := by
  have leave {s : Site} (stage : Stage) :
      Leads kind ⟨s, callers ++ [⟨false, stage⟩]⟩ ⟨s, callers⟩ := Leads.go callers .leave
  have pass {result : Except Fault Outcome} {s : Site}
      (h : Site.playOnSave observe new opponents site = (result, s)) :
      ∃ left q, (∀ o, result = .ok o → left = [] ∧ ∃ finishedAt, o = q.finish finishedAt) ∧
        Leads kind ⟨site, callers ++ [⟨false, .playing (Schedule.challenge new opponents).length
          (Schedule.challenge new opponents) (.onSave site.host.universalNow new)⟩]⟩
          ⟨s, callers ++ [⟨false, .playing (Schedule.challenge new opponents).length left q⟩]⟩ := by
    rcases Work.bind_cases h with ⟨_, s1, named, h⟩ | ⟨fault, refused, rfl⟩
    · rw [Work.lift_state named] at h
      have logged := still_record site
        [⟨.info, "On-save tournament: " ++ new.name.plain ++
          s!" vs {(Schedule.challenge new opponents).length} opponents"⟩]
      obtain ⟨left, q, done, steps⟩ := playPass_leads callers along still false h
      exact ⟨left, q, done, (Leads.still still _ logged).trans steps⟩
    · rw [Work.lift_state refused]
      exact ⟨_, _, fun o e => (by cases e), Leads.refl _⟩
  rcases Work.bind_cases h with ⟨o, s1, played, h⟩ | ⟨fault, failed, rfl⟩
  · obtain ⟨left, q, done, steps⟩ := pass played
    obtain ⟨rfl, finishedAt, rfl⟩ := done o rfl
    rcases Work.bind_cases h with ⟨_, s2, committed, h⟩ | ⟨fault, failed, rfl⟩
    · cases h
      exact steps.trans ((applyOutcome_leads callers false committed).trans (leave _))
    · exact steps.trans ((applyOutcome_leads callers false failed).trans (leave _))
  · obtain ⟨left, q, -, steps⟩ := pass failed
    exact steps.trans (leave _)

theorem beginSave_leads {request : SaveRequest} {new : Strategy} {opponents : List Strategy}
    (h : Site.beginSave (.text request.name) request.tree (.ofOption request.authorId)
      (.ofOption request.author) site = (.ok ⟨new, opponents⟩, site')) :
    Leads kind ⟨site, callers⟩ ⟨site', callers ++ [⟨false,
      .playing (Schedule.challenge new opponents).length (Schedule.challenge new opponents)
        (.onSave site'.host.universalNow new)⟩]⟩ := by
  obtain ⟨name, author, named, shown, ranked, added⟩ := Site.beginSave_ok h
  exact (Leads.come callers (.look named shown ranked)).trans (Leads.act callers (.store _ added))

theorem beginSave_leads_of_error {request : SaveRequest} {fault : Fault}
    (h : Site.beginSave (.text request.name) request.tree (.ofOption request.authorId)
      (.ofOption request.author) site = (.error fault, site')) :
    Leads kind ⟨site, callers⟩ ⟨site', callers⟩ := by
  cases Site.beginSave_error h with
  | unnamed | unshown | unlisted => exact Leads.refl _
  | unstored named shown ranked failed =>
    exact (Leads.come callers (.look named shown ranked)).trans
      ((Leads.act callers (.storeFails failed)).trans (Leads.go callers .leave))

theorem save_leads {observe : Observer} (along : observe.GoesAlong kind)
    (still : HasStill kind) {request : SaveRequest}
    {result : Except Fault (Strategy × Outcome)}
    (h : Site.save observe request site = (result, site')) :
    Leads kind ⟨site, callers⟩ ⟨site', callers⟩ := by
  rcases Work.bind_cases h with ⟨⟨new, opponents⟩, site1, begun, h⟩ | ⟨fault, begun, rfl⟩
  · exact (beginSave_leads callers begun).trans (finishSave_leads callers along still h)
  · exact beginSave_leads_of_error callers begun

/-! ## Under the gate -/

/-- Work for which the gate is claimed is a run of its holder. -/
def LeadsUnderGate {α : Type} (kind : Site → Site → Prop) (work : Work Site α) (site : Site) :
    Prop :=
  ∀ callers : List Caller, ∃ stage, Leads kind ⟨site, callers ++ [⟨true, .admitted⟩]⟩
    ⟨(work site).2, callers ++ [⟨true, stage⟩]⟩

/-- It keeps the gate held, since its holder does not leave. -/
theorem LeadsUnderGate.isHeld {α : Type} {work : Work Site α} (h : LeadsUnderGate kind work site) :
    (work site).2.arena.isHeld = site.arena.isHeld := by
  obtain ⟨stage, steps⟩ := h []
  exact steps.isHeld rfl

theorem gated_leads (still : HasStill kind) {α : Type} {warning : Text} {refused : α}
    {work : Work Site α} (h : LeadsUnderGate kind work (site.withGate true)) :
    Leads kind ⟨site, callers⟩ ⟨(Site.gated warning refused work site).2, callers⟩ := by
  unfold Site.gated
  cases held : site.arena.isHeld with
  | true =>
    exact Leads.still still _ (still_record _ _)
  | false =>
    obtain ⟨stage, steps⟩ := h callers
    have kept := h.isHeld
    have claimed : Site.tryBegin site = (.ok true, site.withGate true) := by
      unfold Site.tryBegin
      rw [held]
      rfl
    have released : Site.endPass (work (site.withGate true)).2 =
        (.ok (), (work (site.withGate true)).2.withGate false) := by
      unfold Site.endPass
      rw [kept]
      rfl
    exact (Leads.come callers (.claim claimed)).trans
      (steps.trans (Leads.go callers (.release released)))

theorem playGrand_leads {observe : Observer} (along : observe.GoesAlong kind)
    (still : HasStill kind)
    {strategies : List Strategy} {result : Except Fault Outcome}
    (h : Site.playGrand observe strategies site = (result, site')) :
    ∃ left q, (∀ o, result = .ok o → left = [] ∧ ∃ finishedAt, o = q.finish finishedAt) ∧
      Leads kind ⟨site, callers ++ [⟨true, .playing (Schedule.roundRobin strategies).length
        (Schedule.roundRobin strategies) (.grand site.host.universalNow strategies)⟩]⟩
        ⟨site', callers ++ [⟨true, .playing (Schedule.roundRobin strategies).length left q⟩]⟩ := by
  unfold Site.playGrand at h
  rw [Work.bind_of_ok (Work.get_apply site)] at h
  rcases Work.bind_cases h with ⟨_, s1, named, h⟩ | ⟨fault, refused, rfl⟩
  · rw [Work.lift_state named] at h
    have logged := still_record site
      (Pass.heading site.arena.settings.name.plain site.arena.settings.rounds.plain strategies
        (Schedule.roundRobin strategies).length)
    obtain ⟨left, q, done, steps⟩ := playPass_leads callers along still true h
    exact ⟨left, q, done, (Leads.still still _ logged).trans steps⟩
  · rw [Work.lift_state refused]
    exact ⟨_, _, fun o e => (by cases e), Leads.refl _⟩

theorem areEnough_cases {strategies : List Strategy} {result : Except Fault Bool}
    (h : Site.areEnough strategies site = (result, site')) :
    Still site site' ∧ (result = .ok false ∨ result = .ok true ∧ 2 ≤ strategies.length) := by
  unfold Site.areEnough at h
  split at h
  · cases h
    exact ⟨still_record _ _, .inl rfl⟩
  · cases h
    exact ⟨refl_of _ _, .inr ⟨rfl, by omega⟩⟩

theorem commitGrand_still (site : Site) (o : Outcome) :
    ∃ middle, (∃ result, Site.applyOutcome o site = (result, middle)) ∧
      Still middle (Site.commitGrand o site).2 := by
  refine ⟨(Site.applyOutcome o site).2, ⟨_, rfl⟩, ?_⟩
  unfold Site.commitGrand
  rcases Site.applyOutcome o site with ⟨_ | _, middle⟩
  · exact still_record _ _
  · exact refl_of _ _

/-- What an arena with the file and the settings of a site exports is of a kind. -/
def HasExports (kind : Site → Site → Prop) (site : Site) : Prop :=
  ∀ (o : Outcome) (s : Site), s.arena.file = site.arena.file →
    s.arena.settings = site.arena.settings → kind s (Site.exportOutcome o s).2

theorem grandUnderGate_leads {observe : Observer} (along : observe.GoesAlong kind)
    (still : HasStill kind) (exports : HasExports kind site) :
    LeadsUnderGate kind (Site.grandUnderGate observe) site := by
  intro callers
  rcases h : Site.grandUnderGate observe site with ⟨result, site'⟩
  unfold Site.grandUnderGate at h
  rcases Work.bind_cases h with ⟨strategies, s1, ranked, h⟩ | ⟨_, refused, -⟩
  case inr =>
    rw [(Site.ranked_eq refused).2]
    exact ⟨_, Leads.refl _⟩
  rw [(Site.ranked_eq ranked).2] at h
  rcases Work.bind_cases h with ⟨enough, s2, judged, h⟩ | ⟨_, judged, -⟩
  case inr =>
    rcases (areEnough_cases judged).2 with e | ⟨e, -⟩ <;> cases e
  obtain ⟨aside, e | ⟨e, two⟩⟩ := areEnough_cases judged
  · cases e
    cases h
    exact ⟨_, Leads.still still _ aside⟩
  cases e
  -- the caller musters its entrants, plays, and commits; what is exported happens aside
  have mustered := @Leads.act kind _ _ _ _ _ callers (.muster s2.host.universalNow ranked two)
  rw [(Site.ranked_eq ranked).2] at mustered
  have begun := mustered.trans (Leads.still still _ aside)
  rcases Work.bind_cases h with ⟨o, s3, played, h⟩ | ⟨_, failed, -⟩
  case inr =>
    obtain ⟨left, q, -, steps⟩ := playGrand_leads callers along still failed
    exact ⟨_, begun.trans steps⟩
  obtain ⟨left, q, done, steps⟩ := playGrand_leads callers along still played
  obtain ⟨rfl, finishedAt, rfl⟩ := done o rfl
  obtain ⟨middle, ⟨taken, e⟩, logged⟩ := commitGrand_still s3 (q.finish finishedAt)
  have committed := (begun.trans steps).trans
    ((applyOutcome_leads callers true e).trans (Leads.still still _ logged))
  rcases Work.bind_cases h with ⟨_, s4, ok, h⟩ | ⟨_, failed, -⟩
  case inr =>
    rw [failed] at committed
    exact ⟨_, committed⟩
  rw [ok] at committed
  obtain ⟨file, settings⟩ := committed.settings
  have exported := exportOutcome_within (q.finish finishedAt) s4
  have of := exports (q.finish finishedAt) s4 file settings
  rcases Work.bind_cases h with ⟨_, s5, ok, h⟩ | ⟨_, failed, -⟩
  · rw [ok] at exported of
    cases h
    exact ⟨_, committed.trans (Leads.aside _ exported of)⟩
  · rw [failed] at exported of
    exact ⟨_, committed.trans (Leads.aside _ exported of)⟩

/-- Anything may happen aside. -/
def Any (_ _ : Site) : Prop := True

theorem hasStill_any : HasStill Any := fun _ _ _ => trivial

theorem hasExports_any (site : Site) : HasExports Any site := fun _ _ _ _ => trivial

theorem resetStore_leads (site : Site) :
    LeadsUnderGate kind (do Site.resetStore; return true : Work Site Bool) site := by
  intro callers
  rw [Work.bind_apply]
  rcases h : Site.resetStore site with ⟨fault | _, site'⟩
  · exact ⟨_, Leads.act callers (.resetFails h)⟩
  · exact ⟨_, Leads.act callers (.reset h)⟩

theorem clearStore_leads (site : Site) :
    LeadsUnderGate kind (do Site.clearStore; return true : Work Site Bool) site := by
  intro callers
  rw [Work.bind_apply]
  rcases h : Site.clearStore site with ⟨fault | _, site'⟩
  · exact ⟨_, Leads.act callers (.clearFails h)⟩
  · exact ⟨_, Leads.act callers (.clear h)⟩

end Scene

/-! ## Calls -/

/-- What can be asked of an arena. -/
inductive Call where
  | save (request : SaveRequest)
  | grand
  | reset
  | clear

namespace Call

/-- The site after a call, whether it succeeded or failed. -/
def after (observe : Observer) (call : Call) (site : Site) : Site :=
  match call with
  | save request => (Site.save observe request site).2
  | grand => (Site.runGrand observe site).2
  | reset => (Site.resetScores site).2
  | clear => (Site.clearArena site).2

/-- A call that nobody comes in between is a run of steps. All that happens aside leaves the disk
alone, but for the exports of a grand tournament. -/
theorem leads {observe : Observer} {kind : Site → Site → Prop} (along : observe.GoesAlong kind)
    (still : Scene.HasStill kind) (call : Call) {site : Site}
    (exports : Scene.HasExports kind site) (callers : List Caller) :
    Scene.Leads kind ⟨site, callers⟩ ⟨call.after observe site, callers⟩ := by
  cases call with
  | save request => exact Scene.save_leads callers along still rfl
  | grand =>
    have exports' : Scene.HasExports kind (site.withGate true) := exports
    exact Scene.gated_leads callers still (Scene.grandUnderGate_leads along still exports')
  | reset => exact Scene.gated_leads callers still (Scene.resetStore_leads _)
  | clear => exact Scene.gated_leads callers still (Scene.clearStore_leads _)

theorem run {observe : Observer} (quiet : observe.IsQuiet) (call : Call) {start : Scene}
    {past : List Event} {site : Site} {callers : List Caller}
    (run : Scene.Run start past ⟨site, callers⟩) :
    ∃ events, Scene.Run start (events ++ past) ⟨call.after observe site, callers⟩ := by
  have steps := call.leads (quiet.goesAlong Scene.hasStill_any) Scene.hasStill_any
    (Scene.hasExports_any site) callers
  exact steps.run run

end Call
end IteratedDilemma
