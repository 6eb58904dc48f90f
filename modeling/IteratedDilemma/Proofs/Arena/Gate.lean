import IteratedDilemma.Proofs.Arena.Observed

/-! The gate of an arena. At any point of a run it is held exactly while one caller is between claim
and release, and never by two (`Scene.Run.gate`). All that clients do, in the observers of their
passes too, goes on along such runs and leaves the gate as it was (`Client.goes`). Main statement:
what needs the gate is refused while it is held, and claims it and gives it back while it is free
(`Scene.gate_excludes`). -/
namespace IteratedDilemma
set_option autoImplicit false

/-! ## Clients -/

/-- Work of those who use an arena: calls, whose observers do such work again, things aside, work
for which the gate is claimed, and what is put together of these, failures caught or not. -/
inductive Client : {α : Type} → Work Site α → Prop where
  | aside {α : Type} {x : Work Site α} : Work.Within Scene.Aside x → Client x
  | save {observe : Observer} (request : SaveRequest) :
      (∀ progress, Client (observe progress)) → Client (Site.save observe request)
  | grand {observe : Observer} :
      (∀ progress, Client (observe progress)) → Client (Site.runGrand observe)
  | rehearse {observe : Observer} (strategies : List Strategy) :
      (∀ progress, Client (observe progress)) → Client (Site.rehearseGrand observe strategies)
  | reset : Client Site.resetScores
  | clear : Client Site.clearArena
  | gated {α : Type} {x : Work Site α} (warning : Text) (refused : α) :
      Client x → Client (Site.gated warning refused x)
  | bind {α β : Type} {x : Work Site α} {f : α → Work Site β} :
      Client x → (∀ a, Client (f a)) → Client (x >>= f)
  | catching {α : Type} {x : Work Site α} {handle : Fault → Work Site α} :
      Client x → (∀ fault, Client (handle fault)) → Client (tryCatch x handle)

def Observer.IsClient (observe : Observer) : Prop := ∀ progress, Client (observe progress)

namespace Scene

theorem goes_of_aside {site site' : Site} (h : Aside site site') : Goes Any site site' :=
  fun callers => Leads.aside callers h trivial

theorem playGrand_goes {observe : Observer} (along : observe.GoesAlong Any)
    (strategies : List Strategy) : Work.Within (Goes Any) (Site.playGrand observe strategies) :=
  playGrand_within (fun _ _ still => goes_of_aside still.toAside) along strategies

theorem leadsUnderGate_of_goes {α : Type} {work : Work Site α}
    (goes : Work.Within (Goes Any) work) (site : Site) : LeadsUnderGate Any work site :=
  fun _ => ⟨_, goes site _⟩

theorem gated_goes {α : Type} {warning : Text} {refused : α} {work : Work Site α}
    (h : ∀ site, LeadsUnderGate Any work site) :
    Work.Within (Goes Any) (Site.gated warning refused work) :=
  fun _ callers => gated_leads callers hasStill_any (h _)

end Scene

open Scene in
/-- Whatever a client does is steps of callers who come and go. -/
theorem Client.goes {α : Type} {x : Work Site α} (h : Client x) : Work.Within (Goes Any) x := by
  induction h with
  | aside h => exact fun site => goes_of_aside (h site)
  | save request _ along => exact fun _ callers => save_leads callers along hasStill_any rfl
  | grand _ along =>
    exact gated_goes fun site => grandUnderGate_leads along hasStill_any (hasExports_any site)
  | rehearse strategies _ along =>
    refine Work.within_bind (fun site => goes_of_aside (areEnough_cases rfl).1.toAside) fun _ => ?_
    refine Work.within_ite (gated_goes (leadsUnderGate_of_goes ?_)) (Work.within_pure _)
    exact Work.within_bind (playGrand_goes along strategies) fun _ => Work.within_pure _
  | reset => exact gated_goes resetStore_leads
  | clear => exact gated_goes clearStore_leads
  | gated _ _ _ goes => exact gated_goes (leadsUnderGate_of_goes goes)
  | bind _ _ first later => exact Work.within_bind first later
  | catching _ _ first later => exact Work.within_tryCatch first later

/-! ## Calls that need the gate -/

namespace Site

/-- A call that needs the gate. While that is held the call is refused, and all that comes of it is
a warning. While it is free the call claims it, does its work, and gives it back, whatever the work
comes to. -/
structure NeedsGate {α : Type} (site : Site) (call : Work Site α) (refused : α)
    (work : Work Site α) : Prop where
  refused : site.arena.isHeld = true → ∃ warning,
    call site = (.ok refused, { site with host := site.host.record [⟨.warning, warning⟩] })
  admitted : site.arena.isHeld = false → ∃ begun result ended site',
    tryBegin site = (.ok true, begun) ∧ work begun = (result, ended) ∧
      ended.arena.isHeld = true ∧ endPass ended = (.ok (), site') ∧
      call site = (result, site') ∧ site'.arena.isHeld = false

theorem needsGate_gated {α : Type} {warning : Text} {refused : α} {work : Work Site α} (site : Site)
    (leads : Scene.LeadsUnderGate Scene.Any work (site.withGate true)) :
    site.NeedsGate (gated warning refused work) refused work where
  refused held := by
    unfold gated
    rw [if_pos held]
    exact ⟨warning, rfl⟩
  admitted free := by
    have kept : (work (site.withGate true)).2.arena.isHeld = true := leads.isHeld
    refine ⟨site.withGate true, (work (site.withGate true)).1, (work (site.withGate true)).2,
      (work (site.withGate true)).2.withGate false, ?_, rfl, kept, ?_, ?_, rfl⟩
    · unfold tryBegin
      rw [free]
      rfl
    · unfold endPass
      rw [if_pos kept]
    · unfold gated
      rw [free]
      rfl

theorem needsGate_rehearseGrand {observe : Observer} (client : observe.IsClient)
    {strategies : List Strategy} (enough : 2 ≤ strategies.length) (site : Site) :
    site.NeedsGate (rehearseGrand observe strategies) none
      (some <$> playGrand observe strategies) := by
  have goes : Work.Within (Scene.Goes Scene.Any)
      (some <$> playGrand observe strategies : Work Site (Option Outcome)) :=
    Work.within_bind (Scene.playGrand_goes (fun progress => (client progress).goes) strategies)
      fun _ => Work.within_pure _
  have gate (warning : Text) : site.NeedsGate
      (gated warning none (some <$> playGrand observe strategies)) none
      (some <$> playGrand observe strategies) :=
    needsGate_gated site (Scene.leadsUnderGate_of_goes goes _)
  have begun : rehearseGrand observe strategies site = _ :=
    Work.bind_of_ok (areEnough_of_enough enough site)
  exact ⟨fun held => begun ▸ (gate _).refused held, fun free => begun ▸ (gate _).admitted free⟩

/-! ## Observers under the gate -/

variable {observe observe' : Observer}

/-- Observers that do the same while the gate is held. -/
def AgreeUnderGate (observe observe' : Observer) : Prop :=
  ∀ progress site, site.arena.isHeld = true → observe' progress site = observe progress site

theorem playFixtures_congr (client : observe.IsClient) (agree : AgreeUnderGate observe observe')
    (total : Nat) (fixtures : List Fixture) (p : Pass) {site : Site}
    (held : site.arena.isHeld = true) :
    playFixtures observe' total fixtures p site = playFixtures observe total fixtures p site := by
  induction fixtures generalizing p site with
  | nil => rfl
  | cons f rest ih =>
    refine Work.bind_congr_right fun ⟨q, r⟩ site1 one => ?_
    have kept := (Scene.playFixture_within total f p site).isHeld
    rw [one] at kept
    have held1 : site1.arena.isHeld = true := kept.trans held
    dsimp only
    rw [Work.bind_congr (agree _ site1 held1)]
    refine Work.bind_congr_right fun _ site2 told => ih _ ?_
    have kept := ((client ⟨q.records.length, total, r⟩).goes site1).isHeld
    rw [told] at kept
    exact kept.trans held1

theorem playPass_congr (client : observe.IsClient) (agree : AgreeUnderGate observe observe')
    (fixtures : List Fixture) (p : Pass) {site : Site} (held : site.arena.isHeld = true) :
    playPass observe' fixtures p site = playPass observe fixtures p site :=
  Work.bind_congr (playFixtures_congr client agree _ fixtures p held) _

theorem playGrand_congr (client : observe.IsClient) (agree : AgreeUnderGate observe observe')
    (strategies : List Strategy) {site : Site} (held : site.arena.isHeld = true) :
    playGrand observe' strategies site = playGrand observe strategies site := by
  unfold playGrand
  refine Work.bind_congr_right fun _ _ got => ?_
  cases got
  refine Work.bind_congr_right fun _ _ named => ?_
  rw [Work.lift_state named]
  refine Work.bind_congr_right fun _ _ announced => ?_
  cases announced
  exact playPass_congr client agree _ _ held

/-- The observer of a grand tournament finds the gate held: what it would do while it is free does
not matter. -/
theorem runGrand_congr (client : observe.IsClient) (agree : AgreeUnderGate observe observe') :
    runGrand observe' = runGrand observe := by
  funext site
  unfold runGrand gated
  split
  · rfl
  have same : grandUnderGate observe' (site.withGate true) =
      grandUnderGate observe (site.withGate true) := by
    refine Work.bind_congr_right fun strategies site1 listed => ?_
    rw [(ranked_eq listed).2]
    refine Work.bind_congr_right fun enough site2 judged => ?_
    have held : site2.arena.isHeld = true := (Scene.areEnough_cases judged).1.isHeld
    split
    · rfl
    · exact Work.bind_congr (playGrand_congr client agree strategies held) _
  rw [same]

/-! ## Saves and the gate -/

end Site

/-- Work that does the same whether the gate is held or free, and leaves it so. -/
def Work.IgnoresGate {α : Type} (x : Work Site α) : Prop :=
  ∀ site held, x (Site.withGate site held) = ((x site).1, (x site).2.withGate held)

namespace Work

variable {α β : Type}

theorem ignoresGate_pure (a : α) : IgnoresGate (pure a) := fun _ _ => rfl

theorem ignoresGate_lift (r : Except Fault α) : IgnoresGate (liftM r) := fun _ _ => rfl

theorem ignoresGate_onHost (work : Work Host α) : IgnoresGate (Site.onHost work) := fun _ _ => rfl

theorem ignoresGate_bind {x : Work Site α} {f : α → Work Site β} (hx : IgnoresGate x)
    (hf : ∀ a, IgnoresGate (f a)) : IgnoresGate (x >>= f) := by
  intro site held
  rw [bind_apply, bind_apply, hx site held]
  rcases x site with ⟨_ | a, site'⟩
  · rfl
  · exact hf a site' held

theorem ignoresGate_get {f : Site → Work Site α}
    (blind : ∀ site held, f (site.withGate held) = f site) (hf : ∀ site, IgnoresGate (f site)) :
    IgnoresGate (get >>= f) := by
  intro site held
  rw [bind_of_ok (get_apply _), bind_of_ok (get_apply _), blind]
  exact hf site site held

end Work

namespace Site

open Work

variable {observe : Observer}

theorem commit_ignoresGate (store : Store) : IgnoresGate (commit store) := by
  intro site held
  have file : (site.withGate held).arena.file = site.arena.file := rfl
  have host : (site.withGate held).host = site.host := rfl
  rw [commit_eq, commit_eq, file, host]
  rcases site.arena.file with _ | p
  · rfl
  · dsimp only
    rcases writeStore store p site.host with ⟨_ | _, host⟩ <;> rfl

theorem ranked_ignoresGate : IgnoresGate ranked := by
  intro site held
  rw [ranked_apply, ranked_apply]
  rfl

theorem addStrategy_ignoresGate (name : Json) (tree : LogicTree) (authorId author : Json) :
    IgnoresGate (addStrategy name tree authorId author) := by
  intro site held
  have rest (store : Store) (text : Text) (a : Strategy) :
      IgnoresGate (do commit store; log .info text; return a) :=
    ignoresGate_bind (commit_ignoresGate _) fun _ => ignoresGate_bind (ignoresGate_onHost _)
      fun _ => ignoresGate_pure _
  -- a new identifier is taken first, which leaves the gate alone
  exact rest _ _ _ (site.after site.host.nameStrategy.2 site.arena.store) held

theorem applyOutcome_ignoresGate (o : Outcome) : IgnoresGate (applyOutcome o) :=
  ignoresGate_get (fun _ _ => rfl) fun _ => ignoresGate_bind (ignoresGate_lift _) fun _ =>
    ignoresGate_bind (commit_ignoresGate _) fun _ => ignoresGate_onHost _

theorem playFixture_ignoresGate (total : Nat) (f : Fixture) (p : Pass) :
    IgnoresGate (playFixture total f p) := by
  have ready (s : Strategy) (p : Pass) : IgnoresGate (makeReady s p) := by
    refine ignoresGate_bind (ignoresGate_lift _) fun _ => ?_
    split
    · exact ignoresGate_pure _
    · exact ignoresGate_bind (ignoresGate_onHost _) fun _ => ignoresGate_pure _
  exact ignoresGate_bind (ready _ _) fun _ => ignoresGate_bind (ready _ _) fun _ _ _ => rfl

theorem playOnSave_ignoresGate (blind : ∀ progress, IgnoresGate (observe progress)) (new : Strategy)
    (existing : List Strategy) : IgnoresGate (playOnSave observe new existing) := by
  have fixtures (total : Nat) (fixtures : List Fixture) (p : Pass) :
      IgnoresGate (playFixtures observe total fixtures p) := by
    induction fixtures generalizing p with
    | nil => exact ignoresGate_pure _
    | cons f rest ih =>
      exact ignoresGate_bind (playFixture_ignoresGate _ _ _) fun _ =>
        ignoresGate_bind (blind _) fun _ => ih _
  refine ignoresGate_bind (ignoresGate_lift _) fun _ => ignoresGate_bind (ignoresGate_onHost _)
    fun _ => ignoresGate_get (fun _ _ => rfl) fun _ => ignoresGate_bind (fixtures _ _ _) fun _ =>
      ignoresGate_get (fun _ _ => rfl) fun _ => ignoresGate_bind (ignoresGate_onHost _) fun _ =>
        ignoresGate_pure _

theorem saveStrategy_ignoresGate (blind : ∀ progress, IgnoresGate (observe progress))
    (name : Json) (tree : LogicTree) (authorId author : Json) :
    IgnoresGate (saveStrategy observe name tree authorId author) := by
  have begun : IgnoresGate (beginSave name tree authorId author) :=
    ignoresGate_bind (ignoresGate_lift _) fun _ => ignoresGate_bind (ignoresGate_lift _) fun _ =>
      ignoresGate_bind ranked_ignoresGate fun _ =>
        ignoresGate_bind (addStrategy_ignoresGate _ _ _ _) fun _ => ignoresGate_pure _
  exact ignoresGate_bind begun fun pending =>
    ignoresGate_bind (playOnSave_ignoresGate blind _ _) fun _ =>
      ignoresGate_bind (applyOutcome_ignoresGate _) fun _ =>
        ignoresGate_get (fun _ _ => rfl) fun _ => ignoresGate_pure _

end Site

/-! ## Whole runs -/

namespace Scene

theorem Run.gate {start scene : Scene} {past : List Event} (run : Run start past scene)
    (nobody : start.callers = []) (free : start.site.arena.isHeld = false) :
    scene.callers.countP Caller.holdsGate = scene.site.arena.isHeld.toNat := by
  induction run with
  | start =>
    rw [nobody, free]
    rfl
  | step _ step ih =>
    have one := step.gate
    omega

/-- At any point of a run that began with nobody there and the gate free, it is held exactly while
somebody is between claim and release, and never by two. Whatever needs the gate at that point, in
the observer of a pass or not, is refused while it is held, by which nothing in the arena changes;
while it is free, it is claimed and given back. The observer of a grand tournament finds it held, so
what it would do while it is free does not matter. All that clients do goes on along such runs, so
the gate and its holder are as they were. A save leaves the gate as it was too, and does not depend
on it. -/
theorem gate_excludes {start scene : Scene} {past : List Event} (run : Run start past scene)
    (nobody : start.callers = []) (free : start.site.arena.isHeld = false) :
    (scene.callers.countP Caller.holdsGate ≤ 1 ∧
      (scene.site.arena.isHeld = true ↔ ∃ c ∈ scene.callers, c.holdsGate = true)) ∧
    (scene.site.NeedsGate Site.resetScores false (do Site.resetStore; return true) ∧
      scene.site.NeedsGate Site.clearArena false (do Site.clearStore; return true) ∧
      ∀ observe : Observer, observe.IsClient →
        scene.site.NeedsGate (Site.runGrand observe) none (Site.grandUnderGate observe) ∧
        (∀ strategies : List Strategy, 2 ≤ strategies.length →
          scene.site.NeedsGate (Site.rehearseGrand observe strategies) none
            (some <$> Site.playGrand observe strategies)) ∧
        ∀ observe' : Observer, Site.AgreeUnderGate observe observe' →
          Site.runGrand observe' scene.site = Site.runGrand observe scene.site) ∧
    (∀ (α : Type) (x : Work Site α), Client x →
      (x scene.site).2.arena.isHeld = scene.site.arena.isHeld ∧
        ∃ events, Run start (events ++ past) ⟨(x scene.site).2, scene.callers⟩) ∧
    ∀ (observe : Observer) (request : SaveRequest),
      (observe.IsClient →
        (Site.save observe request scene.site).2.arena.isHeld = scene.site.arena.isHeld) ∧
      ((∀ progress, (observe progress).IgnoresGate) → (Site.save observe request).IgnoresGate) := by
  have gate := run.gate nobody free
  refine ⟨⟨gate ▸ Bool.toNat_le _, ?_⟩, ⟨Site.needsGate_gated _ (resetStore_leads _),
    Site.needsGate_gated _ (clearStore_leads _), fun observe client => ⟨?_, ?_, ?_⟩⟩,
    fun α x client => ⟨(client.goes _).isHeld, (client.goes _ _).run run⟩,
    fun observe request => ⟨fun client => ((Client.save request client).goes _).isHeld,
      fun blind => Site.saveStrategy_ignoresGate blind _ _ _ _⟩⟩
  · rw [← Bool.toNat_eq_one, ← gate, ← List.countP_pos_iff]
    have most : scene.callers.countP Caller.holdsGate ≤ 1 := gate ▸ Bool.toNat_le _
    omega
  · exact Site.needsGate_gated _ (grandUnderGate_leads (fun progress => (client progress).goes)
      hasStill_any (hasExports_any _))
  · exact fun strategies enough => Site.needsGate_rehearseGrand client enough _
  · exact fun observe' agree => congrFun (Site.runGrand_congr client agree) _

end Scene

/-- An observer that attempts whatever needs the gate. -/
def Observer.meddling : Observer := fun _ => do
  let _ ← Site.clearArena
  let _ ← Site.resetScores
  let _ ← Site.runGrand .silent

theorem Observer.meddling_isClient : Observer.meddling.IsClient := by
  have silent : Observer.silent.IsClient := fun progress =>
    .aside (Observer.silent_isQuiet.standsAside progress)
  intro progress
  exact .bind .clear fun _ => .bind .reset fun _ => .bind (.grand silent) fun _ =>
    .aside (Work.within_pure _)

/-- Somebody claims the gate of an arena with three strategies and keeps it: all else is refused.
Before that a grand tournament whose observer attempts all of this gives it back. -/
theorem Scene.gate_excludes_trio :
    (∃ past, Run ⟨.trio, []⟩ past ⟨Site.trio.withGate true, [⟨true, .admitted⟩]⟩ ∧
      (∃ site', Site.clearArena (Site.trio.withGate true) = (.ok false, site') ∧
        site'.arena = (Site.trio.withGate true).arena) ∧
      ∃ site', Site.runGrand .meddling (Site.trio.withGate true) = (.ok none, site') ∧
        site'.arena = (Site.trio.withGate true).arena) ∧
    ∃ result site', Site.runGrand .meddling .trio = (result, site') ∧
      site'.arena.isHeld = false := by
  have here : Run ⟨.trio, []⟩ [] ⟨.trio, []⟩ := .start
  have claimed := here.step (.act [] [] (.claim rfl))
  obtain ⟨-, ⟨-, clear, grand⟩, -⟩ := gate_excludes claimed rfl rfl
  obtain ⟨-, ⟨-, -, grandFree⟩, -⟩ := gate_excludes here rfl rfl
  obtain ⟨_, cleared⟩ := clear.refused rfl
  obtain ⟨_, refused⟩ := (grand .meddling Observer.meddling_isClient).1.refused rfl
  obtain ⟨_, result, _, site', -, -, -, -, played, released⟩ :=
    (grandFree .meddling Observer.meddling_isClient).1.admitted rfl
  exact ⟨⟨_, claimed, ⟨_, cleared, rfl⟩, _, refused, rfl⟩, result, site', played, released⟩

end IteratedDilemma
