import IteratedDilemma.Proofs.Arena.Playing
import IteratedDilemma.Proofs.Tournament.Points

/-! Passes between strategies that use no random actions. Such a pass never fails, leaves the arena
alone, and gives everybody what the meetings of its fixtures pay (`playPass_fixed`). -/
namespace IteratedDilemma
set_option autoImplicit false

open Tournament (pointsTo)

/-- An observer that only notes something. -/
def Observer.IsQuiet (observe : Observer) : Prop :=
  ∀ progress site, ∃ noted, observe progress site = (.ok (), { site with noted })

theorem Observer.silent_isQuiet : Observer.silent.IsQuiet :=
  fun _ site => ⟨site.noted, rfl⟩

/-- Strategies that play the same matches at any time: no two have one identifier, every identifier
can be counted under, and no tree uses a random action. -/
structure AreFixed (entrants : List Strategy) : Prop where
  distinct : Distinct entrants
  names : ∀ s ∈ entrants, ∃ name, s.id.asName = .ok name
  fixed : ∀ s ∈ entrants, s.tree.usesRandom = false

theorem AreFixed.entrants {existing : List Strategy} (h : AreFixed existing) {new : Strategy}
    (name : ∃ name, new.id.asName = .ok name) (fixed : new.tree.usesRandom = false) :
    AreFixed (Schedule.entrants new existing) := by
  refine ⟨Schedule.entrants_distinct new h.distinct, fun s hs => ?_, fun s hs => ?_⟩
  · rcases List.mem_cons.1 hs with rfl | hs
    · exact name
    · exact h.names s (List.mem_filter.1 hs).1
  · rcases List.mem_cons.1 hs with rfl | hs
    · exact fixed
    · exact h.fixed s (List.mem_filter.1 hs).1

namespace Site

/-- A site after work that changes only the journal, what was noted and the count of records. -/
structure Undisturbed (site site' : Site) : Prop where
  arena : site'.arena = site.arena
  disk : site'.host.disk = site.host.disk
  now : site'.host.now = site.host.now
  strategies : site'.host.strategiesNamed = site.host.strategiesNamed

instance : IsPreorder Site Undisturbed where
  refl _ := ⟨rfl, rfl, rfl, rfl⟩
  trans _ _ _ a b := ⟨b.arena.trans a.arena, b.disk.trans a.disk, b.now.trans a.now,
    b.strategies.trans a.strategies⟩

theorem undisturbed_record (site : Site) (entries : List Entry) :
    Undisturbed site { site with host := site.host.record entries } := ⟨rfl, rfl, rfl, rfl⟩

theorem Undisturbed.universalNow {site site' : Site} (h : Undisturbed site site') :
    site'.host.universalNow = site.host.universalNow := by
  rw [Host.universalNow, Host.universalNow, h.now]

end Site

/-! ## What a pass has come to -/

namespace Pass

/-- A pass after some fixtures, with which everybody has the points of their meetings. -/
structure HasMet (rounds : Nat) (fixtures : List Fixture) (p p' : Pass) : Prop
    extends Continues rounds fixtures p p' where
  earned : ∀ id, earned id p'.records =
    earned id p.records + (fixtures.map fun f => pointsTo rounds id f.first f.second).sum

theorem hasMet_nil (rounds : Nat) (p : Pass) : HasMet rounds [] p p :=
  ⟨continues_nil rounds p, fun _ => (Int.add_zero _).symm⟩

theorem HasMet.counted_entrant {rounds : Nat} {fixtures : List Fixture} {p p' : Pass}
    {entrants : List Strategy} (met : p.HasMet rounds fixtures p')
    (hf : ∀ f ∈ fixtures, f.IsAmong entrants)
    (before : ∀ id ∈ p.deltas.ids, ∃ s ∈ entrants, s.id = id) :
    ∀ id ∈ p'.deltas.ids, ∃ s ∈ entrants, s.id = id := by
  intro id hid
  rcases met.counted id hid with old | ⟨f, h, rfl | rfl⟩
  · exact before id old
  · exact ⟨f.first, (hf f h).first, rfl⟩
  · exact ⟨f.second, (hf f h).second, rfl⟩

/-- The record of a fixture between entrants that draw nothing pays what their meeting pays. -/
theorem pointsOf_recordOf {p : Pass} {entrants : List Strategy} (among : AreFixed entrants)
    (roster : ∀ r ∈ p.roster, r ∈ entrants) {f : Fixture} (hf : f.IsAmong entrants) (site : Site)
    (id : Json) :
    (p.recordOf f site).pointsOf id = pointsTo site.arena.rounds id f.first f.second ∧
      (p.played f site).2 = site.arena.source := by
  have e : p.played f site =
      (f.first.tree.meeting f.second.tree site.arena.rounds, site.arena.source) := by
    rw [played, player_eq among.distinct roster hf.first, player_eq among.distinct roster hf.second]
    exact Match.play_meeting (among.fixed _ hf.first) (among.fixed _ hf.second) _ _
  have second : Tournament.points site.arena.rounds f.second.tree f.first.tree =
      (f.first.tree.meeting f.second.tree site.arena.rounds).score2 := by
    rw [Tournament.points, LogicTree.meeting_mirror]
    rfl
  constructor
  · rw [recordOf, e, pointsTo, second]
    rfl
  · rw [e]

theorem hasMet_cons {rounds : Nat} {f : Fixture} {rest : List Fixture} {p q p' : Pass}
    {r : MatchRecord} (hq : ∃ roster, q = { p with roster })
    (isOf : r.IsOf rounds f.first f.second)
    (points : ∀ id, r.pointsOf id = pointsTo rounds id f.first f.second)
    (h : HasMet rounds rest (q.extend r) p') : HasMet rounds (f :: rest) p p' := by
  refine ⟨continues_cons hq isOf h.toContinues, fun id => ?_⟩
  obtain ⟨roster, rfl⟩ := hq
  have step := h.earned id
  change _ = IteratedDilemma.earned id (r :: p.records) + _ at step
  rw [step, earned_cons, points, List.map_cons, List.sum_cons]
  omega

end Pass

namespace Site

variable {observe : Observer} {entrants : List Strategy}

theorem playFixtures_fixed (quiet : observe.IsQuiet) (among : AreFixed entrants) (total : Nat)
    {fixtures : List Fixture} (hf : ∀ f ∈ fixtures, f.IsAmong entrants) {p : Pass}
    (roster : ∀ r ∈ p.roster, r ∈ entrants) (site : Site) :
    ∃ p' site', playFixtures observe total fixtures p site = (.ok p', site') ∧
      p.HasMet site.arena.rounds fixtures p' ∧ Undisturbed site site' := by
  induction fixtures generalizing p site with
  | nil => exact ⟨p, site, rfl, Pass.hasMet_nil _ _, refl_of _ _⟩
  | cons f rest ih =>
    have h := hf f List.mem_cons_self
    obtain ⟨_, name1⟩ := among.names _ h.first
    obtain ⟨_, name2⟩ := among.names _ h.second
    obtain ⟨site1, played, one⟩ := playFixture_apply name1 name2 total p site
    have roster1 := Pass.roster_prepared h roster
    have points := Pass.pointsOf_recordOf among roster1 h site
    have arena : site1.arena = site.arena := by
      rw [played.arena, (points .null).2]
    let r := (p.prepared f).recordOf f site
    let q := (p.prepared f).extend r
    obtain ⟨noted, told⟩ := quiet ⟨q.records.length, total, r⟩ site1
    obtain ⟨p', site', later, met, undisturbed⟩ :=
      ih (fun g hg => hf g (List.mem_cons_of_mem _ hg)) (p := q) roster1 { site1 with noted }
    refine ⟨p', site', ?_, ?_, ?_⟩
    · rw [playFixtures, Work.bind_of_ok one]
      exact (Work.bind_of_ok told).trans later
    · obtain ⟨added, e, -⟩ := p.prepared_eq f
      have met' : q.HasMet site.arena.rounds rest p' := by
        rw [← arena]
        exact met
      have isOf := Pass.isOf_recordOf among.distinct roster1 h site
      exact Pass.hasMet_cons ⟨_, e⟩ isOf (fun id => (points id).1) met'
    · have before : Undisturbed site { site1 with noted } :=
        ⟨arena, played.disk, played.now, played.strategies⟩
      exact trans_of Undisturbed before undisturbed

/-- A whole pass between strategies that draw nothing. -/
theorem playPass_fixed (quiet : observe.IsQuiet) (among : AreFixed entrants)
    {fixtures : List Fixture} (hf : ∀ f ∈ fixtures, f.IsAmong entrants) {p : Pass}
    (roster : p.roster = []) (site : Site) :
    ∃ p' site', playPass observe fixtures p site =
        (.ok (p'.finish site.host.universalNow), site') ∧
      p.HasMet site.arena.rounds fixtures p' ∧ Undisturbed site site' := by
  obtain ⟨p', site1, played, met, undisturbed⟩ := playFixtures_fixed quiet among fixtures.length hf
    (p := p) (fun r hr => by rw [roster] at hr; cases hr) site
  refine ⟨p', { site1 with host := site1.host.record [⟨.info, p'.summary⟩] }, ?_, met,
    trans_of _ undisturbed (undisturbed_record _ _)⟩
  rw [← undisturbed.universalNow, playPass, Work.bind_of_ok played]
  rfl

theorem checkNames_fixed {strategies : List Strategy}
    (names : ∀ s ∈ strategies, ∃ name, s.id.asName = .ok name) :
    checkNames strategies = .ok () := by
  induction strategies with
  | nil => rfl
  | cons s rest ih =>
    obtain ⟨name, h⟩ := names s List.mem_cons_self
    have later := ih fun t ht => names t (List.mem_cons_of_mem _ ht)
    unfold checkNames at later ⊢
    rw [List.forM, h]
    exact later

theorem playGrand_fixed (quiet : observe.IsQuiet) (among : AreFixed entrants) (site : Site) :
    ∃ p' site', playGrand observe entrants site =
        (.ok (p'.finish site.host.universalNow), site') ∧
      (Pass.grand site.host.universalNow entrants).HasMet site.arena.rounds
        (Schedule.roundRobin entrants) p' ∧ Undisturbed site site' := by
  obtain ⟨p', site', played, met, undisturbed⟩ := playPass_fixed quiet among
    (fun f hf => Schedule.roundRobin_isAmong among.distinct hf)
    (p := .grand site.host.universalNow entrants) rfl
    { site with host := site.host.record (Pass.heading site.arena.settings.name.plain
      site.arena.settings.rounds.plain entrants (Schedule.roundRobin entrants).length) }
  refine ⟨p', site', ?_, met, trans_of _ (undisturbed_record _ _) undisturbed⟩
  unfold playGrand
  rw [Work.bind_of_ok (Work.get_apply site), checkNames_fixed among.names]
  exact played

theorem playOnSave_fixed (quiet : observe.IsQuiet) {new : Strategy} {existing : List Strategy}
    (among : AreFixed (Schedule.entrants new existing)) (site : Site) :
    ∃ p' site', playOnSave observe new existing site =
        (.ok (p'.finish site.host.universalNow), site') ∧
      (Pass.onSave site.host.universalNow new).HasMet site.arena.rounds
        (Schedule.challenge new existing) p' ∧ Undisturbed site site' := by
  obtain ⟨p', site', played, met, undisturbed⟩ := playPass_fixed quiet among
    (fun f hf => Schedule.challenge_isAmong hf)
    (p := .onSave site.host.universalNow new) rfl
    { site with host := site.host.record [⟨.info, "On-save tournament: " ++ new.name.plain ++
      s!" vs {(Schedule.challenge new existing).length} opponents"⟩] }
  refine ⟨p', site', ?_, met, trans_of _ (undisturbed_record _ _) undisturbed⟩
  have names : checkNames [new] = .ok () := checkNames_fixed fun s hs =>
    among.names s (List.mem_singleton.1 hs ▸ List.mem_cons_self)
  unfold playOnSave
  rw [names]
  exact played

end Site
end IteratedDilemma
