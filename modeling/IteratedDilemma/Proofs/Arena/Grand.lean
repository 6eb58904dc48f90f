import IteratedDilemma.Proofs.Arena.Exports
import IteratedDilemma.Proofs.Arena.Field

/-! Grand tournaments between strategies that use no random actions. Such a tournament pays prizes
(`Site.playGrand_prize`), which do not depend on the order of the strategies
(`Tournament.prize_perm`). One that hands out its outcome has added exactly these to the scores of
the store (`Site.runGrand_fixed`). -/
namespace IteratedDilemma
set_option autoImplicit false

open Tournament (won won_perm)

/-! ## Prizes -/

namespace Tournament

/-- The points of an identifier when all of some strategies meet each other, if it is somebody's. -/
def prize (rounds : Nat) (strategies : List Strategy) (id : Json) : Option Int :=
  if strategies.any fun s => s.id.same id then some (won rounds id strategies) else none

variable {rounds : Nat} {id : Json}

theorem prize_perm {l l' : List Strategy} (perm : l.Perm l') :
    prize rounds l id = prize rounds l' id := by
  rw [prize, prize, won_perm perm, perm.any_eq]

theorem prize_of_mem {l : List Strategy} {s : Strategy} (hs : s ∈ l) :
    prize rounds l s.id = some (won rounds s.id l) :=
  if_pos (List.any_eq_true.2 ⟨s, hs, decide_eq_true rfl⟩)

end Tournament

theorem AreFixed.perm {l l' : List Strategy} (h : AreFixed l) (perm : l.Perm l') : AreFixed l' where
  distinct := h.distinct.perm perm
  names s hs := h.names s (perm.mem_iff.2 hs)
  fixed s hs := h.fixed s (perm.mem_iff.2 hs)

theorem AreFixed.rescored {l : List Strategy} (h : AreFixed l) (score : Strategy → Json) :
    AreFixed (l.map fun t => t.withScore (score t)) where
  distinct := by
    unfold Distinct
    rw [List.map_map]
    exact h.distinct
  names s hs := by
    obtain ⟨t, ht, rfl⟩ := List.mem_map.1 hs
    exact h.names t ht
  fixed s hs := by
    obtain ⟨t, ht, rfl⟩ := List.mem_map.1 hs
    exact h.fixed t ht

open Tournament (prize prize_perm)

namespace Site

variable {observe : Observer}

/-- A grand tournament gives to everybody its prize, in the order of the strategies. -/
theorem playGrand_prize (quiet : observe.IsQuiet) {strategies : List Strategy}
    (among : AreFixed strategies) (site : Site) :
    ∃ (p' : Pass) (site' : Site), playGrand observe strategies site =
        (.ok (p'.finish site.host.universalNow), site') ∧ Undisturbed site site' ∧
      p'.deltas.ids = strategies.map Strategy.id ∧
      ∀ id, p'.deltas.points? id = prize site.arena.rounds strategies id := by
  obtain ⟨p', site', played, met, undisturbed⟩ := playGrand_fixed quiet among site
  have ids : p'.deltas.ids = strategies.map Strategy.id := by
    rw [met.kept fun f hf => ?_, Pass.ids_grand _ among.distinct]
    have sides := Schedule.roundRobin_isAmong among.distinct hf
    exact ⟨Pass.isSome_grand _ among.distinct sides.first,
      Pass.isSome_grand _ among.distinct sides.second⟩
  refine ⟨p', site', played, undisturbed, ids, fun id => ?_⟩
  have total : (p'.deltas.points? id).getD 0 = won site.arena.rounds id strategies := by
    have balanced := met.balanced (Pass.isBalanced_grand _ _)
    rw [balanced.points, met.earned, Schedule.sum_roundRobin]
    exact Int.zero_add _
  have there : (p'.deltas.points? id).isSome = strategies.any fun s => s.id.same id := by
    rw [Bool.eq_iff_iff, Tally.isSome_points?, ids, List.any_eq_true]
    constructor
    · rintro ⟨other, hother, same⟩
      obtain ⟨s, hs, rfl⟩ := List.mem_map.1 hother
      exact ⟨s, hs, same⟩
    · rintro ⟨s, hs, same⟩
      exact ⟨s.id, List.mem_map_of_mem hs, same⟩
  rw [prize, ← there, ← total]
  cases p'.deltas.points? id <;> rfl

/-! ## Under the gate -/

/-- A site with the same arena. -/
def SameArena (site site' : Site) : Prop := site'.arena = site.arena

instance : IsPreorder Site SameArena where
  refl _ := rfl
  trans _ _ _ a b := Eq.trans b a

theorem commitGrand_of_ok {o : Outcome} {site site' : Site}
    (h : applyOutcome o site = (.ok (), site')) : commitGrand o site = (.ok (), site') := by
  unfold commitGrand
  rw [h]

theorem commitGrand_of_error {o : Outcome} {site site' : Site} {fault : Fault}
    (h : applyOutcome o site = (.error fault, site')) :
    ∃ site'', commitGrand o site = (.error fault, site'') ∧ site''.arena = site'.arena := by
  unfold commitGrand
  rw [h]
  exact ⟨_, rfl, rfl⟩

/-- A tournament of fewer than two strategies is only written into the journal. -/
theorem grandUnderGate_of_few {site : Site} {strategies : List Strategy}
    (ranked : ranked site = (.ok strategies, site)) (few : strategies.length < 2) :
    ∃ entries, grandUnderGate observe site =
      (.ok none, { site with host := site.host.record entries }) := by
  have areFew : ∃ entries, areEnough strategies site =
      (.ok false, { site with host := site.host.record entries }) := by
    unfold Site.areEnough
    rw [if_pos few]
    exact ⟨_, rfl⟩
  obtain ⟨entries, areFew⟩ := areFew
  refine ⟨entries, ?_⟩
  unfold grandUnderGate
  rw [Work.bind_of_ok ranked, Work.bind_of_ok areFew]
  rfl

theorem areEnough_of_enough {strategies : List Strategy} (enough : 2 ≤ strategies.length)
    (site : Site) : areEnough strategies site = (.ok true, site) := by
  unfold Site.areEnough
  rw [if_neg (by omega)]
  rfl

theorem grandUnderGate_of_enough {site : Site} {strategies : List Strategy}
    (ranked : ranked site = (.ok strategies, site)) (enough : 2 ≤ strategies.length) :
    grandUnderGate observe site =
      (do
        let o ← playGrand observe strategies
        commitGrand o
        exportOutcome o
        return some o : Work Site _) site := by
  unfold grandUnderGate
  rw [Work.bind_of_ok ranked, Work.bind_of_ok (areEnough_of_enough enough site)]
  rfl

/-- What is done after the commit changes no arena. If it does not fail it hands out the outcome. -/
theorem arena_of_exported {o o' : Outcome} {site site' : Site}
    (h : (do exportOutcome o'; return some o' : Work Site _) site = (.ok (some o), site')) :
    o = o' ∧ site'.arena = site.arena := by
  have kept : SameArena site (exportOutcome o' site).2 :=
    exportOutcome_within (fun _ _ _ => rfl) o' site
  obtain ⟨_, t, exported, h⟩ := Work.bind_eq_ok h
  cases h
  rw [exported] at kept
  exact ⟨rfl, kept⟩

/-- A grand tournament of two or more strategies either adds their prizes to the scores or fails to
commit, which needs a file. After the commit only the export can fail. -/
theorem grandUnderGate_fixed (quiet : observe.IsQuiet) {site : Site} {strategies : List Strategy}
    (ranked : ranked site = (.ok strategies, site)) (enough : 2 ≤ strategies.length)
    (perm : strategies.Perm site.arena.store.strategies) (among : AreFixed strategies)
    (whole : site.arena.store.HasWholeScores) :
    (∃ (p' : Pass) (site1 : Site),
      (∀ id, p'.deltas.points? id =
        prize site.arena.rounds site.arena.store.strategies id) ∧
      site1.arena = { site.arena with
        store := (site.arena.store.credited p'.deltas).append p'.records.reverse } ∧
      grandUnderGate observe site =
        (do
          exportOutcome (p'.finish site.host.universalNow)
          return some (p'.finish site.host.universalNow) : Work Site _) site1) ∨
    (site.arena.file ≠ none ∧
      ∃ fault site', grandUnderGate observe site = (.error fault, site')) := by
  obtain ⟨p', site1, played, undisturbed, ids, prizes⟩ := playGrand_prize quiet among site
  have begun := (grandUnderGate_of_enough ranked enough).trans (Work.bind_of_ok played)
  have known : ∀ id ∈ p'.deltas.ids, ∃ t ∈ site1.arena.store.strategies, t.key = id.key := by
    intro id hid
    rw [ids] at hid
    obtain ⟨t, ht, rfl⟩ := List.mem_map.1 hid
    rw [undisturbed.arena]
    exact ⟨t, perm.mem_iff.1 ht, rfl⟩
  have whole1 : site1.arena.store.HasWholeScores := by
    rw [undisturbed.arena]
    exact whole
  obtain ⟨host, -, -, committed⟩ | ⟨fault, host, -, -, unwritable, failed⟩ :=
    applyOutcome_counted whole1 known site.host.universalNow
  · refine .inl ⟨p', _, fun id => ?_, ?_,
      begun.trans (Work.bind_of_ok (commitGrand_of_ok committed))⟩
    · rw [prizes, prize_perm perm]
    · rw [after, undisturbed.arena]
  · obtain ⟨site2, failed, -⟩ := commitGrand_of_error failed
    have file := unwritable.file
    rw [undisturbed.arena] at file
    exact .inr ⟨file, fault, site2, begun.trans (Work.bind_of_error failed)⟩

/-- A grand tournament that hands out its outcome has added the prizes to the scores of the store,
and that is all that it has done to the arena. -/
theorem runGrand_fixed (quiet : observe.IsQuiet) {site site' : Site}
    (among : AreFixed site.arena.store.strategies) (whole : site.arena.store.HasWholeScores)
    {o : Outcome} (h : runGrand observe site = (.ok (some o), site')) :
    ∃ p' : Pass, o = p'.finish site.host.universalNow ∧
      (∀ id, p'.deltas.points? id =
        prize site.arena.rounds site.arena.store.strategies id) ∧
      site'.arena = { site.arena with
        store := (site.arena.store.credited p'.deltas).append p'.records.reverse } := by
  unfold runGrand gated at h
  split at h
  case isTrue => cases h
  case isFalse free =>
    rcases run : grandUnderGate observe (site.withGate true) with ⟨result, last⟩
    rw [run] at h
    cases h
    obtain ⟨strategies, _, ranked, -⟩ := Work.bind_eq_ok run
    obtain ⟨listed, rfl⟩ := ranked_eq ranked
    have perm := Store.perm_of_ranked listed.symm
    have enough : 2 ≤ strategies.length := by
      by_contra few
      obtain ⟨_, skipped⟩ := @grandUnderGate_of_few observe _ _ ranked (by omega)
      rw [skipped] at run
      cases run
    obtain ⟨p', t, prizes, arena, e⟩ | ⟨-, _, _, e⟩ :=
      grandUnderGate_fixed quiet ranked enough perm (among.perm perm.symm) whole
    case inr =>
      rw [e] at run
      cases run
    rw [e] at run
    obtain ⟨rfl, kept⟩ := arena_of_exported run
    refine ⟨p', rfl, prizes, ?_⟩
    have given : { last.arena with isHeld := false } = { site.arena with
        store := (site.arena.store.credited p'.deltas).append p'.records.reverse } := by
      rw [kept, arena, ← Bool.eq_false_of_not_eq_true free]
      rfl
    exact given

/-- In an arena without a file and without exports, two strategies that can be ranked and a free
gate are enough for a grand tournament to hand out its outcome. -/
theorem exists_runGrand (quiet : observe.IsQuiet) {site : Site}
    (among : AreFixed site.arena.store.strategies) (whole : site.arena.store.HasWholeScores)
    (rankable : ∀ s ∈ site.arena.store.strategies, Standings.isRankable s = true)
    (enough : 2 ≤ site.arena.store.strategies.length) (free : site.arena.isHeld = false)
    (file : site.arena.file = none)
    (unexported : site.arena.settings.exportResults.isTruthy = false) :
    ∃ o site', runGrand observe site = (.ok (some o), site') := by
  have perm := List.mergeSort_perm site.arena.store.strategies
    fun a b => (StandingKey.of a).le (.of b)
  have listed : ranked (site.withGate true) =
      (.ok (Standings.sorted site.arena.store.strategies), site.withGate true) := by
    rw [ranked_apply]
    exact congrArg (·, _) (if_pos (List.all_eq_true.2 rankable))
  have length : 2 ≤ (Standings.sorted site.arena.store.strategies).length := by
    rw [Standings.sorted, perm.length_eq]
    exact enough
  unfold runGrand gated
  rw [free]
  obtain ⟨p', t, -, arena, e⟩ | ⟨filed, -⟩ :=
    grandUnderGate_fixed quiet listed length perm (among.perm perm.symm) whole
  case inr => exact absurd file filed
  have exported : exportOutcome (p'.finish site.host.universalNow) t = (.ok (), t) := by
    have truthy : t.arena.settings.exportResults.isTruthy = false := by
      rw [arena]
      exact unexported
    unfold exportOutcome
    rw [Work.bind_of_ok (Work.get_apply t), truthy]
    rfl
  have handed := e.trans (Work.bind_of_ok exported)
  refine ⟨p'.finish site.host.universalNow, t.withGate false, ?_⟩
  rw [if_neg Bool.false_ne_true, handed]
  rfl

end Site
end IteratedDilemma
