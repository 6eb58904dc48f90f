import Mathlib.Data.List.Perm.Subperm
import IteratedDilemma.Proofs.Arena.Calls
import IteratedDilemma.Proofs.Arena.Field
import IteratedDilemma.Proofs.Arena.Soundness

/-! Identifiers in a log. However the steps of callers interleave, every record is about two
different strategies that are stored now, and no two records or strategies have one identifier
(`log_refers_to_stored`). A save in flight may have looked up strategies that are gone; its records
are then in nobody's log, so the invariant is about all records at once, those in the log and those
that callers still hold (`Scene.held`): their names are different ones that the host has given. -/
namespace IteratedDilemma
set_option autoImplicit false

/-! ## Names of records -/

/-- The host has given an identifier to a record. -/
def Host.HasNamedRecord (h : Host) (id : Text) : Prop := ∃ n < h.recordsNamed, id = recordId n

/-- Records of matches between two identifiers each, under different identifiers of their own that
the host has given. -/
structure AreNamed (host : Host) (records : List MatchRecord) : Prop where
  named : ∀ r ∈ records, host.HasNamedRecord r.id
  distinct : (records.map MatchRecord.id).Nodup
  apart : ∀ r ∈ records, r.first.id ≠ r.second.id

namespace AreNamed

variable {host host' : Host} {records others : List MatchRecord}

theorem nil (host : Host) : AreNamed host [] where
  named r hr := by cases hr
  distinct := .nil
  apart r hr := by cases hr

theorem of_subperm (h : AreNamed host records) (part : others.Subperm records) :
    AreNamed host others where
  named r hr := h.named r (part.subset hr)
  distinct := by
    obtain ⟨some, perm, sublist⟩ := part
    exact (perm.map MatchRecord.id).nodup_iff.1 ((sublist.map MatchRecord.id).nodup h.distinct)
  apart r hr := h.apart r (part.subset hr)

theorem mono (h : AreNamed host records) (le : host.recordsNamed ≤ host'.recordsNamed) :
    AreNamed host' records where
  named r hr := by
    obtain ⟨n, hn, e⟩ := h.named r hr
    exact ⟨n, Nat.lt_of_lt_of_le hn le, e⟩
  distinct := h.distinct
  apart := h.apart

/-- The next identifier is none of those that have been given. -/
theorem cons (h : AreNamed host records) {r : MatchRecord}
    (next : r.id = Host.recordId host.recordsNamed) (apart : r.first.id ≠ r.second.id)
    (count : host'.recordsNamed = host.recordsNamed + 1) : AreNamed host' (r :: records) where
  named s hs := by
    rcases List.mem_cons.1 hs with rfl | hs
    · exact ⟨host.recordsNamed, by omega, next⟩
    · obtain ⟨n, hn, e⟩ := h.named s hs
      exact ⟨n, by omega, e⟩
  distinct := by
    refine List.nodup_cons.2 ⟨fun there => ?_, h.distinct⟩
    obtain ⟨s, hs, same⟩ := List.mem_map.1 there
    obtain ⟨n, hn, e⟩ := h.named s hs
    have number := Host.recordId_injective (e.symm.trans (same.trans next))
    omega
  apart s hs := by
    rcases List.mem_cons.1 hs with rfl | hs
    · exact apart
    · exact h.apart s hs

end AreNamed

/-! ## Records in the log and in flight -/

/-- The records that a caller has played and that nobody has committed. -/
def Caller.records (c : Caller) : List MatchRecord :=
  match c.stage with
  | .playing _ _ p => p.records
  | .looked .. | .admitted | .done => []

namespace Scene

/-- All records that an arena and its callers hold. -/
def held (site : Site) (callers : List Caller) : List MatchRecord :=
  site.arena.store.records ++ callers.flatMap Caller.records

theorem held_perm (site : Site) (before middle after : List Caller) :
    (held site (before ++ middle ++ after)).Perm
      (held site middle ++ (before ++ after).flatMap Caller.records) := by
  unfold held
  simp only [List.flatMap_append, List.append_assoc]
  exact (List.perm_append_comm_assoc _ _ _).append_left _

variable {site site' : Site} {c c' : Option Caller} {e : Option Event}

theorem Changes.records_sublist {store : Store} (h : Changes site c store e)
    (uncommitted : ∀ records, e ≠ some (.committed records)) :
    store.records.Sublist site.arena.store.records := by
  rcases e with _ | new | records | _ | _
  · rw [show store = _ from h]
  · obtain ⟨-, rfl⟩ := h
    exact .refl _
  · exact absurd rfl (uncommitted records)
  · rw [show store = _ from h]
    exact .refl _
  · rw [show store = _ from h]
    exact List.nil_sublist _

/-- What a step does to the records: it keeps some of them, or plays a match between two strategies
of different identifiers and gives its record the next name. -/
theorem Act.held_cases (h : Act site c e site' c') (caller : ∀ d ∈ c, d.IsSound site) :
    (held site' c'.toList).Subperm (held site c.toList) ∨
      ∃ r, (held site' c'.toList).Perm (r :: held site c.toList) ∧
        r.id = Host.recordId site.host.recordsNamed ∧ r.first.id ≠ r.second.id ∧
        site'.host.recordsNamed = site.host.recordsNamed + 1 := by
  have change := h.store_change
  have fewer (uncommitted : ∀ records, e ≠ some (.committed records))
      (nothing : c'.toList.flatMap Caller.records = []) :
      (held site' c'.toList).Subperm (held site c.toList) := by
    rw [held, nothing, List.append_nil]
    exact ((change.records_sublist uncommitted).trans (List.sublist_append_left _ _)).subperm
  cases h with
  | look | store | storeFails | claim | muster | commitFails | reset | resetFails | clear
  | clearFails | release | leave => exact .inl (fewer (fun _ => nofun) rfl)
  | @play _ _ _ f left p _ _ h =>
    obtain ⟨entrants, sound⟩ := caller _ rfl
    obtain ⟨rfl, rfl, played⟩ := Site.playFixture_ok h
    refine .inr ⟨(p.prepared f).recordOf f site, ?_, rfl, ?_, played.records⟩
    · have before : (p.prepared f).records = p.records := Pass.prepared_records p f
      have log : site'.arena.store.records = site.arena.store.records := by rw [played.arena]
      change (site'.arena.store.records ++ (_ :: (p.prepared f).records ++ [])).Perm
        (_ :: (site.arena.store.records ++ (p.records ++ [])))
      rw [before, log]
      exact List.perm_middle
    · intro same
      exact (sound.left f List.mem_cons_self).apart (congrArg Json.key same)
  | @commit _ _ _ p finishedAt h =>
    obtain ⟨-, score, taken⟩ := Store.apply_ok (apply_of_applyOutcome h)
    have log : site'.arena.store.records = site.arena.store.records ++ p.records.reverse := by
      rw [taken]
      rfl
    refine .inl (List.Perm.subperm ?_)
    change (site'.arena.store.records ++ []).Perm (site.arena.store.records ++ (p.records ++ []))
    rw [log, List.append_nil, List.append_nil]
    exact (List.reverse_perm _).append_left _

theorem Act.areNamed {before after : List Caller} (h : Act site c e site' c')
    (caller : ∀ d ∈ c, d.IsSound site)
    (named : AreNamed site.host (held site (before ++ c.toList ++ after))) :
    AreNamed site'.host (held site' (before ++ c'.toList ++ after)) := by
  have old := named.of_subperm (held_perm site before c.toList after).symm.subperm
  have split := held_perm site' before c'.toList after
  rcases h.held_cases caller with kept | ⟨r, played, next, apart, count⟩
  · have part := split.subperm.trans ((List.subperm_append_right _).2 kept)
    exact (old.of_subperm part).mono h.steady.records
  · have more := split.trans (played.append_right _)
    exact (old.cons next apart count).of_subperm more.subperm

/-! ## Whole runs -/

/-- A scene in which all that is held is sound, and all records have names of their own. -/
structure IsReferential (scene : Scene) : Prop where
  sound : AreSound scene.site scene.callers
  named : AreNamed scene.site.host (held scene.site scene.callers)

theorem Step.isReferential {scene scene' : Scene} (h : Step scene e scene')
    (referential : scene.IsReferential) : scene'.IsReferential := by
  obtain ⟨sound, named⟩ := referential
  cases h with
  | act before after act =>
    refine ⟨areSound_act act sound, act.areNamed (fun d hd => sound.2 d ?_) named⟩
    exact List.mem_append_left _ (List.mem_append_right _ (Option.mem_toList.2 hd))
  | @aside site site' callers aside =>
    refine ⟨areSound_aside aside sound, ?_⟩
    have same : held site' callers = held site callers := by rw [held, held, aside.store]
    change AreNamed site'.host (held site' callers)
    rw [same]
    exact named.mono aside.records

theorem Run.isReferential {start scene : Scene} {past : List Event} (run : Run start past scene)
    (empty : start.site.arena.store = .empty) (nobody : start.callers = []) :
    scene.IsReferential := by
  induction run with
  | start =>
    refine ⟨?_, ?_⟩
    · rw [nobody]
      exact areSound_empty empty
    · rw [held, nobody, empty]
      exact .nil _
  | step _ step ih => exact step.isReferential ih

/-- However the steps of saves, grand tournaments, resets and clears interleave and whichever of
them fail, each record of the log is about two different strategies that are stored now, and all
records and strategies have different identifiers. -/
theorem log_refers_to_stored {start scene : Scene} {past : List Event}
    (run : Run start past scene) (empty : start.site.arena.store = .empty)
    (nobody : start.callers = []) :
    (∀ r ∈ scene.site.arena.store.records, r.first.id ≠ r.second.id ∧
      r.first.id ∈ scene.site.arena.store.strategies.map Strategy.id ∧
      r.second.id ∈ scene.site.arena.store.strategies.map Strategy.id) ∧
    (scene.site.arena.store.records.map (fun r => Json.text r.id) ++
      scene.site.arena.store.strategies.map Strategy.id).Nodup := by
  obtain ⟨⟨store, -⟩, named⟩ := run.isReferential empty nobody
  have log : AreNamed scene.site.host scene.site.arena.store.records :=
    named.of_subperm (List.sublist_append_left _ _).subperm
  refine ⟨fun r hr => ⟨log.apart r hr, ?_⟩, List.nodup_append.2 ⟨?_, ?_, ?_⟩⟩
  · obtain ⟨s1, h1, s2, h2, e1, e2, -⟩ := store.faithful r hr
    exact ⟨e1 ▸ List.mem_map_of_mem h1, e2 ▸ List.mem_map_of_mem h2⟩
  · have texts := log.distinct.map fun _ _ => Json.text.inj
    rwa [List.map_map] at texts
  · have keys := scene.site.arena.store.distinct
    rw [show Strategy.key = Json.key ∘ Strategy.id from rfl, ← List.map_map] at keys
    exact keys.of_map Json.key
  · intro a ha b hb same
    obtain ⟨r, hr, rfl⟩ := List.mem_map.1 ha
    obtain ⟨s, hs, rfl⟩ := List.mem_map.1 hb
    obtain ⟨m, -, record⟩ := log.named r hr
    obtain ⟨n, -, strategy⟩ := store.named s hs
    rw [record, strategy] at same
    exact Host.recordId_ne_strategyId m n same

/-- Two saves as such a run, the second of which has played a match. -/
theorem log_refers_to_stored_two_saves :
    ∃ past scene, Run ⟨.started, []⟩ past scene ∧
      scene.site.arena.store.records.length = 1 ∧
      (∀ r ∈ scene.site.arena.store.records, r.first.id ≠ r.second.id ∧
        r.first.id ∈ scene.site.arena.store.strategies.map Strategy.id ∧
        r.second.id ∈ scene.site.arena.store.strategies.map Strategy.id) ∧
      (scene.site.arena.store.records.map (fun r => Json.text r.id) ++
        scene.site.arena.store.strategies.map Strategy.id).Nodup := by
  have quiet := Observer.silent_isQuiet
  let mirror : Call := .save ⟨"Mirror", Builtin.titForTat.tree, none, none⟩
  let traitor : Call := .save ⟨"Traitor", Builtin.alwaysBetray.tree, none, none⟩
  have begun : Run ⟨.started, []⟩ [] ⟨.started, []⟩ := .start
  obtain ⟨_, first⟩ := mirror.run quiet begun
  obtain ⟨_, run⟩ := traitor.run quiet first
  have length : (traitor.after .silent (mirror.after .silent .started)).arena.store.records.length =
      1 := by decide +kernel
  exact ⟨_, _, run, length, log_refers_to_stored run rfl rfl⟩

end Scene
end IteratedDilemma
