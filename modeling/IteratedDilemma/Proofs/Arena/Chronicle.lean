import IteratedDilemma.Proofs.Arena.Faithfulness

/-! Runs of an arena with what happens in them, reopenings included (`Scene.Chronicle`). A caller who
plays has played the first fixtures of a pass that was planned on a store which the arena had before
(`Caller.IsOnPlan`), so what is committed is a whole pass in the order of its schedule
(`Scene.Chronicle.isPass`). -/
namespace IteratedDilemma
set_option autoImplicit false

/-- What happens in a run: the store changes, or the arena is closed and opened again. -/
inductive Happening where
  | change (e : Event)
  | reopening

namespace Happening

/-- The strategies that were stored, in their order. What happened last stands first. -/
def newcomers : List Happening → List Strategy
  | [] => []
  | .change (.stored new) :: past => newcomers past ++ [new]
  | _ :: past => newcomers past

/-- The records that were committed, the newest first. What happened last stands first. -/
def committed : List Happening → List MatchRecord
  | [] => []
  | .change (.committed records) :: past => records.reverse ++ committed past
  | _ :: past => committed past

theorem newcomers_append (recent past : List Happening) :
    newcomers (recent ++ past) = newcomers past ++ newcomers recent := by
  induction recent with
  | nil => exact (List.append_nil _).symm
  | cons h recent ih =>
    cases h with
    | reopening => exact ih
    | change e => cases e <;> simp [newcomers, ih]

theorem committed_append (recent past : List Happening) :
    committed (recent ++ past) = committed recent ++ committed past := by
  induction recent with
  | nil => rfl
  | cons h recent ih =>
    cases h with
    | reopening => exact ih
    | change e => cases e <;> simp [committed, ih]

end Happening

namespace Scene

/-- Nothing new has come into the file of an arena. -/
def NothingWritten (site site' : Site) : Prop :=
  ∀ p ∈ site.arena.file, ∀ text, site'.host.disk.node? p.place = some (.file text) →
    site.host.disk.node? p.place = some (.file text)

/-- Nothing that happens aside has touched the file of an arena. -/
def Untouched (site site' : Site) : Prop :=
  NothingWritten site site' ∧ ∀ p ∈ site.arena.file, ∀ text,
    site.host.disk.HoldsFile p text → site'.host.disk.HoldsFile p text

/-- An export of which no file goes to that of the arena leaves it alone. -/
theorem untouched_exportOutcome {site : Site} {o : Outcome}
    (apart : ∀ p ∈ site.arena.file, ∀ folder stamp,
      Path.ofJson site.arena.settings.outputDir = .ok folder →
      ∀ q ∈ Export.paths folder site.host.home o stamp, q.place ≠ p.place) :
    Untouched site (Site.exportOutcome o site).2 := by
  have spares {p : Path} (hp : p ∈ site.arena.file) :=
    (Site.exportOutcome_spares (fun _ folder => apart p hp folder _) rfl).2
  exact ⟨fun p hp text there => ((spares hp).file text).1 there,
    fun p hp text holds => holds.spared (spares hp)⟩

/-- A step with what happens in it: a caller comes, goes on or leaves; something happens aside, by
which the file of the arena is not touched; or the arena is opened again from its file. -/
inductive Tells : Scene → Option Happening → Scene → Prop where
  | act {site site' : Site} {c c' : Option Caller} {e : Option Event}
      (before after : List Caller) : Act site c e site' c' →
      Tells ⟨site, before ++ c.toList ++ after⟩ (e.map .change)
        ⟨site', before ++ c'.toList ++ after⟩
  | aside {site site' : Site} (callers : List Caller) : Aside site site' → Untouched site site' →
      Tells ⟨site, callers⟩ none ⟨site', callers⟩
  | reopen {site site' : Site} {p : Path} (purpose : Purpose) (callers : List Caller) :
      site.arena.file = some p →
      Store.load purpose p site.host = (.ok site'.arena.store, site'.host) →
      site'.arena.file = some p →
      Tells ⟨site, callers⟩ (some .reopening) ⟨site', []⟩

/-- A run of steps from a scene, with what happened in it, the newest first. -/
inductive Chronicle (start : Scene) : List Happening → Scene → Prop where
  | start : Chronicle start [] start
  | step {past : List Happening} {scene scene' : Scene} {d : Option Happening} :
      Chronicle start past scene → Tells scene d scene' → Chronicle start (d.toList ++ past) scene'

theorem Tells.next {scene scene' : Scene} {d : Option Happening} (h : Tells scene d scene') :
    Next scene scene' := by
  cases h with
  | act before after h => exact .turn (.act before after h)
  | aside callers h untouched =>
    exact .turn (.aside callers h fun p hp text there => .inl (untouched.1 p hp text there))
  | reopen purpose callers file loaded file' => exact .reopen purpose callers file loaded file'

namespace Chronicle

variable {start scene later : Scene} {past recent : List Happening}

theorem run (h : Chronicle start past scene) : Relation.ReflTransGen Next start scene := by
  induction h with
  | start => exact .refl
  | step _ tells ih => exact ih.tail tells.next

theorem trans (h : Chronicle start past scene) (h' : Chronicle scene recent later) :
    Chronicle start (recent ++ past) later := by
  induction h' with
  | start => exact h
  | step _ tells ih =>
    rw [List.append_assoc]
    exact ih.step tells

theorem act {site site' : Site} {c c' : Option Caller} {e : Option Event}
    (h : Chronicle start past ⟨site, c.toList⟩) (act : Act site c e site' c') :
    Chronicle start ((e.map Happening.change).toList ++ past) ⟨site', c'.toList⟩ := by
  have step : Tells ⟨site, [] ++ c.toList ++ []⟩ (e.map .change) ⟨site', [] ++ c'.toList ++ []⟩ :=
    .act [] [] act
  rw [List.append_nil, List.append_nil] at step
  exact h.step step

theorem file (run : Chronicle start past scene) :
    scene.site.arena.file = start.site.arena.file := by
  induction run with
  | start => rfl
  | step _ tells ih =>
    cases tells with
    | act _ _ act => exact act.steady.file.trans ih
    | aside _ aside _ => exact aside.file.trans ih
    | reopen _ _ file _ file' => exact file'.trans (file.symm.trans ih)

end Chronicle

/-! ## Passes as planned -/

variable {start : Scene} {past past' : List Happening}

/-- A store that an arena has had in the course of a run. -/
def Had (start : Scene) (past : List Happening) (s : Store) : Prop :=
  ∃ earlier scene, Chronicle start earlier scene ∧ earlier <:+ past ∧ scene.site.arena.store = s

/-- The fixtures of a pass: those of a strategy that was stored with all whom the arena listed, or
those of all whom it listed with each other. -/
inductive Planned (start : Scene) (past : List Happening) : List Fixture → Prop where
  | challenge {s : Store} {new : Strategy} {opponents : List Strategy} :
      .change (.stored new) ∈ past → Had start past s → s.ranked = .ok opponents →
      Planned start past (Schedule.challenge new opponents)
  | roundRobin {s : Store} {strategies : List Strategy} :
      Had start past s → s.ranked = .ok strategies →
      Planned start past (Schedule.roundRobin strategies)

/-- The records of a pass, one for each of its fixtures in their order. -/
def IsPass (start : Scene) (past : List Happening) (records : List MatchRecord) : Prop :=
  ∃ rounds fixtures, Planned start past fixtures ∧
    List.Forall₂ (fun f r => r.IsOf rounds f.first f.second) fixtures records

theorem Had.mono {s : Store} (h : Had start past s) (le : past <:+ past') : Had start past' s := by
  obtain ⟨earlier, scene, run, before, e⟩ := h
  exact ⟨earlier, scene, run, before.trans le, e⟩

theorem Planned.mono {fixtures : List Fixture} (h : Planned start past fixtures)
    (le : past <:+ past') : Planned start past' fixtures := by
  cases h with
  | challenge stored had ranked => exact .challenge (le.subset stored) (had.mono le) ranked
  | roundRobin had ranked => exact .roundRobin (had.mono le) ranked

theorem IsPass.mono {records : List MatchRecord} (h : IsPass start past records)
    (le : past <:+ past') : IsPass start past' records := by
  obtain ⟨rounds, fixtures, planned, each⟩ := h
  exact ⟨rounds, fixtures, planned.mono le, each⟩

end Scene

/-- A caller does as planned: the opponents it has looked up were listed by the arena, and what it
has played is the first part of a pass of which the rest is left. -/
def Caller.IsOnPlan (start : Scene) (past : List Happening) (rounds : Nat) (c : Caller) : Prop :=
  match c.stage with
  | .looked _ _ _ _ opponents => ∃ s, Scene.Had start past s ∧ s.ranked = .ok opponents
  | .playing _ left p => ∃ played, Scene.Planned start past (played ++ left) ∧
      List.Forall₂ (fun f r => r.IsOf rounds f.first f.second) played p.records.reverse
  | .admitted | .done => True

theorem Caller.IsOnPlan.mono {start : Scene} {past past' : List Happening} {rounds : Nat} {c : Caller}
    (h : c.IsOnPlan start past rounds) (le : past <:+ past') : c.IsOnPlan start past' rounds := by
  unfold Caller.IsOnPlan at h ⊢
  split
  · next looked =>
    rw [looked] at h
    obtain ⟨s, had, ranked⟩ := h
    exact ⟨s, had.mono le, ranked⟩
  · next playing =>
    rw [playing] at h
    obtain ⟨played, planned, each⟩ := h
    exact ⟨played, planned.mono le, each⟩
  · trivial
  · trivial

namespace Scene

variable {start : Scene} {past : List Happening} {site site' : Site} {c c' : Option Caller}
  {e : Option Event}

theorem Act.isOnPlan (h : Act site c e site' c') {callers : List Caller}
    (run : Chronicle start past ⟨site, callers⟩) (sound : ∀ d ∈ c, d.IsSound site)
    (plan : ∀ d ∈ c, d.IsOnPlan start past site.arena.rounds) :
    ∀ d ∈ c', d.IsOnPlan start ((e.map Happening.change).toList ++ past) site.arena.rounds := by
  have here : Had start past site.arena.store := ⟨past, _, run, List.suffix_rfl, rfl⟩
  intro d hd
  cases h with
  | look _ _ h =>
    cases hd
    exact ⟨_, here, (Site.ranked_eq h).1.symm⟩
  | store startedAt h =>
    cases hd
    obtain ⟨s, had, ranked⟩ := plan _ rfl
    exact ⟨[], .challenge List.mem_cons_self (had.mono (List.suffix_cons _ past)) ranked, .nil⟩
  | muster startedAt h _ =>
    cases hd
    exact ⟨[], .roundRobin here (Site.ranked_eq h).1.symm, .nil⟩
  | @play _ _ _ f left p _ _ h =>
    cases hd
    obtain ⟨played, planned, each⟩ := plan _ rfl
    obtain ⟨entrants, sound⟩ := sound _ rfl
    obtain ⟨rfl, rfl, -⟩ := Site.playFixture_ok h
    have among := sound.left f List.mem_cons_self
    have isOf := Pass.isOf_recordOf sound.distinct (Pass.roster_prepared among sound.roster) among
      site
    refine ⟨played ++ [f], ?_, ?_⟩
    · rw [List.append_assoc]
      exact planned
    · change List.Forall₂ _ _ (_ :: (p.prepared f).records).reverse
      rw [Pass.prepared_records, List.reverse_cons]
      exact List.rel_append each (.cons isOf .nil)
  | storeFails | claim | commit | commitFails | reset | resetFails | clear | clearFails =>
    cases hd
    trivial
  | release | leave => cases hd

variable {scene : Scene}

theorem Chronicle.isOnPlan (run : Chronicle start past scene) (fresh : start.IsFresh) :
    ∀ c ∈ scene.callers, c.IsOnPlan start past scene.site.arena.rounds := by
  induction run with
  | start =>
    intro c hc
    rw [fresh.nobody] at hc
    cases hc
  | @step past _ _ _ before tells ih =>
    intro d hd
    cases tells with
    | @act site site' c c' e first last act =>
      have sound := (isSound_of_run before.run fresh).callers
      have le := List.suffix_append (e.map Happening.change).toList past
      rw [show site'.arena.rounds = site.arena.rounds from act.steady.rounds]
      simp only [List.mem_append, Option.mem_toList] at hd sound ih
      rcases hd with (hd | hd) | hd
      · exact (ih d (.inl (.inl hd))).mono le
      · exact act.isOnPlan before (fun d hd => sound d (.inl (.inr hd)))
          (fun d hd => ih d (.inl (.inr hd))) d hd
      · exact (ih d (.inr hd)).mono le
    | @aside site site' callers aside untouched =>
      rw [show site'.arena.rounds = site.arena.rounds from aside.rounds]
      exact ih d hd
    | reopen => cases hd

/-- What is committed is a whole pass. -/
theorem Chronicle.isPass (run : Chronicle start past scene) (fresh : start.IsFresh)
    {records : List MatchRecord} (h : .change (.committed records) ∈ past) :
    IsPass start past records := by
  induction run with
  | start => cases h
  | @step past _ _ d before tells ih =>
    have le := List.suffix_append d.toList past
    rcases List.mem_append.1 h with h | h
    · cases tells with
      | @act site site' c c' e first last act =>
        obtain ⟨e', rfl, same⟩ := Option.map_eq_some_iff.1 (Option.mem_toList.1 h)
        cases same
        cases act with
        | commit finishedAt done =>
          have plan := before.isOnPlan fresh _ (List.mem_append_left _
            (List.mem_append_right _ (List.mem_singleton_self _)))
          obtain ⟨played, planned, each⟩ := plan
          rw [List.append_nil] at planned
          exact ⟨_, played, planned.mono le, each⟩
      | aside => cases h
      | reopen => cases List.mem_singleton.1 h
    · exact (ih h).mono le

end Scene
end IteratedDilemma
