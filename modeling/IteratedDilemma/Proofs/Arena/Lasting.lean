import IteratedDilemma.Proofs.Arena.Chronicle

/-! What makes that an arena finds its store again whenever it is opened: the file holds the store
(`Host.IsOnFile`), and no text in it, nor any that a caller is about to write, has two halves of a
pair side by side. Every step keeps this up (`Scene.Chronicle.isLasting`), as long as no such text is
stored. -/
namespace IteratedDilemma
set_option autoImplicit false

/-! ## What the file holds -/

/-- The file of an arena holds its store, or the store is empty and nothing else has been written. -/
def Host.IsOnFile (h : Host) (file : Option Path) (s : Store) : Prop :=
  h.Keeps file s ∨ s = .empty ∧ ∀ p ∈ file, ∀ text,
    h.disk.node? p.place = some (.file text) → text = Store.empty.toJson.write

namespace Host

variable {h h' : Host} {file : Option Path} {s : Store}

theorem IsOnFile.grows (on : h.IsOnFile file s) (grows : h.disk.Grows h'.disk) :
    h'.IsOnFile file s := by
  rcases on with keeps | ⟨empty, nothing⟩
  · exact .inl fun p hp => ⟨(keeps p hp).1, (keeps p hp).2.grows grows⟩
  · exact .inr ⟨empty, fun p hp text there => nothing p hp text (grows.file.1 there)⟩

/-- What is loaded from the file of an arena is its store. -/
theorem IsOnFile.load_eq {p : Path} (on : h.IsOnFile (some p) s) (durable : s.IsDurable)
    {purpose : Purpose} {loaded : Store} (h' : Store.load purpose p h = (.ok loaded, h')) :
    loaded = s := by
  have back {s : Store} (durable : s.IsDurable) (writable : s.toJson.isWritable = true)
      (holds : h.disk.HoldsFile p s.toJson.write) : loaded = s := by
    obtain ⟨host, read⟩ := Store.load_written purpose holds durable.storable writable
    rw [durable.rejoined_eq, h'] at read
    exact Except.ok.inj (congrArg Prod.fst read)
  rcases on with keeps | ⟨rfl, nothing⟩
  · exact back durable (keeps p rfl).1 (keeps p rfl).2
  · rcases Store.load_ok h' with ⟨-, empty⟩ | ⟨text, holds⟩
    · exact empty
    · rw [nothing p rfl text holds.2] at holds
      exact back durable (by decide +kernel) holds

end Host

/-! ## Texts that stay joined -/

theorem RecordSide.rejoined_sideOf {s : Strategy} (joined : s.rejoined = s) (moves : History)
    (score : Nat) :
    (MatchRecord.sideOf s moves score).rejoined = MatchRecord.sideOf s moves score :=
  rejoined_eq (congrArg Strategy.id joined) (congrArg Strategy.name joined)
    (congrArg Strategy.author joined)

theorem Pass.rejoined_recordOf (p : Pass) {f : Fixture} (site : Site)
    (first : f.first.rejoined = f.first) (second : f.second.rejoined = f.second) :
    (p.recordOf f site).rejoined = p.recordOf f site := by
  unfold recordOf MatchRecord.ofMatch MatchRecord.rejoined
  dsimp only
  rw [RecordSide.rejoined_sideOf first, RecordSide.rejoined_sideOf second]
  congr 1
  exact Text.rejoined_ofString _

/-- What a caller holds lasts: the opponents that it has looked up, or what is left to play and what
has been recorded. -/
def Caller.IsLasting (c : Caller) : Prop :=
  match c.stage with
  | .looked _ _ _ _ opponents => ∀ s ∈ opponents, s.rejoined = s
  | .playing _ left p => (∀ f ∈ left, f.first.rejoined = f.first ∧ f.second.rejoined = f.second) ∧
      ∀ r ∈ p.records, r.IsDurable
  | .admitted | .done => True

namespace Scene

variable {site site' : Site} {c c' : Option Caller} {e : Option Event}

theorem joined_of_ranked {strategies : List Strategy} (durable : site.arena.store.IsDurable)
    (h : Site.ranked site = (.ok strategies, site')) : ∀ s ∈ strategies, s.rejoined = s := by
  have perm := Store.perm_of_ranked (Site.ranked_eq h).1.symm
  exact fun s hs => (durable.strategies s (perm.mem_iff.1 hs)).joined

theorem Act.isDurable_store (h : Act site c e site' c')
    (sound : site'.arena.store.IsSound site'.host) (durable : site.arena.store.IsDurable)
    (caller : ∀ d ∈ c, d.IsLasting)
    (joined : ∀ new, e = some (.stored new) → new.rejoined = new) :
    site'.arena.store.IsDurable := by
  have change := h.store_change
  rcases e with _ | new | records | _ | _
  · have same : site'.arena.store = site.arena.store := change
    rw [same]
    exact durable
  · have added : site'.arena.store = site.arena.store.add new := change.2
    rw [added] at sound ⊢
    have storable := sound.storable.strategies new (Store.mem_place_self _ _)
    exact Store.isDurable_add durable ⟨storable, joined new rfl⟩
  · obtain ⟨_, _, p, finishedAt, rfl, rfl, applied⟩ := change
    obtain ⟨-, score, applied⟩ := Store.apply_ok applied
    rw [applied] at sound ⊢
    refine Store.isDurable_append (Store.isDurable_rescore durable fun t ht => ?_) fun r hr => ?_
    · exact (sound.storable.strategies _ (List.mem_map_of_mem ht)).score
    · exact (caller _ rfl).2 r (List.mem_reverse.1 hr)
  · have rescored : site'.arena.store = site.arena.store.reset := change
    rw [rescored]
    exact Store.isDurable_rescore durable fun t _ => ⟨0, rfl⟩
  · have cleared : site'.arena.store = .empty := change
    rw [cleared]
    exact Store.isDurable_empty

theorem Act.isLasting (h : Act site c e site' c') (durable : site.arena.store.IsDurable)
    (sound : ∀ d ∈ c, d.IsSound site) (caller : ∀ d ∈ c, d.IsLasting)
    (joined : ∀ new, e = some (.stored new) → new.rejoined = new) : ∀ d ∈ c', d.IsLasting := by
  intro d hd
  cases h with
  | look _ _ h =>
    cases hd
    exact joined_of_ranked durable h
  | @store _ _ _ _ _ opponents new startedAt h =>
    cases hd
    have listed := caller _ rfl
    have entrants : ∀ s ∈ Schedule.entrants new opponents, s.rejoined = s := by
      intro s hs
      rcases List.mem_cons.1 hs with rfl | hs
      · exact joined _ rfl
      · exact listed s (List.mem_filter.1 hs).1
    refine ⟨fun f hf => ?_, fun r hr => by cases hr⟩
    have among := Schedule.challenge_isAmong hf
    exact ⟨entrants _ among.first, entrants _ among.second⟩
  | muster startedAt h _ =>
    cases hd
    have listed := joined_of_ranked durable h
    refine ⟨fun f hf => ?_, fun r hr => by cases hr⟩
    obtain ⟨first, second⟩ := Schedule.pairs_mem (Schedule.mem_of_mem_numbered hf)
    exact ⟨listed _ first, listed _ second⟩
  | @play _ _ _ f left p _ _ h =>
    cases hd
    obtain ⟨fixtures, records⟩ := caller _ rfl
    obtain ⟨entrants, sound⟩ := sound _ rfl
    obtain ⟨rfl, rfl, -⟩ := Site.playFixture_ok h
    obtain ⟨first, second⟩ := fixtures f List.mem_cons_self
    refine ⟨fun g hg => fixtures g (List.mem_cons_of_mem _ hg), fun r hr => ?_⟩
    rcases List.mem_cons.1 hr with rfl | hr
    · exact ⟨Pass.isStorable_recordOf sound, Pass.rejoined_recordOf _ _ first second⟩
    · rw [Pass.prepared_records] at hr
      exact records r hr
  | storeFails | claim | commit | commitFails | reset | resetFails | clear | clearFails =>
    cases hd
    trivial
  | release | leave => cases hd

/-- A scene that can be left and found again: nothing in it has two halves of a pair side by side,
and the file of the arena holds its store. -/
structure IsLasting (scene : Scene) : Prop where
  store : scene.site.arena.store.IsDurable
  callers : ∀ c ∈ scene.callers, c.IsLasting
  file : scene.site.host.IsOnFile scene.site.arena.file scene.site.arena.store

variable {start scene scene' later : Scene} {past recent : List Happening}

/-- An arena that is opened again finds its store. -/
theorem IsLasting.found {p : Path} {purpose : Purpose} {callers : List Caller}
    (lasting : IsLasting ⟨site, callers⟩) (file : site.arena.file = some p)
    (loaded : Store.load purpose p site.host = (.ok site'.arena.store, site'.host)) :
    site'.arena.store = site.arena.store ∧ site'.host.disk = site.host.disk := by
  have on : site.host.IsOnFile (some p) site.arena.store := file ▸ lasting.file
  have noted := Store.load_noted purpose p site.host
  rw [loaded] at noted
  exact ⟨on.load_eq lasting.store loaded, noted.disk⟩

theorem IsLasting.act {first last : List Caller}
    (lasting : IsLasting ⟨site, first ++ c.toList ++ last⟩) (act : Act site c e site' c')
    (sound : ∀ d ∈ c, d.IsSound site) (sound' : site'.arena.store.IsSound site'.host)
    (joined : ∀ new, e = some (.stored new) → new.rejoined = new) :
    IsLasting ⟨site', first ++ c'.toList ++ last⟩ := by
  have callers := lasting.callers
  simp only [List.mem_append, Option.mem_toList] at callers
  have caller : ∀ d ∈ c, d.IsLasting := fun d hd => callers d (.inl (.inr hd))
  refine ⟨act.isDurable_store sound' lasting.store caller joined, fun d hd => ?_, ?_⟩
  · simp only [List.mem_append, Option.mem_toList] at hd
    rcases hd with (hd | hd) | hd
    · exact callers d (.inl (.inl hd))
    · exact act.isLasting lasting.store sound caller joined d hd
    · exact callers d (.inr hd)
  · change site'.host.IsOnFile site'.arena.file site'.arena.store
    rw [act.steady.file]
    rcases act.written with keeps | ⟨same, grows⟩
    · exact .inl keeps
    · rw [same]
      exact lasting.file.grows grows

theorem IsLasting.aside {callers : List Caller} (lasting : IsLasting ⟨site, callers⟩)
    (aside : Aside site site') (untouched : Untouched site site') :
    IsLasting ⟨site', callers⟩ := by
  obtain ⟨nothing, holds⟩ := untouched
  refine ⟨?_, lasting.callers, ?_⟩
  · change site'.arena.store.IsDurable
    rw [aside.store]
    exact lasting.store
  · change site'.host.IsOnFile site'.arena.file site'.arena.store
    rw [aside.file, aside.store]
    rcases lasting.file with keeps | ⟨empty, written⟩
    · exact .inl fun p hp => ⟨(keeps p hp).1, holds p hp _ (keeps p hp).2⟩
    · exact .inr ⟨empty, fun p hp text there => written p hp text (nothing p hp text there)⟩

theorem IsLasting.reopen {p : Path} {purpose : Purpose} {callers : List Caller}
    (lasting : IsLasting ⟨site, callers⟩) (file : site.arena.file = some p)
    (loaded : Store.load purpose p site.host = (.ok site'.arena.store, site'.host))
    (file' : site'.arena.file = some p) : IsLasting ⟨site', []⟩ := by
  obtain ⟨store, disk⟩ := lasting.found file loaded
  refine ⟨?_, fun d hd => (by cases hd), ?_⟩
  · change site'.arena.store.IsDurable
    rw [store]
    exact lasting.store
  · change site'.host.IsOnFile site'.arena.file site'.arena.store
    rw [store, file', ← file]
    refine lasting.file.grows ?_
    rw [disk]
    exact refl_of Disk.Grows _

theorem Chronicle.isLasting (run : Chronicle start past scene) (fresh : start.IsFresh)
    (joined : ∀ new, .change (.stored new) ∈ past → new.rejoined = new) : scene.IsLasting := by
  induction run with
  | start =>
    refine ⟨?_, fun c hc => ?_, .inr ⟨fresh.empty, fresh.file⟩⟩
    · rw [fresh.empty]
      exact Store.isDurable_empty
    · rw [fresh.nobody] at hc
      cases hc
  | step before tells ih =>
    have lasting := ih fun new h => joined new (List.mem_append_right _ h)
    have sound := isSound_of_run before.run fresh
    have sound' := isSound_of_run (before.step tells).run fresh
    cases tells with
    | act first last act =>
      refine lasting.act act (fun d hd => sound.callers d ?_) sound'.store fun new h => ?_
      · exact List.mem_append_left _ (List.mem_append_right _ (Option.mem_toList.2 hd))
      · exact joined new (by rw [h]; exact List.mem_cons_self)
    | aside _ aside untouched => exact lasting.aside aside untouched
    | reopen _ _ file loaded file' => exact lasting.reopen file loaded file'

end Scene
end IteratedDilemma
