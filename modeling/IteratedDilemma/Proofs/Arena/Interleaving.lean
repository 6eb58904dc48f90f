import IteratedDilemma.Proofs.Arena.Commits
import IteratedDilemma.Proofs.Arena.Playing

/-! Runs of an arena that any number of callers share. A save, a grand tournament, a reset and a
clear are cut into the steps between which other callers may come in: a look at the stored
strategies, one match, one change of the store. Grand tournaments, resets and clears start only
while the gate is free; any change of the store may fail. Main statements: what one step does to
the store (`Act.store_change`) and what it leaves alone (`Act.steady`). -/
namespace IteratedDilemma
set_option autoImplicit false

/-- What somebody asks to be saved. -/
structure SaveRequest where
  name : Text
  tree : LogicTree
  authorId : Option Text
  author : Option Text

/-- Saves what somebody asks to be saved. -/
def Site.save (observe : Observer) (q : SaveRequest) : Work Site (Strategy × Outcome) :=
  saveStrategy observe (.text q.name) q.tree (.ofOption q.authorId) (.ofOption q.author)

/-- How far a caller has come: it has looked up the opponents of a strategy to be saved, it may
start something under the gate, it plays, or it has nothing left to do. -/
inductive Stage where
  | looked (tree : LogicTree) (authorId : Option Text) (name author : Text)
      (opponents : List Strategy)
  | admitted
  | playing (total : Nat) (left : List Fixture) (p : Pass)
  | done

structure Caller where
  holdsGate : Bool
  stage : Stage

/-- An arena with all who are using it. -/
structure Scene where
  site : Site
  callers : List Caller

/-- What a step does to the store, for those who keep count. -/
inductive Event where
  | stored (new : Strategy)
  | committed (records : List MatchRecord)
  | reset
  | cleared

namespace Scene

/-! ## Steps -/

/-- A step of one caller, who is not there before it comes and after it has left. -/
inductive Act : Site → Option Caller → Option Event → Site → Option Caller → Prop where
  | look {site site' : Site} {request : SaveRequest} {name author : Text}
      {opponents : List Strategy} :
      requiredName (.text request.name) = .ok name →
      displayName (.ofOption request.author) (.ofOption request.authorId) = .ok author →
      Site.ranked site = (.ok opponents, site') →
      Act site none none site'
        (some ⟨false, .looked request.tree request.authorId name author opponents⟩)
  | store {site site' : Site} {tree : LogicTree} {authorId : Option Text} {name author : Text}
      {opponents : List Strategy} {new : Strategy} (startedAt : Timestamp) :
      Site.addStrategy (.text name) tree (.ofOption authorId) (.text author) site =
        (.ok new, site') →
      Act site (some ⟨false, .looked tree authorId name author opponents⟩) (some (.stored new))
        site' (some ⟨false, .playing (Schedule.challenge new opponents).length
          (Schedule.challenge new opponents) (.onSave startedAt new)⟩)
  | storeFails {site site' : Site} {tree : LogicTree} {authorId : Option Text}
      {name author : Text} {opponents : List Strategy} {fault : Fault} :
      Site.addStrategy (.text name) tree (.ofOption authorId) (.text author) site =
        (.error fault, site') →
      Act site (some ⟨false, .looked tree authorId name author opponents⟩) none site'
        (some ⟨false, .done⟩)
  | claim {site site' : Site} :
      Site.tryBegin site = (.ok true, site') →
      Act site none none site' (some ⟨true, .admitted⟩)
  | muster {site site' : Site} {strategies : List Strategy} (startedAt : Timestamp) :
      Site.ranked site = (.ok strategies, site') → 2 ≤ strategies.length →
      Act site (some ⟨true, .admitted⟩) none site'
        (some ⟨true, .playing (Schedule.roundRobin strategies).length
          (Schedule.roundRobin strategies) (.grand startedAt strategies)⟩)
  | play {site site' : Site} {holdsGate : Bool} {total : Nat} {f : Fixture} {left : List Fixture}
      {p p' : Pass} {r : MatchRecord} :
      Site.playFixture total f p site = (.ok (p', r), site') →
      Act site (some ⟨holdsGate, .playing total (f :: left) p⟩) none site'
        (some ⟨holdsGate, .playing total left p'⟩)
  | commit {site site' : Site} {holdsGate : Bool} {total : Nat} {p : Pass}
      (finishedAt : Timestamp) :
      Site.applyOutcome (p.finish finishedAt) site = (.ok (), site') →
      Act site (some ⟨holdsGate, .playing total [] p⟩) (some (.committed p.records.reverse)) site'
        (some ⟨holdsGate, .done⟩)
  | commitFails {site site' : Site} {holdsGate : Bool} {total : Nat} {p : Pass}
      (finishedAt : Timestamp) {fault : Fault} :
      Site.applyOutcome (p.finish finishedAt) site = (.error fault, site') →
      Act site (some ⟨holdsGate, .playing total [] p⟩) none site' (some ⟨holdsGate, .done⟩)
  | reset {site site' : Site} :
      Site.resetStore site = (.ok (), site') →
      Act site (some ⟨true, .admitted⟩) (some .reset) site' (some ⟨true, .done⟩)
  | resetFails {site site' : Site} {fault : Fault} :
      Site.resetStore site = (.error fault, site') →
      Act site (some ⟨true, .admitted⟩) none site' (some ⟨true, .done⟩)
  | clear {site site' : Site} :
      Site.clearStore site = (.ok (), site') →
      Act site (some ⟨true, .admitted⟩) (some .cleared) site' (some ⟨true, .done⟩)
  | clearFails {site site' : Site} {fault : Fault} :
      Site.clearStore site = (.error fault, site') →
      Act site (some ⟨true, .admitted⟩) none site' (some ⟨true, .done⟩)
  | release {site site' : Site} {stage : Stage} :
      Site.endPass site = (.ok (), site') →
      Act site (some ⟨true, stage⟩) none site' none
  | leave {site : Site} {stage : Stage} :
      Act site (some ⟨false, stage⟩) none site none

/-- What may happen to an arena between the steps of its callers: the clock goes on, the disk and
the journal change, random numbers are drawn, but its store and its gate are left alone. -/
structure Aside (site site' : Site) : Prop where
  store : site'.arena.store = site.arena.store
  file : site'.arena.file = site.arena.file
  settings : site'.arena.settings = site.arena.settings
  rounds : site'.arena.rounds = site.arena.rounds
  isHeld : site'.arena.isHeld = site.arena.isHeld
  strategies : site.host.strategiesNamed ≤ site'.host.strategiesNamed
  records : site.host.recordsNamed ≤ site'.host.recordsNamed

/-- One step of an arena: a caller comes, goes on or leaves, or something happens aside. -/
inductive Step : Scene → Option Event → Scene → Prop where
  | act {site site' : Site} {c c' : Option Caller} {e : Option Event}
      (before after : List Caller) : Act site c e site' c' →
      Step ⟨site, before ++ c.toList ++ after⟩ e ⟨site', before ++ c'.toList ++ after⟩
  | aside {site site' : Site} (callers : List Caller) : Aside site site' →
      Step ⟨site, callers⟩ none ⟨site', callers⟩

/-- A run of steps from a scene, with what they did to the store, the newest first. -/
inductive Run (start : Scene) : List Event → Scene → Prop where
  | start : Run start [] start
  | step {past : List Event} {scene scene' : Scene} {e : Option Event} :
      Run start past scene → Step scene e scene' → Run start (e.toList ++ past) scene'

end Scene

/-! ## What one step does -/

namespace Site

/-- A site on which nothing has changed but the store, the source and the gate, and on which the
counts of names have not become smaller. -/
structure Steady (site site' : Site) : Prop where
  file : site'.arena.file = site.arena.file
  settings : site'.arena.settings = site.arena.settings
  rounds : site'.arena.rounds = site.arena.rounds
  strategies : site.host.strategiesNamed ≤ site'.host.strategiesNamed
  records : site.host.recordsNamed ≤ site'.host.recordsNamed

instance : IsPreorder Site Steady where
  refl _ := ⟨rfl, rfl, rfl, Nat.le_refl _, Nat.le_refl _⟩
  trans _ _ _ a b := ⟨b.file.trans a.file, b.settings.trans a.settings, b.rounds.trans a.rounds,
    Nat.le_trans a.strategies b.strategies, Nat.le_trans a.records b.records⟩

variable {α : Type} {site site' : Site} {host : Host} {store : Store} {a b : α} {fault : Fault}

theorem Settles.of_eq {run run' : Except Fault α × Site} (h : Settles site host store a run)
    (e : run = run') : Settles site host store a run' := e ▸ h

/-- An operation of a store that goes well gives what it has to. -/
theorem Settles.of_isOk {run : Except Fault α × Site} (h : Settles site host store a run)
    (ok : run.1.isOk = true) : run = (.ok a, run.2) := by
  obtain ⟨host', -, -, rfl⟩ | ⟨fault, host', -, -, -, rfl⟩ := h
  · rfl
  · cases ok

theorem Settles.store_of_ok (h : Settles site host store a (.ok b, site')) :
    b = a ∧ site'.arena.store = store := by
  obtain ⟨host', -, -, h⟩ | ⟨fault, host', -, -, -, h⟩ := h
  · cases h
    exact ⟨rfl, rfl⟩
  · cases h

theorem Settles.store_of_error (h : Settles site host store a (.error fault, site')) :
    site'.arena.store = site.arena.store := by
  obtain ⟨host', -, -, h⟩ | ⟨fault, host', -, -, -, h⟩ := h <;> cases h
  rfl

theorem Settles.keeps_of_ok (h : Settles site host store a (.ok b, site')) :
    site'.host.Keeps site.arena.file store := by
  obtain ⟨host', -, keeps, h⟩ | ⟨fault, host', -, -, -, h⟩ := h <;> cases h
  exact keeps

theorem Settles.grows_of_error (h : Settles site host store a (.error fault, site')) :
    host.disk.Grows site'.host.disk := by
  obtain ⟨host', -, -, h⟩ | ⟨fault, host', -, grows, -, h⟩ := h <;> cases h
  exact grows

theorem Settles.isHeld {run : Except Fault α × Site} (h : Settles site host store a run) :
    run.2.arena.isHeld = site.arena.isHeld := by
  obtain ⟨_, -, -, rfl⟩ | ⟨_, _, -, -, -, rfl⟩ := h <;> rfl

theorem Settles.steady {run : Except Fault α × Site} (h : Settles site host store a run)
    (strategies : site.host.strategiesNamed ≤ host.strategiesNamed)
    (records : site.host.recordsNamed = host.recordsNamed) : Steady site run.2 := by
  have kept {host' : Host} (names : host.SameNames host') (store' : Store) :
      Steady site (site.after host' store') :=
    ⟨rfl, rfl, rfl, by rw [after_host, names.strategies]; exact strategies,
      by rw [after_host, names.records]; exact Nat.le_of_eq records⟩
  obtain ⟨host', names, -, rfl⟩ | ⟨fault, host', names, -, -, rfl⟩ := h
  · exact kept names store
  · exact kept names site.arena.store

theorem HasPlayed.steady {source : RandomSource} (h : HasPlayed site source site') :
    Steady site site' where
  file := by rw [h.arena]
  settings := by rw [h.arena]
  rounds := by rw [h.arena]
  strategies := Nat.le_of_eq h.strategies.symm
  records := by rw [h.records]; exact Nat.le_succ _

end Site

namespace Scene

/-- The change of the store that an event tells of, made by a caller. -/
def Changes (site : Site) (c : Option Caller) (store : Store) : Option Event → Prop
  | none => store = site.arena.store
  | some (.stored new) =>
    (∃ name tree authorId author, new = site.newcomer name tree authorId author) ∧
      store = site.arena.store.add new
  | some (.committed records) =>
    ∃ holdsGate total p finishedAt, c = some ⟨holdsGate, .playing total [] p⟩ ∧
      records = p.records.reverse ∧ site.arena.store.apply (p.finish finishedAt) = .ok store
  | some .reset => store = site.arena.store.reset
  | some .cleared => store = .empty

theorem apply_of_applyOutcome {o : Outcome} {site site' : Site}
    (h : Site.applyOutcome o site = (.ok (), site')) :
    site.arena.store.apply o = .ok site'.arena.store := by
  cases hs : site.arena.store.apply o with
  | error fault => rw [Site.applyOutcome_error hs] at h; cases h
  | ok store => rw [((Site.applyOutcome_settles hs).of_eq h).store_of_ok.2]

theorem applyOutcome_store_of_error {o : Outcome} {site site' : Site} {fault : Fault}
    (h : Site.applyOutcome o site = (.error fault, site')) :
    site'.arena.store = site.arena.store := by
  cases hs : site.arena.store.apply o with
  | error fault => rw [Site.applyOutcome_error hs] at h; cases h; rfl
  | ok store => exact ((Site.applyOutcome_settles hs).of_eq h).store_of_error

theorem applyOutcome_grows_of_error {o : Outcome} {site site' : Site} {fault : Fault}
    (h : Site.applyOutcome o site = (.error fault, site')) :
    site.host.disk.Grows site'.host.disk := by
  cases hs : site.arena.store.apply o with
  | error fault => rw [Site.applyOutcome_error hs] at h; cases h; exact refl_of _ _
  | ok store => exact ((Site.applyOutcome_settles hs).of_eq h).grows_of_error

theorem applyOutcome_steady {o : Outcome} {site site' : Site} {result : Except Fault Unit}
    (h : Site.applyOutcome o site = (result, site')) : site.Steady site' := by
  cases hs : site.arena.store.apply o with
  | error fault => rw [Site.applyOutcome_error hs] at h; cases h; exact refl_of _ _
  | ok store => exact ((Site.applyOutcome_settles hs).of_eq h).steady (Nat.le_refl _) rfl

theorem applyOutcome_isHeld {o : Outcome} {site site' : Site} {result : Except Fault Unit}
    (h : Site.applyOutcome o site = (result, site')) :
    site'.arena.isHeld = site.arena.isHeld := by
  cases hs : site.arena.store.apply o with
  | error fault => rw [Site.applyOutcome_error hs] at h; cases h; rfl
  | ok store => exact ((Site.applyOutcome_settles hs).of_eq h).isHeld

theorem tryBegin_ok {site site' : Site} (h : Site.tryBegin site = (.ok true, site')) :
    site.arena.isHeld = false ∧ site' = site.withGate true := by
  unfold Site.tryBegin at h
  cases hs : site.arena.isHeld <;> rw [hs] at h <;> cases h
  exact ⟨rfl, rfl⟩

theorem endPass_ok {site site' : Site} (h : Site.endPass site = (.ok (), site')) :
    site.arena.isHeld = true ∧ site' = site.withGate false := by
  unfold Site.endPass at h
  split at h <;> cases h
  exact ⟨‹_›, rfl⟩

variable {site site' : Site} {c c' : Option Caller} {e : Option Event}

/-- The store changes as the event of a step tells. -/
theorem Act.store_change (h : Act site c e site' c') : Changes site c site'.arena.store e := by
  cases h with
  | look _ _ h => rw [(Site.ranked_eq h).2]; rfl
  | store startedAt h =>
    have settles := (site.addStrategy_settles _ _ _ _).of_eq h
    obtain ⟨e, store⟩ := settles.store_of_ok
    exact ⟨⟨_, _, _, _, e⟩, by rw [store, e]⟩
  | storeFails h =>
    exact ((site.addStrategy_settles _ _ _ _).of_eq h).store_of_error
  | claim h => rw [(tryBegin_ok h).2]; rfl
  | muster _ h _ => rw [(Site.ranked_eq h).2]; rfl
  | play h => rw [(Site.playFixture_ok h).2.2.arena]; rfl
  | commit finishedAt h => exact ⟨_, _, _, _, rfl, rfl, apply_of_applyOutcome h⟩
  | commitFails finishedAt h => exact applyOutcome_store_of_error h
  | reset h =>
    exact (site.resetStore_settles.of_eq h).store_of_ok.2
  | resetFails h =>
    exact (site.resetStore_settles.of_eq h).store_of_error
  | clear h =>
    exact (site.clearStore_settles.of_eq h).store_of_ok.2
  | clearFails h =>
    exact (site.clearStore_settles.of_eq h).store_of_error
  | release h => rw [(endPass_ok h).2]; rfl
  | leave => rfl

theorem Act.steady (h : Act site c e site' c') : site.Steady site' := by
  cases h with
  | look _ _ h => rw [(Site.ranked_eq h).2]; exact refl_of _ _
  | store startedAt h | storeFails h =>
    exact ((site.addStrategy_settles _ _ _ _).of_eq h).steady (Nat.le_succ _) rfl
  | claim h => rw [(tryBegin_ok h).2]; exact ⟨rfl, rfl, rfl, Nat.le_refl _, Nat.le_refl _⟩
  | muster _ h _ => rw [(Site.ranked_eq h).2]; exact refl_of _ _
  | play h => exact (Site.playFixture_ok h).2.2.steady
  | commit finishedAt h | commitFails finishedAt h => exact applyOutcome_steady h
  | reset h | resetFails h =>
    exact (site.resetStore_settles.of_eq h).steady (Nat.le_refl _) rfl
  | clear h | clearFails h =>
    exact (site.clearStore_settles.of_eq h).steady (Nat.le_refl _) rfl
  | release h => rw [(endPass_ok h).2]; exact ⟨rfl, rfl, rfl, Nat.le_refl _, Nat.le_refl _⟩
  | leave => exact refl_of _ _

/-- A caller holds the gate when it has claimed it, and no longer when it has released it. No other
step moves the gate. -/
theorem Act.gate (h : Act site c e site' c') :
    c'.toList.countP Caller.holdsGate + site.arena.isHeld.toNat =
      c.toList.countP Caller.holdsGate + site'.arena.isHeld.toNat := by
  have kept {stage stage' : Stage} {holdsGate : Bool}
      (same : site'.arena.isHeld = site.arena.isHeld) :
      [(⟨holdsGate, stage'⟩ : Caller)].countP Caller.holdsGate + site.arena.isHeld.toNat =
        [(⟨holdsGate, stage⟩ : Caller)].countP Caller.holdsGate + site'.arena.isHeld.toNat := by
    rw [same]
    rfl
  cases h with
  | look _ _ h | muster _ h _ => rw [(Site.ranked_eq h).2]; rfl
  | store startedAt h | storeFails h =>
    exact kept ((site.addStrategy_settles _ _ _ _).of_eq h).isHeld
  | claim h =>
    obtain ⟨free, rfl⟩ := tryBegin_ok h
    rw [free]
    rfl
  | play h => exact kept (by rw [(Site.playFixture_ok h).2.2.arena])
  | commit finishedAt h | commitFails finishedAt h => exact kept (applyOutcome_isHeld h)
  | reset h | resetFails h => exact kept (site.resetStore_settles.of_eq h).isHeld
  | clear h | clearFails h => exact kept (site.clearStore_settles.of_eq h).isHeld
  | release h =>
    obtain ⟨held, rfl⟩ := endPass_ok h
    rw [held]
    rfl
  | leave => rfl

/-- What each caller's steps preserve holds of all callers after a step. -/
theorem Step.callers {scene scene' : Scene} {e : Option Event} {holds : Caller → Prop}
    (h : Step scene e scene') (all : ∀ c ∈ scene.callers, holds c)
    (one : ∀ {c c'}, Act scene.site c e scene'.site c' → (∀ d ∈ c, holds d) → ∀ d ∈ c', holds d) :
    ∀ c ∈ scene'.callers, holds c := by
  cases h with
  | @act _ _ c _ _ before after act =>
    have own : ∀ d ∈ c, holds d := fun d hd =>
      all d (by simp only [List.mem_append, Option.mem_toList]; tauto)
    intro d hd
    simp only [List.mem_append, Option.mem_toList] at hd
    rcases hd with (hd | hd) | hd
    · exact all d (by simp only [List.mem_append]; tauto)
    · exact one act own d hd
    · exact all d (by simp only [List.mem_append]; tauto)
  | aside callers aside => exact all

theorem Step.gate {scene scene' : Scene} {e : Option Event} (h : Step scene e scene') :
    scene'.callers.countP Caller.holdsGate + scene.site.arena.isHeld.toNat =
      scene.callers.countP Caller.holdsGate + scene'.site.arena.isHeld.toNat := by
  cases h with
  | act before after act =>
    have one := act.gate
    simp only [List.countP_append]
    omega
  | aside callers aside => rw [aside.isHeld]

end Scene
end IteratedDilemma
