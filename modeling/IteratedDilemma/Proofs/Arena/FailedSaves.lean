import IteratedDilemma.Proofs.Arena.Calls
import IteratedDilemma.Proofs.Arena.Field
import IteratedDilemma.Proofs.Arena.Names

/-! Saves that fail. A save goes on step by step until one of its steps raises a fault
(`Scene.Tries`); between its steps others may do anything to the arena (`Scene.Foreign`). The
invariant that carries this is `Scene.IsHarmless`: until the save has stored its strategy the store
is what the others have made of it, and afterwards it is that but for the new strategy. Main
statement: a save that fails appends no record, changes no score, and leaves its strategy behind at
most (`Scene.failed_save_harms_nobody`). -/
namespace IteratedDilemma
set_option autoImplicit false

/-! ## Changes of a store -/

/-- A change of a store. -/
inductive Change where
  | added (new : Strategy)
  | took (o : Outcome)
  | reset
  | cleared

/-- What a change leaves of a stored strategy: nothing, if everything is removed. -/
def Change.leaves : Change → Strategy → Option Strategy
  | added _, t => some t
  | took o, t => some (t.withScore (((Store.scoreWith o.deltas t).toOption).getD t.score))
  | reset, t => some (t.withScore (.int 0))
  | cleared, _ => none

/-- What changes leave of it, of which the newest stands first. -/
def Change.allLeave (changes : List Change) (t : Strategy) : Option Strategy :=
  changes.foldr (fun change t => t.bind change.leaves) (some t)

namespace Store

/-- The store after a change. -/
def changed (s : Store) : Change → Store
  | .added new => s.add new
  | .took o => (s.rescore fun t => ((scoreWith o.deltas t).toOption).getD t.score).append o.records
  | .reset => s.reset
  | .cleared => .empty

/-- The store after changes, of which the newest stands first. -/
def afterAll (s : Store) (changes : List Change) : Store :=
  changes.foldr (fun change s => s.changed change) s

theorem afterAll_append (s : Store) (later earlier : List Change) :
    s.afterAll (later ++ earlier) = (s.afterAll earlier).afterAll later :=
  List.foldr_append

theorem eq_changed_of_apply {s s' : Store} {o : Outcome} (h : s.apply o = .ok s') :
    s' = s.changed (.took o) := by
  unfold apply at h
  split at h
  · split at h
    · cases h
    · cases h
      rfl
  · cases h

/-! ## One strategy and the others -/

/-- A store is what is left of another one without the strategy of a key. -/
structure IsBut (key : Json) (s rest : Store) : Prop where
  strategies : (s.strategies.filter fun t => t.key ≠ key) = rest.strategies
  records : s.records = rest.records

theorem filter_place {new : Strategy} {key : Json} (other : new.key ≠ key)
    (others : List Strategy) : ((place new others).filter fun t => t.key ≠ key) =
      place new (others.filter fun t => t.key ≠ key) := by
  induction others with
  | nil => exact List.filter_cons_of_pos (decide_eq_true other)
  | cons t rest ih =>
    rw [place]
    by_cases same : t.key = new.key
    · have kept : t.key ≠ key := same ▸ other
      rw [if_pos same, List.filter_cons, List.filter_cons, if_pos (decide_eq_true other),
        if_pos (decide_eq_true kept), place, if_pos same]
    · rw [if_neg same, List.filter_cons, List.filter_cons, ih]
      by_cases kept : t.key ≠ key
      · rw [if_pos (decide_eq_true kept), if_pos (decide_eq_true kept), place, if_neg same]
      · rw [if_neg (by simpa using kept), if_neg (by simpa using kept)]

theorem isBut_rescore {key : Json} {s rest : Store} (h : s.IsBut key rest)
    (score : Strategy → Json) : (s.rescore score).IsBut key (rest.rescore score) where
  strategies := by
    change ((s.strategies.map _).filter _) = rest.strategies.map _
    rw [List.filter_map, ← h.strategies]
    rfl
  records := h.records

theorem IsBut.changed {key : Json} {s rest : Store} (h : s.IsBut key rest) {change : Change}
    (other : ∀ new, change = .added new → new.key ≠ key) :
    (s.changed change).IsBut key (rest.changed change) := by
  cases change with
  | added new =>
    refine ⟨?_, h.records⟩
    change ((place new s.strategies).filter _) = place new rest.strategies
    rw [filter_place (other new rfl), h.strategies]
  | took o =>
    have scored := isBut_rescore h fun t => ((scoreWith o.deltas t).toOption).getD t.score
    exact ⟨scored.strategies, congrArg (· ++ o.records) scored.records⟩
  | reset => exact isBut_rescore h _
  | cleared => exact ⟨rfl, rfl⟩

theorem isBut_add {s : Store} {new : Strategy} (absent : ∀ t ∈ s.strategies, t.key ≠ new.key) :
    (s.add new).IsBut new.key s where
  strategies := by
    change ((place new s.strategies).filter _) = _
    rw [place_of_absent absent, List.filter_append,
      List.filter_eq_self.2 fun t ht => decide_eq_true (absent t ht),
      List.filter_cons_of_neg (by simp), List.filter_nil, List.append_nil]
  records := rfl

theorem find?_place_of_ne {new : Strategy} {key : Json} (other : new.key ≠ key)
    (others : List Strategy) : ((place new others).find? fun t => t.key = key) =
      others.find? fun t => t.key = key := by
  induction others with
  | nil => exact List.find?_cons_of_neg (by simpa using other)
  | cons t rest ih =>
    rw [place]
    split
    · next same =>
      have apart : t.key ≠ key := same ▸ other
      rw [List.find?_cons_of_neg (by simpa using other),
        List.find?_cons_of_neg (by simpa using apart)]
    · rw [List.find?_cons, List.find?_cons, ih]

theorem get?_rescore (s : Store) (score : Strategy → Json) (id : Json) :
    (s.rescore score).get? id = (s.get? id).map fun t => t.withScore (score t) := by
  change (s.strategies.map _).find? _ = _
  rw [List.find?_map]
  rfl

theorem get?_add_self (s : Store) (new : Strategy) : (s.add new).get? new.id = some new :=
  get?_of_mem (mem_place_self new s.strategies)

theorem get?_changed (s : Store) {change : Change} {id : Json}
    (other : ∀ new, change = .added new → new.key ≠ id.key) :
    (s.changed change).get? id = (s.get? id).bind change.leaves := by
  cases change with
  | added new =>
    change (place new s.strategies).find? _ = _
    rw [find?_place_of_ne (other new rfl)]
    exact (Option.bind_fun_some _).symm
  | took o => exact (get?_rescore s _ id).trans (Option.map_eq_bind ..)
  | reset => exact (get?_rescore s _ id).trans (Option.map_eq_bind ..)
  | cleared => exact (Option.bind_fun_none _).symm

end Store

namespace Scene

/-! ## What others do -/

/-- Somebody else does something at once: one change of the store, or none. A strategy comes under
an identifier that has not been given before. -/
structure Foreign (site : Site) (change : Option Change) (site' : Site) : Prop where
  store : site'.arena.store = site.arena.store.afterAll change.toList
  names : site.host.strategiesNamed ≤ site'.host.strategiesNamed
  fresh : ∀ new, change = some (.added new) → ∃ n, site.host.strategiesNamed ≤ n ∧
    n < site'.host.strategiesNamed ∧ new.id = Host.strategyId n

theorem foreign_of_same {site site' : Site} (store : site'.arena.store = site.arena.store)
    (names : site.host.strategiesNamed ≤ site'.host.strategiesNamed) : Foreign site none site' :=
  ⟨store, names, fun _ h => by cases h⟩

/-- A strategy has been stored under the next identifier, with score 0, and the file holds the store
with it. -/
structure Stores (site : Site) (new : Strategy) (site' : Site) : Prop where
  id : new.id = Host.strategyId site.host.strategiesNamed
  score : new.score = .int 0
  store : site'.arena.store = site.arena.store.add new
  file : site'.host.Keeps site.arena.file site'.arena.store
  names : site'.host.strategiesNamed = site.host.strategiesNamed + 1

theorem stores_of_added {site site' : Site} {name authorId author : Json} {tree : LogicTree}
    {new : Strategy} (h : Site.addStrategy name tree authorId author site = (.ok new, site')) :
    Stores site new site' := by
  obtain ⟨host, names, keeps, e⟩ | ⟨_, _, -, -, -, e⟩ :=
    (site.addStrategy_settles _ _ _ _).of_eq h
  · cases e
    exact ⟨rfl, rfl, rfl, keeps, names.strategies⟩
  · cases e

theorem Act.foreign {site site' : Site} {c c' : Option Caller} {e : Option Event}
    (h : Act site c e site' c') : ∃ change, Foreign site change site' := by
  have names := h.steady.strategies
  have store := h.store_change
  rcases e with _ | new | records | _ | _
  · exact ⟨none, foreign_of_same store names⟩
  · cases h with
    | store startedAt added =>
      have stores := stores_of_added added
      refine ⟨some (.added new), stores.store, names, fun other e => ?_⟩
      cases e
      exact ⟨_, Nat.le_refl _, Nat.lt_of_succ_le (Nat.le_of_eq stores.names.symm), stores.id⟩
  · obtain ⟨_, _, p, finishedAt, -, -, applied⟩ := store
    exact ⟨some (.took (p.finish finishedAt)), Store.eq_changed_of_apply applied, names,
      fun _ h => by cases h⟩
  · exact ⟨some .reset, store, names, fun _ h => by cases h⟩
  · exact ⟨some .cleared, store, names, fun _ h => by cases h⟩

/-- Whatever happens in a step of an arena can be somebody else's doing. -/
theorem Step.foreign {scene scene' : Scene} {e : Option Event} (h : Step scene e scene') :
    ∃ change, Foreign scene.site change scene'.site := by
  cases h with
  | act before after act => exact act.foreign
  | aside callers aside => exact ⟨none, foreign_of_same aside.store aside.strategies⟩

/-! ## A save that fails -/

/-- A caller who saves, with the fault by which the save has ended, if it has. -/
structure Saver where
  caller : Option Caller
  fault : Option Fault

/-- Whether the strategy has been stored. -/
def Saver.hasStored (saver : Saver) : Bool :=
  match saver.caller with
  | some ⟨_, .playing _ _ _⟩ => true
  | _ => false

/-- The ways in which a save raises a fault: a name is missing, the opponents cannot be looked up,
the strategy cannot be stored, a match cannot be played, an observer gives up, or the outcome cannot
be taken over. -/
inductive Raises : Site → Option Caller → Fault → Site → Prop where
  | unnamed {site : Site} {request : SaveRequest} {fault : Fault} :
      requiredName (.text request.name) = .error fault → Raises site none fault site
  | unshown {site : Site} {request : SaveRequest} {name : Text} {fault : Fault} :
      requiredName (.text request.name) = .ok name →
      displayName (.ofOption request.author) (.ofOption request.authorId) = .error fault →
      Raises site none fault site
  | unlisted {site site' : Site} {request : SaveRequest} {name author : Text} {fault : Fault} :
      requiredName (.text request.name) = .ok name →
      displayName (.ofOption request.author) (.ofOption request.authorId) = .ok author →
      Site.ranked site = (.error fault, site') → Raises site none fault site'
  | unstored {site site' : Site} {tree : LogicTree} {authorId : Option Text} {name author : Text}
      {opponents : List Strategy} {fault : Fault} :
      Site.addStrategy (.text name) tree (.ofOption authorId) (.text author) site =
        (.error fault, site') →
      Raises site (some ⟨false, .looked tree authorId name author opponents⟩) fault site'
  | unplayed {site site' : Site} {total : Nat} {f : Fixture} {left : List Fixture} {p : Pass}
      {fault : Fault} :
      Site.playFixture total f p site = (.error fault, site') →
      Raises site (some ⟨false, .playing total (f :: left) p⟩) fault site'
  | abandoned {site : Site} {total : Nat} {left : List Fixture} {p : Pass} (fault : Fault) :
      Raises site (some ⟨false, .playing total left p⟩) fault site
  | refused {site site' : Site} {total : Nat} {p : Pass} (finishedAt : Timestamp) {fault : Fault} :
      Site.applyOutcome (p.finish finishedAt) site = (.error fault, site') →
      Raises site (some ⟨false, .playing total [] p⟩) fault site'

/-- A step of a save that fails: it goes on, or raises a fault. Once the outcome is committed there
is nothing left to raise one, so a save that fails does not come to that. -/
inductive Tries : Site → Saver → Option Event → Site → Saver → Prop where
  | goesOn {site site' : Site} {c : Option Caller} {e : Option Event} {stage : Stage} :
      Act site c e site' (some ⟨false, stage⟩) → stage ≠ .done →
      Tries site ⟨c, none⟩ e site' ⟨some ⟨false, stage⟩, none⟩
  | raises {site site' : Site} {c : Option Caller} {fault : Fault} :
      Raises site c fault site' → Tries site ⟨c, none⟩ none site' ⟨c, some fault⟩

/-- A site with the store of another one, on whose disk there are new folders at most. -/
structure Spares (site site' : Site) : Prop where
  store : site'.arena.store = site.arena.store
  disk : site.host.disk.Grows site'.host.disk
  names : site.host.strategiesNamed ≤ site'.host.strategiesNamed

theorem spares_self (site : Site) : Spares site site := ⟨rfl, refl_of Disk.Grows _, Nat.le_refl _⟩

theorem Spares.foreign {site site' : Site} (h : Spares site site') : Foreign site none site' :=
  foreign_of_same h.store h.names

theorem Still.spares {site site' : Site} (h : Still site site') : Spares site site' :=
  ⟨h.store, h.disk ▸ refl_of Disk.Grows _, h.strategies⟩

theorem Raises.spares {site site' : Site} {c : Option Caller} {fault : Fault}
    (h : Raises site c fault site') : Spares site site' := by
  cases h with
  | unnamed | unshown | abandoned => exact spares_self site
  | unlisted _ _ h =>
    rw [(Site.ranked_eq h).2]
    exact spares_self site
  | unstored h =>
    have settles := (site.addStrategy_settles _ _ _ _).of_eq h
    exact ⟨settles.store_of_error, settles.grows_of_error,
      (settles.steady (Nat.le_succ _) rfl).strategies⟩
  | @unplayed _ total f left p _ h =>
    have still := playFixture_within total f p site
    rw [h] at still
    exact still.spares
  | refused finishedAt h =>
    exact ⟨applyOutcome_store_of_error h, applyOutcome_grows_of_error h,
      (applyOutcome_steady h).strategies⟩

/-- All that a step of a failing save does. -/
theorem Tries.cases {site site' : Site} {s s' : Saver} {e : Option Event}
    (h : Tries site s e site' s') :
    (e = none ∧ s'.hasStored = s.hasStored ∧ Spares site site') ∨
    ∃ new, e = some (.stored new) ∧ s.hasStored = false ∧ s'.hasStored = true ∧
      Stores site new site' := by
  cases h with
  | raises h => exact .inl ⟨rfl, rfl, h.spares⟩
  | goesOn act underWay =>
    cases act with
    | look _ _ listed =>
      rw [(Site.ranked_eq listed).2]
      exact .inl ⟨rfl, rfl, spares_self site⟩
    | store startedAt added => exact .inr ⟨_, rfl, rfl, rfl, stores_of_added added⟩
    | @play _ _ total f _ p _ _ played =>
      have still := playFixture_within total f p site
      rw [played] at still
      exact .inl ⟨rfl, rfl, still.spares⟩
    | storeFails | commit | commitFails => exact absurd rfl underWay

/-! ## Among others -/

/-- What is done to the store, by the save or by others. -/
inductive Deed where
  | own (e : Event)
  | foreign (change : Change)

/-- How far a failing save has come that others may come in between, with what has been done to the
store since its start, the newest first. -/
inductive Attempt (start : Site) : List Deed → Site → Saver → Prop where
  | start : Attempt start [] start ⟨none, none⟩
  | tries {past : List Deed} {site site' : Site} {s s' : Saver} {e : Option Event} :
      Attempt start past site s → Tries site s e site' s' →
      Attempt start (e.toList.map .own ++ past) site' s'
  | foreign {past : List Deed} {site site' : Site} {s : Saver} {change : Option Change} :
      Attempt start past site s → Foreign site change site' →
      Attempt start (change.toList.map .foreign ++ past) site' s

end Scene

/-- No strategy has an identifier that the host is still to give. -/
def Site.IsFresh (site : Site) : Prop :=
  ∀ n, site.host.strategiesNamed ≤ n →
    ∀ t ∈ site.arena.store.strategies, t.key ≠ Host.strategyId n

namespace Scene

theorem Foreign.isFresh {site site' : Site} {change : Option Change} (h : Foreign site change site')
    (fresh : site.IsFresh) : site'.IsFresh := by
  intro n hn t ht
  have before := fresh n (Nat.le_trans h.names hn)
  rw [h.store] at ht
  rcases change with _ | new | o | _ | _
  · exact before t ht
  · rcases Store.mem_place site.arena.store.distinct ht with rfl | ⟨ht, -⟩
    · obtain ⟨m, -, given, id⟩ := h.fresh t rfl
      have key : t.key = Host.strategyId m := by
        rw [Strategy.key, id]
        exact Json.key_text _
      rw [key]
      exact fun same => absurd (Host.strategyId_injective same) (by omega)
    · exact before t ht
  · obtain ⟨u, hu, rfl⟩ := List.mem_map.1 ht
    exact before u hu
  · obtain ⟨u, hu, rfl⟩ := List.mem_map.1 ht
    exact before u hu
  · cases ht

/-- What a failing save has done: nothing to the store before it has stored its strategy, which
others have changed alone; and nothing but that afterwards. -/
inductive IsHarmless (start : Site) : List Deed → Site → Bool → Prop where
  | unstored {changes : List Change} {site : Site} (fresh : start.IsFresh → site.IsFresh)
      (store : site.arena.store = start.arena.store.afterAll changes) :
      IsHarmless start (changes.map .foreign) site false
  | stored {new : Strategy} {earlier later : List Change} {site : Site}
      (score : new.score = .int 0) (named : site.host.HasNamed new.id)
      (others : start.IsFresh →
        site.arena.store.IsBut new.key (start.arena.store.afterAll (later ++ earlier)))
      (self : site.arena.store.get? new.id = Change.allLeave later new) :
      IsHarmless start (later.map .foreign ++ .own (.stored new) :: earlier.map .foreign) site true

theorem Foreign.isHarmless {start site site' : Site} {past : List Deed} {stored : Bool}
    {change : Option Change} (h : Foreign site change site')
    (harmless : IsHarmless start past site stored) :
    IsHarmless start (change.toList.map .foreign ++ past) site' stored := by
  cases harmless with
  | @unstored changes _ fresh changed =>
    rw [← List.map_append]
    refine .unstored (fun f => h.isFresh (fresh f)) ?_
    rw [h.store, changed, Store.afterAll_append]
  | @stored new earlier later _ score named others self =>
    -- what others add now comes under an identifier that is given after that of the strategy
    have apart : ∀ other, change = some (.added other) → other.key ≠ new.key := by
      intro other e
      obtain ⟨n, le, -, id⟩ := h.fresh other e
      obtain ⟨m, lt, id'⟩ := named
      rw [Strategy.key, Strategy.key, id, id']
      exact fun same => absurd (Host.strategyId_injective ((Json.key_text _).symm.trans
        (same.trans (Json.key_text _)))) (by omega)
    rw [← List.append_assoc, ← List.map_append]
    refine .stored score (named.mono h.names) (fun f => ?_) ?_
    · rw [h.store, List.append_assoc, Store.afterAll_append]
      cases change with
      | none => exact others f
      | some c => exact (others f).changed fun other e => apart other (congrArg some e)
    · rw [h.store]
      cases change with
      | none => exact self
      | some c =>
        rw [Change.allLeave, List.foldr_append, ← Change.allLeave, ← self]
        exact site.arena.store.get?_changed fun other e => apart other (congrArg some e)

theorem Tries.isHarmless {start site site' : Site} {past : List Deed} {s s' : Saver}
    {e : Option Event} (h : Tries site s e site' s')
    (harmless : IsHarmless start past site s.hasStored) :
    IsHarmless start (e.toList.map .own ++ past) site' s'.hasStored := by
  obtain ⟨rfl, same, spares⟩ | ⟨new, rfl, before, after, stores⟩ := h.cases
  · rw [same]
    exact spares.foreign.isHarmless harmless
  · rw [before] at harmless
    rw [after]
    cases harmless with
    | @unstored changes _ fresh changed =>
      have named : site'.host.HasNamed new.id :=
        ⟨_, Nat.lt_of_succ_le (Nat.le_of_eq stores.names.symm), stores.id⟩
      refine @IsHarmless.stored _ new changes [] _ stores.score named (fun f => ?_)
        (stores.store ▸ site.arena.store.get?_add_self new)
      have key : new.key = Host.strategyId site.host.strategiesNamed := by
        rw [Strategy.key, stores.id]
        exact Json.key_text _
      rw [stores.store, List.nil_append, ← changed]
      exact Store.isBut_add fun t ht => key ▸ fresh f _ (Nat.le_refl _) t ht

theorem Attempt.isHarmless {start site : Site} {past : List Deed} {s : Saver}
    (h : Attempt start past site s) : IsHarmless start past site s.hasStored := by
  induction h with
  | start => exact @IsHarmless.unstored start [] start (fun fresh => fresh) rfl
  | tries _ tries ih => exact tries.isHarmless ih
  | foreign _ foreign ih => exact foreign.isHarmless ih

/-! ## Whole calls -/

section

variable {kind : Site → Site → Prop} {observe : Observer} {start site site' : Site}
  {past : List Deed} {s : Saver}

/-- What others do in steps of an arena, they may do between the steps of a save. -/
theorem Leads.attempt {scene scene' : Scene} (h : Leads kind scene scene')
    (attempt : Attempt start past scene.site s) :
    ∃ past', Attempt start past' scene'.site s := by
  induction h with
  | refl => exact ⟨past, attempt⟩
  | tail _ turn ih =>
    obtain ⟨_, sofar⟩ := ih
    obtain ⟨_, step⟩ := turn.step
    obtain ⟨_, foreign⟩ := step.foreign
    exact ⟨_, sofar.foreign foreign⟩

theorem Attempt.still (h : Attempt start past site s) (still : Still site site') :
    Attempt start past site' s :=
  h.foreign still.spares.foreign

/-- How playing a pass ends: with a result, all fixtures played, or with a fault. -/
inductive Plays {α : Type} (start : Site) (total : Nat) (ends : Pass → α → Prop) (site : Site) :
    Except Fault α → Prop where
  | all {past : List Deed} {p : Pass} {a : α} : ends p a →
      Attempt start past site ⟨some ⟨false, .playing total [] p⟩, none⟩ →
      Plays start total ends site (.ok a)
  | partly {past : List Deed} {left : List Fixture} {p : Pass} {fault : Fault} :
      Attempt start past site ⟨some ⟨false, .playing total left p⟩, some fault⟩ →
      Plays start total ends site (.error fault)

theorem Attempt.playFixtures (along : observe.GoesAlong kind) {total : Nat}
    {fixtures : List Fixture} {p : Pass} {result : Except Fault Pass}
    (run : Site.playFixtures observe total fixtures p site = (result, site'))
    (h : Attempt start past site ⟨some ⟨false, .playing total fixtures p⟩, none⟩) :
    Plays start total Eq site' result := by
  -- the attempt goes on through each match, and then through all that its observer does
  induction fixtures generalizing p site past with
  | nil =>
    cases run
    exact .all rfl h
  | cons f rest ih =>
    rcases Work.bind_cases run with ⟨⟨q, r⟩, site1, played, run⟩ | ⟨fault, unplayed, rfl⟩
    · have before := h.tries (.goesOn (.play played) nofun)
      have observed := along ⟨q.records.length, total, r⟩ site1 []
      rcases Work.bind_cases run with ⟨_, site2, told, run⟩ | ⟨fault, gaveUp, rfl⟩
      · rw [told] at observed
        obtain ⟨_, after⟩ := observed.attempt before
        exact ih run after
      · rw [gaveUp] at observed
        obtain ⟨_, after⟩ := observed.attempt before
        exact .partly (after.tries (.raises (.abandoned fault)))
    · exact .partly (h.tries (.raises (.unplayed unplayed)))

theorem Attempt.playPass (along : observe.GoesAlong kind) {fixtures : List Fixture} {p : Pass}
    {result : Except Fault Outcome}
    (run : Site.playPass observe fixtures p site = (result, site'))
    (h : Attempt start past site ⟨some ⟨false, .playing fixtures.length fixtures p⟩, none⟩) :
    Plays start fixtures.length (fun q o => ∃ finishedAt, o = q.finish finishedAt) site'
      result := by
  rcases Work.bind_cases run with ⟨q, site1, played, run⟩ | ⟨fault, failed, rfl⟩
  · cases h.playFixtures along played with
    | all same after =>
      cases same
      cases run
      exact .all ⟨_, rfl⟩ (after.still (still_record site1 [⟨.info, q.summary⟩]))
  · cases h.playFixtures along failed with
    | partly after => exact .partly after

theorem Attempt.finishSave (along : observe.GoesAlong kind) {new : Strategy}
    {opponents : List Strategy} {name : Json} (named : new.id.asName = .ok name) {fault : Fault}
    (run : Site.finishSave observe ⟨new, opponents⟩ site = (.error fault, site'))
    (h : Attempt start past site ⟨some ⟨false, .playing (Schedule.challenge new opponents).length
      (Schedule.challenge new opponents) (.onSave site.host.universalNow new)⟩, none⟩) :
    ∃ past' saver, Attempt start past' site' saver ∧ saver.fault = some fault ∧
      saver.hasStored = true := by
  have names : Site.checkNames [new] = .ok () := Site.checkNames_fixed fun t ht => by
    rw [List.mem_singleton.1 ht]
    exact ⟨name, named⟩
  have pass {result : Except Fault Outcome} {site1 : Site}
      (run : Site.playOnSave observe new opponents site = (result, site1)) :
      Plays start (Schedule.challenge new opponents).length
        (fun q o => ∃ finishedAt, o = q.finish finishedAt) site1 result := by
    unfold Site.playOnSave at run
    rw [names, Work.lift_bind_ok] at run
    have logged := still_record site [⟨.info, "On-save tournament: " ++ new.name.plain ++
      s!" vs {(Schedule.challenge new opponents).length} opponents"⟩]
    exact (h.still logged).playPass along run
  rcases Work.bind_cases run with ⟨o, site1, played, run⟩ | ⟨_, failed, e⟩
  · cases pass played with
    | all finished after =>
      obtain ⟨finishedAt, rfl⟩ := finished
      rcases Work.bind_cases run with ⟨_, site2, taken, run⟩ | ⟨_, refused, e⟩
      · cases run
      · cases e
        exact ⟨_, _, after.tries (.raises (.refused finishedAt refused)), rfl, rfl⟩
  · cases e
    cases pass failed with
    | partly after => exact ⟨_, _, after, rfl, rfl⟩

/-- A save that fails although nobody but its observer comes in between is such an attempt. It has
stored its strategy if its first half went well. -/
theorem exists_attempt (along : observe.GoesAlong kind) {request : SaveRequest} {fault : Fault}
    (run : Site.save observe request site = (.error fault, site')) :
    ∃ past saver, Attempt site past site' saver ∧ saver.fault = some fault ∧
      saver.hasStored = (Site.beginSave (.text request.name) request.tree
        (.ofOption request.authorId) (.ofOption request.author) site).1.isOk := by
  rcases Work.bind_cases run with ⟨⟨new, opponents⟩, site1, begun, run⟩ | ⟨_, begun, e⟩
  · obtain ⟨name, author, named, shown, listed, added⟩ := Site.beginSave_ok begun
    have looked := Attempt.start.tries (.goesOn (.look named shown listed) nofun)
    have stored := looked.tries (.goesOn (.store site1.host.universalNow added) nofun)
    have given : new.id.asName = .ok new.id := by
      rw [(stores_of_added added).id]
      rfl
    rw [begun]
    exact stored.finishSave along given run
  · cases e
    rw [begun]
    -- whichever step of the first half raises the fault, the strategy has not been stored
    cases Site.beginSave_error begun with
    | unnamed unnamed => exact ⟨_, _, Attempt.start.tries (.raises (.unnamed unnamed)), rfl, rfl⟩
    | unshown named unshown =>
      exact ⟨_, _, Attempt.start.tries (.raises (.unshown named unshown)), rfl, rfl⟩
    | unlisted named shown unlisted =>
      exact ⟨_, _, Attempt.start.tries (.raises (.unlisted named shown unlisted)), rfl, rfl⟩
    | unstored named shown listed unstored =>
      have looked := Attempt.start.tries (.goesOn (.look named shown listed) nofun)
      exact ⟨_, _, looked.tries (.raises (.unstored unstored)), rfl, rfl⟩

end

/-! ## What is left -/

theorem allLeave_of_cleared {later : List Change} (h : .cleared ∈ later) (new : Strategy) :
    Change.allLeave later new = none := by
  induction later with
  | nil => cases h
  | cons change rest ih =>
    rw [Change.allLeave, List.foldr_cons, ← Change.allLeave]
    rcases List.mem_cons.1 h with rfl | later
    · exact Option.bind_fun_none _
    · rw [ih later]
      rfl

theorem allLeave_of_unscored {later : List Change} {new : Strategy} (score : new.score = .int 0)
    (kept : ∀ change ∈ later, change ≠ .cleared)
    (unscored : ∀ o, .took o ∈ later → o.deltas.points? new.id = none) :
    Change.allLeave later new = some new := by
  induction later with
  | nil => rfl
  | cons change rest ih =>
    rw [Change.allLeave, List.foldr_cons, ← Change.allLeave,
      ih (fun c hc => kept c (List.mem_cons_of_mem _ hc))
        (fun o ho => unscored o (List.mem_cons_of_mem _ ho)), Option.bind_some]
    cases change with
    | added => rfl
    | took o =>
      rw [Change.leaves, Store.scoreWith, unscored o List.mem_cons_self]
      rfl
    | reset =>
      rw [Change.leaves, ← score]
      rfl
    | cleared => exact absurd rfl (kept _ List.mem_cons_self)

theorem save_of_blank (observe : Observer) {request : SaveRequest}
    (blank : request.name.trimmed = []) (site : Site) :
    Site.save observe request site = (.error .blankName, site) :=
  Site.saveStrategy_of_blank blank observe request.tree _ _ site

/-- A save that fails harms nobody. Each of its steps leaves the store as it is, and the disk but
for new folders, except the one that adds the new strategy with score 0. Whatever others do between
the steps, and after the last: before the save has stored its strategy, the store is what the others
have made of it. Afterwards it is that, records and all, but for the new strategy, of which there is
what the others' changes have left since it was stored: nothing after a clear, and the strategy with
score 0 if no outcome gave it points. All that other callers of an arena do is such changes, and a
whole call that fails is such a save, which has stored its strategy if its first half went well.
With a blank name nothing happens at all. -/
theorem failed_save_harms_nobody :
    (∀ site saver e site' saver', Tries site saver e site' saver' →
      (e = none ∧ Spares site site') ∨
        ∃ new, e = some (.stored new) ∧ Stores site new site') ∧
    (∀ start past site saver, Attempt start past site saver → saver.hasStored = false →
      ∃ changes, past = changes.map .foreign ∧
        site.arena.store = start.arena.store.afterAll changes) ∧
    (∀ start past site saver, start.IsFresh → Attempt start past site saver →
      saver.hasStored = true → ∃ new earlier later,
        past = later.map .foreign ++ .own (.stored new) :: earlier.map .foreign ∧
        new.score = .int 0 ∧
        site.arena.store.IsBut new.key (start.arena.store.afterAll (later ++ earlier)) ∧
        site.arena.store.get? new.id = Change.allLeave later new ∧
        (.cleared ∈ later → site.arena.store.get? new.id = none) ∧
        ((∀ change ∈ later, change ≠ .cleared) →
          (∀ o, .took o ∈ later → o.deltas.points? new.id = none) →
            site.arena.store.get? new.id = some new)) ∧
    (∀ scene e scene', Step scene e scene' →
      ∃ change, Foreign scene.site change scene'.site) ∧
    (∀ observe request site fault site', Observer.GoesAlong Any observe →
      Site.save observe request site = (.error fault, site') →
        ∃ past saver, Attempt site past site' saver ∧ saver.fault = some fault ∧
          saver.hasStored = (Site.beginSave (.text request.name) request.tree
            (.ofOption request.authorId) (.ofOption request.author) site).1.isOk) ∧
    ∀ observe request site, request.name.trimmed = [] →
      Site.save observe request site = (.error .blankName, site) := by
  refine ⟨fun site saver e site' saver' tries => ?_, fun start past site saver attempt before => ?_,
    fun start past site saver fresh attempt after => ?_, fun scene e scene' => Step.foreign,
    fun observe request site fault site' along => exists_attempt along,
    fun observe request site blank => save_of_blank observe blank site⟩
  · obtain ⟨e, -, spares⟩ | ⟨new, e, -, -, stores⟩ := tries.cases
    · exact .inl ⟨e, spares⟩
    · exact .inr ⟨new, e, stores⟩
  · have harmless := attempt.isHarmless
    rw [before] at harmless
    cases harmless with
    | unstored _ store => exact ⟨_, rfl, store⟩
  · have harmless := attempt.isHarmless
    rw [after] at harmless
    cases harmless with
    | @stored new earlier later _ score _ others self =>
      exact ⟨new, earlier, later, rfl, score, others fresh, self,
        fun cleared => self.trans (allLeave_of_cleared cleared new),
        fun kept unscored => self.trans (allLeave_of_unscored score kept unscored)⟩

/-- A save whose strategy is removed before its outcome is taken over, and one of a blank name. -/
theorem failed_save_harms_nobody_cleared :
    (∃ past site saver fault, Attempt .started past site saver ∧ saver.fault = some fault ∧
      ∃ new earlier later,
        past = later.map .foreign ++ .own (.stored new) :: earlier.map .foreign ∧
        site.arena.store.IsBut new.key (Store.empty.afterAll (later ++ earlier)) ∧
        site.arena.store.get? new.id = none) ∧
    ∃ past saver, Attempt .started past .started saver ∧ saver.fault = some .blankName ∧
      ∃ changes, past = changes.map .foreign ∧
        Site.started.arena.store = Site.started.arena.store.afterAll changes := by
  obtain ⟨own, unstored, stored, others, calls, blank⟩ := failed_save_harms_nobody
  constructor
  · obtain ⟨shown, display⟩ := displayName_text none none
    have required : requiredName (.text "Mirror") = .ok (Text.trimmed "Mirror") :=
      requiredName_text (by decide)
    have field : Site.started.IsField [] := Site.isField_empty rfl
    obtain ⟨opponents, listed, nobody⟩ := field.ranked
    obtain rfl : opponents = [] := nobody.eq_nil
    have looked : Tries .started ⟨none, none⟩ none .started ⟨some ⟨false,
        .looked Builtin.titForTat.tree none (Text.trimmed "Mirror") shown []⟩, none⟩ :=
      .goesOn (@Act.look _ _ ⟨"Mirror", Builtin.titForTat.tree, none, none⟩ _ _ _ required display
        listed) nofun
    obtain ⟨new, site, added⟩ : ∃ new site, Site.addStrategy (.text (Text.trimmed "Mirror"))
      Builtin.titForTat.tree (.ofOption none) (.text shown) Site.started = (.ok new, site) :=
        ⟨_, _, rfl⟩
    have put : Tries .started _ (some (.stored new)) site ⟨some ⟨false, .playing 0 []
        (.onSave .start2024 new)⟩, none⟩ := .goesOn (@Act.store _ _ _ _ _ _ [] _ _ added) nofun
    have cleared : Foreign site (some .cleared) (site.after site.host .empty) :=
      ⟨rfl, Nat.le_refl _, nofun⟩
    have unknown : Store.empty.unknown ((Pass.onSave .start2024 new).finish .start2024) ≠ [] :=
      nofun
    have refused := @Site.applyOutcome_error (site.after site.host .empty) _ _ (if_neg unknown)
    have attempt := (((Attempt.start.tries looked).tries put).foreign cleared).tries
      (.raises (.refused _ refused))
    obtain ⟨new', earlier, later, split, -, but, -, gone, -⟩ :=
      stored _ _ _ _ (fun _ _ _ h => by cases h) attempt rfl
    have there : .cleared ∈ later := by
      cases later with
      | nil => cases split
      | cons change rest =>
        cases (List.cons.inj split).1
        exact List.mem_cons_self
    exact ⟨_, _, _, _, attempt, rfl, new', earlier, later, split, but, gone there⟩
  · have silent : Observer.silent.GoesAlong Any :=
      Observer.silent_isQuiet.goesAlong hasStill_any
    obtain ⟨past, saver, attempt, fault, before⟩ := calls .silent
      ⟨[], Builtin.titForTat.tree, none, none⟩ .started _ _ silent (blank _ _ _ rfl)
    exact ⟨past, saver, attempt, fault, unstored _ _ _ _ attempt before⟩

end Scene
end IteratedDilemma
