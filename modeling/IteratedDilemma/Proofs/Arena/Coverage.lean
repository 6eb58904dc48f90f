import IteratedDilemma.Proofs.Arena.Gate

/-! Who has met whom after any number of saves, grand tournaments and resets in an arena that was
empty. A save adds one meeting of the newcomer with everybody who was there, on its own first side,
and a grand tournament one more of each pair (`Deed.IsFit`). What follows for the log is a matter of
lists (`Deed.AreFit.first_meeting`). Main statement: the log holds these meetings and nothing else
(`Site.log_covers_pairs`). -/
namespace IteratedDilemma
set_option autoImplicit false

/-! ## Pairs -/

/-- A pair is made of two things, in whichever order. -/
def Joins {α : Type} (pair : α × α) (a b : α) : Prop := pair = (a, b) ∨ pair = (b, a)

instance {α : Type} [DecidableEq α] (pair : α × α) (a b : α) : Decidable (Joins pair a b) :=
  inferInstanceAs (Decidable (_ ∨ _))

theorem joins_comm {α : Type} (pair : α × α) (a b : α) : Joins pair a b ↔ Joins pair b a := or_comm

namespace Schedule

variable {α : Type} [DecidableEq α] {l : List α} {a b x : α}

theorem countP_meets (distinct : l.Nodup) (ha : a ∈ l) (apart : x ≠ a) :
    (l.map fun y => (x, y)).countP (fun pair => decide (Joins pair x a)) = 1 := by
  rw [List.countP_map, ← List.count_eq_one_of_mem distinct ha, List.count]
  refine List.countP_congr fun y _ => ?_
  rw [Function.comp_apply, decide_eq_true_iff, beq_iff_eq]
  constructor
  · rintro (e | e)
    · exact (Prod.mk.inj e).2
    · exact absurd (Prod.mk.inj e).1 apart
  · exact fun e => .inl (e ▸ rfl)

theorem countP_misses (left : x ≠ a) (right : x ≠ b) :
    (l.map fun y => (x, y)).countP (fun pair => decide (Joins pair a b)) = 0 := by
  refine List.countP_eq_zero.2 fun pair hpair joins => ?_
  obtain ⟨y, -, rfl⟩ := List.mem_map.1 hpair
  rcases of_decide_eq_true joins with e | e
  · exact left (Prod.mk.inj e).1
  · exact right (Prod.mk.inj e).1

theorem countP_pairs (distinct : l.Nodup) (ha : a ∈ l) (hb : b ∈ l) (apart : a ≠ b) :
    (pairs l).countP (fun pair => decide (Joins pair a b)) = 1 := by
  have absent {x y z : α} {rest : List α} (hx : x ∉ rest) (e : y = x ∨ z = x) :
      (pairs rest).countP (fun pair => decide (Joins pair y z)) = 0 := by
    refine List.countP_eq_zero.2 fun pair hpair joins => ?_
    obtain ⟨first, second⟩ := pairs_mem hpair
    rcases of_decide_eq_true joins with rfl | rfl <;> rcases e with rfl | rfl
    · exact hx first
    · exact hx second
    · exact hx second
    · exact hx first
  induction l with
  | nil => cases ha
  | cons x rest ih =>
    obtain ⟨hx, others⟩ := List.nodup_cons.1 distinct
    rw [pairs, List.countP_append]
    rcases List.mem_cons.1 ha with rfl | left
    · have right := (List.mem_cons.1 hb).resolve_left apart.symm
      rw [countP_meets others right apart, absent hx (.inl rfl)]
    rcases List.mem_cons.1 hb with rfl | right
    · have swapped : (fun pair => decide (Joins pair a b)) = fun pair => decide (Joins pair b a) :=
        funext fun pair => decide_eq_decide.2 (joins_comm pair a b)
      rw [swapped, countP_meets others left apart.symm, absent hx (.inl rfl)]
    · have beside {y : α} (hy : y ∈ rest) : x ≠ y := fun e => hx (e ▸ hy)
      rw [countP_misses (beside left) (beside right), ih others left right, Nat.zero_add]

end Schedule

/-! ## Deeds -/

/-- What a call has done to the log. -/
inductive Deed where
  | saved (new : Json) (records : List MatchRecord)
  | grand (records : List MatchRecord)
  | skipped
  | reset

def MatchRecord.sides (r : MatchRecord) : Json × Json := (r.first.id, r.second.id)

/-- A record is one of a match between two identifiers, on whichever sides. -/
def MatchRecord.IsBetween (r : MatchRecord) (a b : Json) : Prop := Joins r.sides a b

instance (r : MatchRecord) (a b : Json) : Decidable (r.IsBetween a b) :=
  inferInstanceAs (Decidable (Joins _ _ _))

/-- The records of matches between two identifiers. -/
def meetings (a b : Json) (records : List MatchRecord) : List MatchRecord :=
  records.filter fun r => r.IsBetween a b

theorem meetings_append (a b : Json) (records others : List MatchRecord) :
    meetings a b (records ++ others) = meetings a b records ++ meetings a b others :=
  List.filter_append _ _

theorem length_meetings (a b : Json) (records : List MatchRecord) :
    (meetings a b records).length =
      (records.map MatchRecord.sides).countP fun pair => decide (Joins pair a b) := by
  rw [List.countP_map, meetings, ← List.countP_eq_length_filter]
  rfl

theorem meetings_comm (a b : Json) (records : List MatchRecord) :
    meetings a b records = meetings b a records :=
  List.filter_congr fun r _ => decide_eq_decide.2 (joins_comm r.sides a b)

namespace Deed

def records : Deed → List MatchRecord
  | saved _ records | grand records => records
  | skipped | reset => []

def isGrand : Deed → Bool
  | grand _ => true
  | _ => false

/-! Deeds are listed with the newest first; their records, and the identifiers that they saved, in
the order in which they came. -/

def log : List Deed → List MatchRecord
  | [] => []
  | d :: past => log past ++ d.records

def stored : List Deed → List Json
  | [] => []
  | saved new _ :: past => stored past ++ [new]
  | _ :: past => stored past

/-- How many of some deeds are grand tournaments that were played. -/
def grands (past : List Deed) : Nat := past.countP isGrand

/-- The matches of a deed are those that it has to hold among what is stored: a newcomer meets
everybody on its own first side, and in a grand tournament all meet each other. -/
def IsFit (ids : List Json) : Deed → Prop
  | saved new records =>
    new ∉ ids ∧ (records.map MatchRecord.sides).Perm (ids.map fun id => (new, id))
  | grand records => ∃ l, l.Perm ids ∧ records.map MatchRecord.sides = Schedule.pairs l
  | skipped | reset => True

/-- Each deed is fit for what was stored before it. -/
def AreFit : List Deed → Prop
  | [] => True
  | d :: past => d.IsFit (stored past) ∧ AreFit past

theorem log_append (later past : List Deed) : log (later ++ past) = log past ++ log later := by
  induction later with
  | nil => exact (List.append_nil _).symm
  | cons d later ih => rw [List.cons_append, log, ih, log, List.append_assoc]

variable {ids : List Json} {past : List Deed} {a b : Json}

theorem mem_stored_cons (d : Deed) {id : Json} (h : id ∈ stored past) :
    id ∈ stored (d :: past) := by
  cases d with
  | saved new _ => exact List.mem_append_left _ h
  | grand | skipped | reset => exact h

theorem AreFit.nodup (fit : AreFit past) : (stored past).Nodup := by
  induction past with
  | nil => exact .nil
  | cons d past ih =>
    obtain ⟨one, fit⟩ := fit
    cases d with
    | saved new _ =>
      exact (List.perm_append_singleton new _).nodup_iff.2 (List.nodup_cons.2 ⟨one.1, ih fit⟩)
    | grand | skipped | reset => exact ih fit

theorem AreFit.among (fit : AreFit past) {r : MatchRecord} (hr : r ∈ log past) :
    r.first.id ∈ stored past ∧ r.second.id ∈ stored past ∧ r.first.id ≠ r.second.id := by
  induction past with
  | nil => cases hr
  | cons d past ih =>
    obtain ⟨one, rest⟩ := fit
    rcases List.mem_append.1 hr with hr | hr
    · obtain ⟨first, second, apart⟩ := ih rest hr
      exact ⟨mem_stored_cons d first, mem_stored_cons d second, apart⟩
    have sides : r.sides ∈ d.records.map MatchRecord.sides := List.mem_map_of_mem hr
    cases d with
    | saved new records =>
      obtain ⟨id, hid, e⟩ := List.mem_map.1 (one.2.mem_iff.1 sides)
      obtain ⟨first, second⟩ := Prod.mk.inj e
      rw [← first, ← second]
      exact ⟨List.mem_append_right _ (List.mem_singleton_self _), List.mem_append_left _ hid,
        fun same => one.1 (same ▸ hid)⟩
    | grand records =>
      obtain ⟨l, perm, e⟩ := one
      have pair : r.sides ∈ Schedule.pairs l := e ▸ sides
      have distinct : (l.map id).Nodup := by
        rw [List.map_id]
        exact perm.nodup_iff.2 rest.nodup
      obtain ⟨first, second⟩ := Schedule.pairs_mem pair
      exact ⟨perm.mem_iff.1 first, perm.mem_iff.1 second, Schedule.pairs_apart distinct pair⟩
    | skipped | reset => cases hr

theorem AreFit.of_append {later past : List Deed} (fit : AreFit (later ++ past)) :
    AreFit past := by
  induction later with
  | nil => exact fit
  | cons d later ih => exact ih fit.2

/-- Two that are stored meet once in a grand tournament, and in no other deed. -/
theorem IsFit.length_meetings {d : Deed} (fit : d.IsFit ids) (distinct : ids.Nodup) (ha : a ∈ ids)
    (hb : b ∈ ids) (apart : a ≠ b) :
    (meetings a b d.records).length = if d.isGrand then 1 else 0 := by
  rw [IteratedDilemma.length_meetings]
  cases d with
  | saved new records =>
    obtain ⟨absent, sides⟩ := fit
    change (records.map MatchRecord.sides).countP _ = 0
    rw [sides.countP_eq]
    exact Schedule.countP_misses (fun e => absent (e ▸ ha)) (fun e => absent (e ▸ hb))
  | grand records =>
    obtain ⟨l, perm, sides⟩ := fit
    change (records.map MatchRecord.sides).countP _ = 1
    rw [sides]
    exact Schedule.countP_pairs (perm.nodup_iff.2 distinct) (perm.mem_iff.2 ha)
      (perm.mem_iff.2 hb) apart
  | skipped | reset => rfl

theorem mem_stored_append (later : List Deed) {id : Json} (h : id ∈ stored past) :
    id ∈ stored (later ++ past) := by
  induction later with
  | nil => exact h
  | cons d later ih => exact mem_stored_cons d ih

theorem AreFit.length_meetings {later : List Deed} (fit : AreFit (later ++ past))
    (ha : a ∈ stored past) (hb : b ∈ stored past) (apart : a ≠ b) :
    (meetings a b (log later)).length = grands later := by
  induction later with
  | nil => rfl
  | cons d later ih =>
    obtain ⟨one, fit⟩ := fit
    rw [log, meetings_append, List.length_append, ih fit,
      one.length_meetings fit.nodup (mem_stored_append later ha) (mem_stored_append later hb) apart,
      grands, grands, List.countP_cons]

/-- A newcomer meets everybody who is stored once in its own save, on the first side. -/
theorem IsFit.meets_newcomer {records : List MatchRecord} {newer older : Json}
    (fit : (saved newer records).IsFit ids) (distinct : ids.Nodup) (there : older ∈ ids) :
    ∃ r, meetings older newer records = [r] ∧ r ∈ records ∧ r.sides = (newer, older) := by
  obtain ⟨absent, sides⟩ := fit
  have apart : newer ≠ older := fun e => absent (e ▸ there)
  have one : (meetings older newer records).length = 1 := by
    rw [meetings_comm, IteratedDilemma.length_meetings, sides.countP_eq]
    exact Schedule.countP_meets distinct there apart
  obtain ⟨r, only⟩ := List.length_eq_one_iff.1 one
  have held : r ∈ meetings older newer records := only ▸ List.mem_singleton_self r
  obtain ⟨fromSave, between⟩ := List.mem_filter.1 held
  obtain ⟨id, -, newcomer⟩ := List.mem_map.1 (sides.mem_iff.1 (List.mem_map_of_mem fromSave))
  refine ⟨r, only, fromSave, (of_decide_eq_true between).resolve_left fun e => apart ?_⟩
  exact (Prod.mk.inj (newcomer.trans e)).1

theorem AreFit.meetings_eq_nil (fit : AreFit past) (absent : b ∉ stored past) :
    meetings a b (log past) = [] := by
  refine List.filter_eq_nil_iff.2 fun r hr between => ?_
  obtain ⟨first, second, -⟩ := fit.among hr
  rcases of_decide_eq_true between with e | e
  · exact absent ((Prod.mk.inj e).2 ▸ second)
  · exact absent ((Prod.mk.inj e).1 ▸ first)

theorem exists_saved {older newer : Json} (order : [older, newer].Sublist (stored past)) :
    ∃ later records earlier, past = later ++ saved newer records :: earlier ∧
      older ∈ stored earlier := by
  induction past with
  | nil => cases order
  | cons d past ih =>
    have before (order : [older, newer].Sublist (stored past)) :
        ∃ later records earlier, d :: past = later ++ saved newer records :: earlier ∧
          older ∈ stored earlier := by
      obtain ⟨later, records, earlier, e, there⟩ := ih order
      exact ⟨d :: later, records, earlier, congrArg _ e, there⟩
    cases d with
    | saved new records =>
      obtain ⟨front, back, e, inFront, inBack⟩ := List.sublist_append_iff.1 order
      rcases List.sublist_singleton.1 inBack with rfl | rfl
      · rw [List.append_nil] at e
        exact before (e ▸ inFront)
      · obtain ⟨rfl, e⟩ := List.append_inj' (show [older] ++ [newer] = front ++ [new] from e) rfl
        cases e
        exact ⟨[], records, past, rfl, List.singleton_sublist.1 inFront⟩
    | grand | skipped | reset => exact before order

/-- Whoever was stored before another has first met it when the other was saved, on the second
side, and after that once in each grand tournament. -/
theorem AreFit.first_meeting (fit : AreFit past) {older newer : Json}
    (order : [older, newer].Sublist (stored past)) :
    ∃ later records earlier first rest, past = later ++ saved newer records :: earlier ∧
      older ∈ stored earlier ∧ meetings older newer (log past) = first :: rest ∧
      first ∈ records ∧ first.sides = (newer, older) ∧ rest.length = grands later := by
  obtain ⟨later, records, earlier, rfl, there⟩ := exists_saved order
  obtain ⟨save, before⟩ := fit.of_append
  obtain ⟨first, only, fromSave, sides⟩ := save.meets_newcomer before.nodup there
  have apart : older ≠ newer := fun e => save.1 (e ▸ there)
  refine ⟨later, records, earlier, first, meetings older newer (log later), rfl, there, ?_,
    fromSave, sides, ?_⟩
  · rw [log_append, log, meetings_append, meetings_append, before.meetings_eq_nil save.1]
    exact congrArg (· ++ meetings older newer (log later)) only
  · exact fit.length_meetings (mem_stored_cons _ there)
      (List.mem_append_right _ (List.mem_singleton_self _)) apart

theorem AreFit.length_log (fit : AreFit past) (none : grands past = 0) :
    ((log past).length : Int) = Schedule.totalMatches (stored past).length := by
  induction past with
  | nil => rfl
  | cons d past ih =>
    obtain ⟨one, fit⟩ := fit
    rw [grands, List.countP_cons, Nat.add_eq_zero_iff] at none
    have before := ih fit none.1
    cases d with
    | saved new records =>
      have count : records.length = (stored past).length := by
        rw [← List.length_map (f := MatchRecord.sides), one.2.length_eq, List.length_map]
      have more := Schedule.length_pairs (new :: stored past)
      rw [Schedule.pairs, List.length_append, List.length_map, Nat.cast_add,
        Schedule.length_pairs] at more
      change ((log past ++ records).length : Int) =
        Schedule.totalMatches (stored past ++ [new]).length
      rw [List.length_append, Nat.cast_add, before, count, List.length_append]
      exact (Int.add_comm _ _).trans more
    | grand records => cases none.2
    | skipped | reset =>
      change ((log past ++ []).length : Int) = _
      rw [List.append_nil]
      exact before

end Deed

/-! ## Calls -/

namespace Site

def ids (site : Site) : List Json := site.arena.store.strategies.map Strategy.id

/-- Everything that is stored has got its identifier from the host. -/
def AllNamed (site : Site) : Prop := ∀ id ∈ site.ids, site.host.HasNamed id

/-- A save has stored one strategy under the next identifier and has taken over its matches with all
that were there. -/
structure HasSaved (site : Site) (saved : Strategy) (o : Outcome) (site' : Site) : Prop where
  next : saved.id = Host.strategyId site.host.strategiesNamed
  ids : site'.ids = site.ids ++ [saved.id]
  log : site'.arena.store.records = site.arena.store.records ++ o.records
  sides : (o.records.map MatchRecord.sides).Perm (site.ids.map fun id => (saved.id, id))
  named : site.host.strategiesNamed < site'.host.strategiesNamed

variable {observe : Observer} {site site' : Site}

theorem sides_of {α : Type} {f : α → Strategy × Strategy} {rounds : Nat} {l : List α}
    {records : List MatchRecord}
    (h : List.Forall₂ (fun x r => r.IsOf rounds (f x).1 (f x).2) l records) :
    records.map MatchRecord.sides = l.map fun x => ((f x).1.id, (f x).2.id) := by
  have equal : List.Forall₂ Eq (l.map fun x => ((f x).1.id, (f x).2.id))
      (records.map MatchRecord.sides) := by
    refine List.forall₂_map_left_iff.2 (List.forall₂_map_right_iff.2 (h.imp fun x r isOf => ?_))
    obtain ⟨_, _, _, rfl⟩ := isOf
    rfl
  rw [List.forall₂_eq_eq_eq] at equal
  exact equal.symm

theorem ids_of_apply {s s' : Store} {o : Outcome} (h : s.apply o = .ok s') :
    s'.strategies.map Strategy.id = s.strategies.map Strategy.id ∧
      s'.records = s.records ++ o.records := by
  obtain ⟨-, score, rfl⟩ := Store.apply_ok h
  refine ⟨?_, rfl⟩
  change (s.strategies.map _).map _ = _
  rw [List.map_map]
  rfl

theorem id_of_get? {s : Store} {ids : List Json} {new : Strategy}
    (listed : s.strategies.map Strategy.id = ids ++ [new.id])
    (apart : ∀ t ∈ s.strategies, t.id ∈ ids → t.key ≠ new.key) :
    ((s.get? new.id).getD new).id = new.id := by
  rcases found : s.get? new.id with _ | t
  · rfl
  · obtain ⟨there, key⟩ := Store.mem_of_get? found
    have one : t.id ∈ ids ++ [new.id] := listed ▸ List.mem_map_of_mem there
    rcases List.mem_append.1 one with old | new
    · exact absurd key (apart t there old)
    · exact List.mem_singleton.1 new

/-- A save that went through: its strategy was stored, has played against those who were there, and
the outcome was taken over. -/
structure SaveGoes (observe : Observer) (site : Site) (new : Strategy) (opponents : List Strategy)
    (saved : Strategy) (o : Outcome) (site' : Site) : Prop where
  ranked : site.arena.store.ranked = .ok opponents
  played : ∃ host middle,
    playOnSave observe new opponents (site.after host (site.arena.store.add new)) = (.ok o, middle)
  applied : (site.arena.store.add new).apply o = .ok site'.arena.store
  saved : saved = (site'.arena.store.get? new.id).getD new
  named : site.host.strategiesNamed < site'.host.strategiesNamed

theorem saveStrategy_goes (aside : observe.StandsAside) {name authorId author : Json}
    {tree : LogicTree} {saved : Strategy} {o : Outcome}
    (h : saveStrategy observe name tree authorId author site = (.ok (saved, o), site')) :
    ∃ given shown opponents, requiredName name = .ok given ∧
      displayName author authorId = .ok shown ∧
      SaveGoes observe site (site.newcomer (.text given) tree authorId (.text shown)) opponents
        saved o site' := by
  obtain ⟨⟨new, opponents⟩, _, begun, h⟩ := Work.bind_eq_ok h
  obtain ⟨given, shown, required, display, ranked, added⟩ := beginSave_ok begun
  have settles := (site.addStrategy_settles _ _ _ _).of_eq added
  obtain ⟨host, names, -, e⟩ | ⟨_, _, -, -, -, e⟩ := settles
  case inr => cases e
  obtain ⟨stored, rfl⟩ := Prod.mk.inj e
  have isNew := Except.ok.inj stored
  rw [← isNew] at h
  obtain ⟨_, middle, played, h⟩ := Work.bind_eq_ok h
  obtain ⟨_, last, taken, h⟩ := Work.bind_eq_ok h
  rw [Work.bind_of_ok (Work.get_apply last)] at h
  have kept := playOnSave_aside aside new opponents (site.after host (site.arena.store.add new))
  rw [played] at kept
  have applied := Scene.apply_of_applyOutcome taken
  rw [kept.store] at applied
  have count : site.host.strategiesNamed < host.strategiesNamed := by
    rw [names.strategies]
    exact Nat.lt_succ_self _
  have steady := Scene.applyOutcome_steady taken
  cases h
  refine ⟨given, shown, opponents, required, display, ?_⟩
  rw [← isNew]
  exact ⟨(ranked_eq ranked).1.symm, ⟨host, middle, played⟩, applied, rfl,
    Nat.lt_of_lt_of_le count (Nat.le_trans kept.strategies steady.strategies)⟩

theorem saveStrategy_ok (aside : observe.StandsAside) {name authorId author : Json}
    {tree : LogicTree} {saved : Strategy} {o : Outcome} (named : site.AllNamed)
    (h : saveStrategy observe name tree authorId author site = (.ok (saved, o), site')) :
    site.HasSaved saved o site' := by
  obtain ⟨given, shown, opponents, -, -, goes⟩ := saveStrategy_goes aside h
  obtain ⟨new, hnew⟩ : ∃ new, new = site.newcomer (.text given) tree authorId (.text shown) :=
    ⟨_, rfl⟩
  rw [← hnew] at goes
  have next : new.id = Host.strategyId site.host.strategiesNamed := by rw [hnew]; rfl
  have perm := Store.perm_of_ranked goes.ranked
  have apart : ∀ s ∈ site.arena.store.strategies, s.key ≠ new.key :=
    fun s hs => (named _ (List.mem_map_of_mem hs)).key_ne_next next
  have distinct := Distinct.perm site.arena.store.distinct perm.symm
  obtain ⟨host, middle, played⟩ := goes.played
  have sides := sides_of (f := fun s => (new, s)) (playOnSave_ok aside distinct played)
  have all : (opponents.filter fun s => s.key ≠ new.key) = opponents :=
    List.filter_eq_self.2 fun s hs => decide_eq_true (apart s (perm.mem_iff.1 hs))
  rw [all] at sides
  obtain ⟨ids, log⟩ := ids_of_apply goes.applied
  have added : (site.arena.store.add new).strategies = site.arena.store.strategies ++ [new] :=
    Store.place_of_absent apart
  rw [added, List.map_append] at ids
  have found := id_of_get? ids fun t _ old => (named _ old).key_ne_next next
  rw [← goes.saved] at found
  refine ⟨found.trans next, ?_, log, ?_, goes.named⟩
  · rw [found]
    exact ids
  · rw [found, sides, Site.ids, List.map_map]
    exact perm.map _

theorem resetScores_ok {result : Except Fault Bool} (h : resetScores site = (result, site')) :
    site'.ids = site.ids ∧ site'.arena.store.records = site.arena.store.records ∧
      Steady site site' := by
  unfold resetScores gated at h
  split at h
  · cases h
    exact ⟨rfl, rfl, steady_of_aside (Scene.still_record site _).toAside⟩
  rcases run : resetStore (site.withGate true) with ⟨result', last⟩
  have settles := (resetStore_settles (site.withGate true)).of_eq run
  have steady : Steady (site.withGate true) last := settles.steady (Nat.le_refl _) rfl
  have steady' : Steady site (last.withGate false) :=
    ⟨steady.file, steady.settings, steady.rounds, steady.strategies, steady.records⟩
  cases result' with
  | error fault =>
    have same := settles.store_of_error
    rw [Work.bind_of_error run] at h
    cases h
    exact ⟨congrArg (fun s : Store => s.strategies.map Strategy.id) same,
      congrArg Store.records same, steady'⟩
  | ok =>
    have zeroed := settles.store_of_ok.2
    rw [Work.bind_of_ok run] at h
    cases h
    refine ⟨?_, ?_, steady'⟩
    · change last.arena.store.strategies.map Strategy.id = _
      rw [zeroed, Store.reset, Store.rescore, List.map_map]
      rfl
    · change last.arena.store.records = _
      rw [zeroed]
      rfl

/-! ## Stories -/

/-- A site after some calls, each of which has ended before the next began and has succeeded. No
observer uses the arena, and only things aside happen between the calls. -/
inductive Story (start : Site) : List Deed → Site → Prop where
  | start : Story start [] start
  | saved {past : List Deed} {site site' : Site} {observe : Observer}
      {name authorId author : Json} {tree : LogicTree} {saved : Strategy} {o : Outcome} :
      Story start past site → observe.StandsAside →
      saveStrategy observe name tree authorId author site = (.ok (saved, o), site') →
      Story start (.saved saved.id o.records :: past) site'
  | grand {past : List Deed} {site site' : Site} {observe : Observer} {o : Outcome} :
      Story start past site → observe.StandsAside →
      runGrand observe site = (.ok (some o), site') → Story start (.grand o.records :: past) site'
  | skipped {past : List Deed} {site site' : Site} {observe : Observer} :
      Story start past site → observe.StandsAside →
      runGrand observe site = (.ok none, site') → Story start (.skipped :: past) site'
  | reset {past : List Deed} {site site' : Site} {done : Bool} :
      Story start past site → resetScores site = (.ok done, site') →
      Story start (.reset :: past) site'
  | aside {past : List Deed} {site site' : Site} :
      Story start past site → Scene.Aside site site' → Story start past site'

/-- A site whose log and strategies are those of some deeds. -/
structure IsTold (site : Site) (past : List Deed) : Prop where
  fit : Deed.AreFit past
  ids : site.ids = Deed.stored past
  log : site.arena.store.records = Deed.log past
  named : site.AllNamed

theorem IsTold.of_same {past : List Deed} (told : site.IsTold past) (ids : site'.ids = site.ids)
    (log : site'.arena.store.records = site.arena.store.records)
    (named : site.host.strategiesNamed ≤ site'.host.strategiesNamed) : site'.IsTold past where
  fit := told.fit
  ids := ids.trans told.ids
  log := log.trans told.log
  named id hid := (told.named id (ids ▸ hid)).mono named

theorem IsTold.of_store {past : List Deed} (told : site.IsTold past)
    (store : site'.arena.store = site.arena.store)
    (named : site.host.strategiesNamed ≤ site'.host.strategiesNamed) : site'.IsTold past :=
  told.of_same (congrArg (fun s : Store => s.strategies.map Strategy.id) store)
    (congrArg Store.records store) named

/-- A call that leaves strategies and records alone has no matches to tell of. -/
theorem IsTold.idle {past : List Deed} (told : site.IsTold past) {d : Deed}
    (idle : d = .skipped ∨ d = .reset) : site.IsTold (d :: past) := by
  rcases idle with rfl | rfl <;>
    exact ⟨⟨trivial, told.fit⟩, told.ids, told.log.trans (List.append_nil _).symm, told.named⟩

theorem HasSaved.isTold {past : List Deed} {saved : Strategy} {o : Outcome}
    (h : site.HasSaved saved o site') (told : site.IsTold past) :
    site'.IsTold (.saved saved.id o.records :: past) where
  fit := by
    refine ⟨⟨fun there => ?_, told.ids ▸ h.sides⟩, told.fit⟩
    have named := told.named _ (told.ids ▸ there)
    rw [h.next] at named
    exact site.host.not_hasNamed_next named
  ids := by rw [h.ids, told.ids]; rfl
  log := by rw [h.log, told.log]; rfl
  named id hid := by
    rw [h.ids] at hid
    rcases List.mem_append.1 hid with hid | hid
    · exact (told.named id hid).mono (Nat.le_of_lt h.named)
    · rw [List.mem_singleton.1 hid, h.next]
      exact ⟨_, h.named, rfl⟩

theorem TakesGrand.isTold {past : List Deed} {o : Outcome}
    (h : site.TakesGrand o site'.arena.store) (told : site.IsTold past)
    (named : site.host.strategiesNamed ≤ site'.host.strategiesNamed) :
    site'.IsTold (.grand o.records :: past) := by
  obtain ⟨strategies, listed, whole, takes⟩ := h
  obtain ⟨ids, log⟩ := ids_of_apply takes.applied
  have perm := (Store.perm_of_ranked listed).map Strategy.id
  refine ⟨⟨⟨strategies.map Strategy.id, told.ids ▸ perm, ?_⟩, told.fit⟩, ids.trans told.ids, ?_,
    fun id hid => ?_⟩
  · rw [Schedule.pairs_map]
    exact sides_of (f := id) whole.records
  · rw [log, told.log]
    rfl
  · rw [Site.ids, ids] at hid
    exact (told.named id hid).mono named

theorem Story.isTold {start : Site} {past : List Deed} (story : start.Story past site)
    (empty : start.arena.store = .empty) : site.IsTold past := by
  induction story with
  | start =>
    refine ⟨trivial, ?_, ?_, fun id hid => ?_⟩
    · rw [ids, empty]; rfl
    · rw [empty]; rfl
    · rw [ids, empty] at hid
      cases hid
  | saved _ aside h told => exact (saveStrategy_ok aside told.named h).isTold told
  | grand _ aside h told =>
    exact (runGrand_ends aside h).takes.isTold told (runGrand_steady aside h).strategies
  | skipped _ aside h told =>
    have same := (runGrand_ends aside h).store_of_none
    exact (told.of_store same (runGrand_steady aside h).strategies).idle (.inl rfl)
  | reset _ h told =>
    obtain ⟨ids, log, steady⟩ := resetScores_ok h
    exact (told.of_same ids log steady.strategies).idle (.inr rfl)
  | aside _ h told => exact told.of_store h.store h.strategies

/-- After any number of successful saves, grand tournaments and resets that do not overlap, in an
arena that was empty, the log holds the records of these calls in their order, all of them of
matches between two strategies that are stored. Of every two strategies the later one has first met
the other in its own save, on the first side of the record, and after that once in each grand
tournament that was played since. So without grand tournaments the log has one record for every two
strategies. -/
theorem log_covers_pairs {start : Site} {past : List Deed} (story : start.Story past site)
    (empty : start.arena.store = .empty) :
    site.ids = Deed.stored past ∧ site.ids.Nodup ∧
    site.arena.store.records = Deed.log past ∧
    (∀ r ∈ site.arena.store.records, ∃ a ∈ site.ids, ∃ b ∈ site.ids, a ≠ b ∧ r.IsBetween a b) ∧
    (∀ older newer, [older, newer].Sublist site.ids →
      ∃ later records earlier, past = later ++ .saved newer records :: earlier ∧
        older ∈ Deed.stored earlier ∧
        (meetings older newer site.arena.store.records).length = 1 + Deed.grands later ∧
        ∃ first, (meetings older newer site.arena.store.records).head? = some first ∧
          first ∈ records ∧ first.first.id = newer ∧ first.second.id = older) ∧
    (Deed.grands past = 0 → (site.arena.store.records.length : Int) =
      Schedule.totalMatches site.arena.store.strategies.length) := by
  have told := story.isTold empty
  refine ⟨told.ids, told.ids ▸ told.fit.nodup, told.log, fun r hr => ?_,
    fun older newer order => ?_, fun none => ?_⟩
  · rw [told.log] at hr
    obtain ⟨first, second, apart⟩ := told.fit.among hr
    rw [← told.ids] at first second
    exact ⟨_, first, _, second, apart, .inl rfl⟩
  · rw [told.ids] at order
    obtain ⟨later, records, earlier, first, rest, e, there, all, fromSave, sides, count⟩ :=
      told.fit.first_meeting order
    rw [told.log, all]
    refine ⟨later, records, earlier, e, there, ?_, first, rfl, fromSave, (Prod.mk.inj sides).1,
      (Prod.mk.inj sides).2⟩
    rw [List.length_cons, count, Nat.add_comm]
  · have length := told.fit.length_log none
    rw [← told.log, ← told.ids, ids, List.length_map] at length
    exact length

/-- Two saves and a grand tournament: the two have met twice. -/
theorem log_covers_pairs_two_saves :
    ∃ past site older newer, started.Story past site ∧ site.ids = [older, newer] ∧
      (meetings older newer site.arena.store.records).length = 2 := by
  have quiet := Observer.silent_isQuiet
  have client : Observer.silent.IsClient := fun progress => .aside (quiet.standsAside progress)
  obtain ⟨mirror, hmirror⟩ : ∃ q : SaveRequest,
    q = ⟨"Mirror", Builtin.titForTat.tree, none, none⟩ := ⟨_, rfl⟩
  obtain ⟨traitor, htraitor⟩ : ∃ q : SaveRequest,
    q = ⟨"Traitor", Builtin.alwaysBetray.tree, none, none⟩ := ⟨_, rfl⟩
  have empty : started.IsField [] := isField_empty rfl
  obtain ⟨⟨saved1, o1⟩, site1, one, field1, -, file1⟩ | ⟨_, _, -, file⟩ := save_isField quiet empty
    (q := mirror) (by rw [hmirror]; decide) (by rw [hmirror]; decide)
  case inr => exact absurd rfl file
  obtain ⟨⟨saved2, o2⟩, site2, two, field2, -, file2⟩ | ⟨_, _, -, file⟩ := save_isField quiet field1
    (q := traitor) (by rw [htraitor]; decide) (by rw [htraitor]; decide)
  case inr => exact absurd file1 file
  have goes1 := (Client.save mirror client).goes started
  have goes2 := (Client.save traitor client).goes site1
  rw [one] at goes1
  rw [two] at goes2
  have enough : 2 ≤ site2.arena.store.strategies.length := by
    rw [← List.length_map (f := Strategy.tree), field2.trees]
    exact Nat.le_refl _
  have unexported : site2.arena.settings.exportResults.isTruthy = false := by
    rw [((goes2 []).settings).2, ((goes1 []).settings).2]
    rfl
  obtain ⟨o, site, played⟩ := exists_runGrand quiet (field2.areFixed (.refl _))
    field2.hasWholeScores field2.rankable enough (goes2.isHeld.trans goes1.isHeld)
    (file2.trans file1) unexported
  have story := ((Story.start.saved quiet.standsAside one).saved quiet.standsAside two).grand
    quiet.standsAside played
  obtain ⟨ids, -, -, -, first, -⟩ := log_covers_pairs story rfl
  refine ⟨_, site, saved1.id, saved2.id, story, ids, ?_⟩
  obtain ⟨later, records, earlier, e, there, count, -⟩ := first saved1.id saved2.id (ids ▸ .refl _)
  -- the save of the second strategy stands behind the grand tournament alone
  rcases later with _ | ⟨_, _ | ⟨_, _ | ⟨_, later⟩⟩⟩
  · cases (List.cons.inj e).1
  · cases (List.cons.inj e).1
    exact count
  · obtain ⟨-, rfl⟩ := List.cons.inj (List.cons.inj (List.cons.inj e).2).2
    cases there
  · have length := congrArg List.length e
    simp only [List.length_append, List.length_cons, List.length_nil] at length
    omega

end Site
end IteratedDilemma
