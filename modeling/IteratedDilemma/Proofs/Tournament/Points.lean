import Mathlib.Algebra.BigOperators.Group.List.Basic
import Mathlib.Algebra.Ring.Int.Defs
import Mathlib.Data.List.Nodup
import IteratedDilemma.Store
import IteratedDilemma.Tournament.Pass

/-! Points and records. The points that a pass has counted for an identifier are what its records
say (`Pass.isBalanced_extend`), and a store that takes an outcome over adds exactly those points to
its scores (`Store.apply_whole`). -/
namespace IteratedDilemma
set_option autoImplicit false

/-! ## What records are worth -/

/-- The points of an identifier in a match: those of each side that it is on. -/
def MatchRecord.pointsOf (r : MatchRecord) (id : Json) : Int :=
  (if r.first.id.same id then r.first.score else 0) +
    (if r.second.id.same id then r.second.score else 0)

/-- The points of an identifier in all records of a list. -/
def earned (id : Json) (records : List MatchRecord) : Int :=
  (records.map fun r => r.pointsOf id).sum

@[simp] theorem earned_nil (id : Json) : earned id [] = 0 := rfl

@[simp] theorem earned_cons (id : Json) (r : MatchRecord) (rest : List MatchRecord) :
    earned id (r :: rest) = r.pointsOf id + earned id rest := rfl

theorem earned_append (id : Json) (a b : List MatchRecord) :
    earned id (a ++ b) = earned id a + earned id b := by
  rw [earned, List.map_append, List.sum_append]
  rfl

theorem earned_reverse (id : Json) (records : List MatchRecord) :
    earned id records.reverse = earned id records := by
  rw [earned, List.map_reverse, List.sum_reverse]
  rfl

theorem earned_nonneg {id : Json} {records : List MatchRecord}
    (h : ∀ r ∈ records, 0 ≤ r.first.score ∧ 0 ≤ r.second.score) : 0 ≤ earned id records := by
  induction records with
  | nil => exact Int.le_refl 0
  | cons r rest ih =>
    have hr := h r List.mem_cons_self
    have hrest := ih fun s hs => h s (List.mem_cons_of_mem _ hs)
    rw [earned_cons, MatchRecord.pointsOf]
    split <;> split <;> omega

/-! ## What a pass counts -/

namespace Tally

theorem points?_add (t : Tally Int) (id other : Json) (n : Int) :
    (t.add id n).points? other =
      if id.same other then some ((t.points? id).getD 0 + n) else t.points? other :=
  points?_set t id other _

theorem points?_congr {π : Type} (t : Tally π) {id other : Json} (h : id.same other) :
    t.points? id = t.points? other := by
  have e : id.key = other.key := by simpa [Json.same] using h
  induction t with
  | nil => rfl
  | cons pair rest ih =>
    obtain ⟨n, p⟩ := pair
    have hn : n.same id = n.same other := by rw [Json.same, Json.same, e]
    rw [points?, points?, hn, ih]

theorem getD_add (t : Tally Int) (id other : Json) (n : Int) :
    ((t.add id n).points? other).getD 0 =
      (t.points? other).getD 0 + if id.same other then n else 0 := by
  rw [points?_add]
  split
  · next h => rw [points?_congr t h]; rfl
  · rw [add_zero]

theorem isSome_add (t : Tally Int) (id other : Json) (n : Int) (h : (t.points? other).isSome) :
    ((t.add id n).points? other).isSome := by
  rw [points?_add]
  split
  · rfl
  · exact h

theorem isSome_add_self (t : Tally Int) (id : Json) (n : Int) :
    ((t.add id n).points? id).isSome := by
  rw [points?_add, if_pos (by simp [Json.same])]
  rfl

theorem isSome_points? {π : Type} (t : Tally π) (id : Json) :
    (t.points? id).isSome ↔ ∃ other ∈ t.ids, other.same id := by
  induction t with
  | nil => simp [points?, ids]
  | cons pair rest ih =>
    obtain ⟨other, p⟩ := pair
    by_cases h : other.same id
    · simp [points?, ids, h]
    · simpa [points?, ids, h] using ih

theorem exists_of_points? {π : Type} {t : Tally π} {id : Json} {points : π}
    (h : t.points? id = some points) : ∃ pair ∈ t, pair.1.same id ∧ pair.2 = points := by
  induction t with
  | nil => cases h
  | cons pair rest ih =>
    rw [points?] at h
    split at h
    · next same => exact ⟨pair, List.mem_cons_self, same, Option.some.inj h⟩
    · obtain ⟨other, there, found⟩ := ih h
      exact ⟨other, List.mem_cons_of_mem _ there, found⟩

theorem points?_cons_of_mem {π : Type} {pair : Json × π} {rest : Tally π}
    (apart : pair.1.key ∉ rest.ids.map Json.key) {id : Json} (h : id ∈ rest.ids) :
    points? (pair :: rest) id = points? rest id := by
  have differ : ¬pair.1.same id = true := fun same => by
    have key : pair.1.key = id.key := of_decide_eq_true same
    exact apart (key ▸ List.mem_map_of_mem h)
  rw [points?, if_neg differ]

theorem points?_of_mem {π : Type} {t : Tally π} (distinct : (t.ids.map Json.key).Nodup) {id : Json}
    {points : π} (h : (id, points) ∈ t) : t.points? id = some points := by
  induction t with
  | nil => cases h
  | cons pair rest ih =>
    obtain ⟨apart, distinct⟩ := List.nodup_cons.1 distinct
    rcases List.mem_cons.1 h with rfl | h
    · exact if_pos (decide_eq_true rfl)
    · rw [points?_cons_of_mem apart (List.mem_map_of_mem h), ih distinct h]

theorem ids_set {π : Type} (t : Tally π) (id other : Json) (points : π) :
    other ∈ (t.set id points).ids → other ∈ t.ids ∨ other = id := by
  induction t with
  | nil => intro h; exact .inr (List.mem_singleton.1 h)
  | cons pair rest ih =>
    intro h
    rw [set] at h
    split at h
    · exact .inl h
    · rcases List.mem_cons.1 h with rfl | h
      · exact .inl List.mem_cons_self
      · exact (ih h).imp_left (List.mem_cons_of_mem _)

theorem ids_set_of_isSome {π : Type} {t : Tally π} {id : Json} (h : (t.points? id).isSome)
    (points : π) : (t.set id points).ids = t.ids := by
  induction t with
  | nil => cases h
  | cons pair rest ih =>
    obtain ⟨other, p⟩ := pair
    rw [set]
    rw [points?] at h
    split at h
    · next same => rw [if_pos same]; rfl
    · next differ =>
      rw [if_neg differ]
      exact congrArg (other :: ·) (ih h)

theorem set_of_absent {π : Type} {t : Tally π} {id : Json}
    (h : ∀ other ∈ t.ids, other.same id = false) (points : π) :
    t.set id points = t ++ [(id, points)] := by
  induction t with
  | nil => rfl
  | cons pair rest ih =>
    have apart : pair.1.same id = false := h pair.1 List.mem_cons_self
    have later := ih fun other hother => h other (List.mem_cons_of_mem _ hother)
    rw [set, if_neg (by rw [apart]; exact Bool.false_ne_true), later]
    rfl

theorem ofPairs_eq {π : Type} {pairs : List (Json × π)}
    (distinct : (pairs.map fun pair => pair.1.key).Nodup) : ofPairs pairs = pairs := by
  have all : ∀ (rest t : List (Json × π)), ((t ++ rest).map fun pair => pair.1.key).Nodup →
      rest.foldl (fun t pair => set t pair.1 pair.2) t = t ++ rest := by
    intro rest
    induction rest with
    | nil => intro t _; exact (List.append_nil t).symm
    | cons pair rest ih =>
      intro t nodup
      have absent : ∀ other ∈ ids t, other.same pair.1 = false := by
        intro other hother
        obtain ⟨before, hbefore, rfl⟩ := List.mem_map.1 hother
        rw [List.map_append, List.nodup_append] at nodup
        exact decide_eq_false (nodup.2.2 _ (List.mem_map_of_mem hbefore) _ List.mem_cons_self)
      rw [List.foldl_cons, set_of_absent absent, ih _ (by rw [List.append_assoc]; exact nodup),
        List.append_assoc]
      rfl
  exact all pairs [] distinct

/-- A tally of different identifiers is read back from its order and the points of each. -/
theorem eq_map_ids {t : Tally Int} (distinct : (t.ids.map Json.key).Nodup) :
    t = t.ids.map fun id => (id, (t.points? id).getD 0) := by
  induction t with
  | nil => rfl
  | cons pair rest ih =>
    obtain ⟨apart, distinct⟩ := List.nodup_cons.1 distinct
    have first : points? (pair :: rest) pair.1 = some pair.2 := by
      rw [points?, if_pos (by simp [Json.same])]
    have listed : ids (pair :: rest) = pair.1 :: ids rest := rfl
    have others : ((ids rest).map fun id => (id, (points? (pair :: rest) id).getD 0)) =
        (ids rest).map fun id => (id, (points? rest id).getD 0) :=
      List.map_congr_left fun id hid => by rw [points?_cons_of_mem apart hid]
    rw [listed, List.map_cons, first, others, ← ih distinct]
    rfl

/-- All points are whole numbers. -/
def IsWhole (t : Tally Json) : Prop := ∀ points ∈ t.points, ∃ n, points.toInt? = some n

/-- What the points of an identifier come to, 0 if it has none. -/
def worth (t : Tally Json) (id : Json) : Int := ((t.points? id).bind Json.toInt?).getD 0

theorem ids_toJson (t : Tally Int) : t.toJson.ids = t.ids := by
  rw [ids, toJson, List.map_map]
  rfl

theorem isWhole_toJson (t : Tally Int) : t.toJson.IsWhole := by
  intro points there
  rw [Tally.points, toJson, List.map_map] at there
  obtain ⟨pair, -, rfl⟩ := List.mem_map.1 there
  exact ⟨_, rfl⟩

theorem worth_toJson (t : Tally Int) (id : Json) : t.toJson.worth id = (t.points? id).getD 0 := by
  rw [worth, points?_toJson]
  cases t.points? id <;> rfl

theorem sum_add (t : Tally Int) (id : Json) (n : Int) :
    (t.add id n).points.sum = t.points.sum + n := by
  induction t with
  | nil =>
    change (0 + n) + 0 = 0 + n
    omega
  | cons pair rest ih =>
    obtain ⟨other, old⟩ := pair
    by_cases same : other.same id
    · rw [add, points?, if_pos same, set, if_pos same]
      change (old + n) + (points rest).sum = old + (points rest).sum + n
      omega
    · rw [add, points?, if_neg same, set, if_neg same]
      change old + (points (add rest id n)).sum = old + (points rest).sum + n
      rw [ih]
      omega

end Tally

namespace Pass

theorem sum_extend (p : Pass) (r : MatchRecord) :
    (p.extend r).deltas.points.sum = p.deltas.points.sum + (r.first.score + r.second.score) := by
  change ((p.deltas.add _ _).add _ _).points.sum = _
  rw [Tally.sum_add, Tally.sum_add, Int.add_assoc]

/-- The points counted in a pass are those of its records, and every player of a record has been
counted. -/
structure IsBalanced (p : Pass) : Prop where
  points : ∀ id, (p.deltas.points? id).getD 0 = earned id p.records
  counted : ∀ r ∈ p.records,
    (p.deltas.points? r.first.id).isSome ∧ (p.deltas.points? r.second.id).isSome

theorem isBalanced_extend {p : Pass} (h : p.IsBalanced) (r : MatchRecord) :
    (p.extend r).IsBalanced where
  points id := by
    change (((p.deltas.add _ _).add _ _).points? id).getD 0 = earned id (r :: p.records)
    rw [Tally.getD_add, Tally.getD_add, h.points, earned_cons, MatchRecord.pointsOf]
    omega
  counted s hs := by
    rcases List.mem_cons.1 hs with rfl | hs
    · exact ⟨Tally.isSome_add _ _ _ _ (Tally.isSome_add_self _ _ _), Tally.isSome_add_self _ _ _⟩
    · obtain ⟨h1, h2⟩ := h.counted s hs
      exact ⟨Tally.isSome_add _ _ _ _ (Tally.isSome_add _ _ _ _ h1),
        Tally.isSome_add _ _ _ _ (Tally.isSome_add _ _ _ _ h2)⟩

theorem isBalanced_onSave (startedAt : Timestamp) (new : Strategy) :
    (onSave startedAt new).IsBalanced where
  points id := by
    by_cases h : new.id.same id <;> simp [onSave, Tally.points?, h]
  counted r hr := by cases hr

theorem ofPairs_zero (ids : List Json) (t : Tally Int) (id : Json)
    (h : (t.points? id).getD 0 = 0) :
    (((ids.map fun other => (other, (0 : Int))).foldl
      (fun t pair => t.set pair.1 pair.2) t).points? id).getD 0 = 0 := by
  induction ids generalizing t with
  | nil => exact h
  | cons other rest ih =>
    refine ih _ ?_
    rw [Tally.points?_set]
    split
    · rfl
    · exact h

theorem isBalanced_grand (startedAt : Timestamp) (strategies : List Strategy) :
    (grand startedAt strategies).IsBalanced where
  points id := by
    have h := ofPairs_zero (strategies.map Strategy.id) [] id rfl
    rw [List.map_map] at h
    exact h
  counted r hr := by cases hr

end Pass

/-! ## What a store takes over -/

namespace Store

theorem ext {s s' : Store} (h : s.strategies = s'.strategies) (h' : s.records = s'.records) :
    s = s' := by
  cases s; cases s'; cases h; cases h'; rfl

theorem place_of_absent {new : Strategy} {others : List Strategy}
    (apart : ∀ s ∈ others, s.key ≠ new.key) : place new others = others ++ [new] := by
  induction others with
  | nil => rfl
  | cons other rest ih =>
    rw [place, if_neg (apart other List.mem_cons_self),
      ih fun s hs => apart s (List.mem_cons_of_mem _ hs)]
    rfl

theorem mem_place_self (new : Strategy) (others : List Strategy) : new ∈ place new others := by
  induction others with
  | nil => exact List.mem_cons_self
  | cons other rest ih =>
    rw [place]
    split
    · exact List.mem_cons_self
    · exact List.mem_cons_of_mem _ ih

/-- What stands among others after a strategy took its place: the strategy, and those of other
identifiers. -/
theorem mem_place {new t : Strategy} {others : List Strategy}
    (distinct : (others.map Strategy.key).Nodup) (h : t ∈ place new others) :
    t = new ∨ (t ∈ others ∧ t.key ≠ new.key) := by
  induction others with
  | nil => exact .inl (List.mem_singleton.1 h)
  | cons other rest ih =>
    obtain ⟨apart, distinct⟩ := List.nodup_cons.1 distinct
    rw [place] at h
    by_cases e : other.key = new.key
    · rw [if_pos e] at h
      rcases List.mem_cons.1 h with rfl | h
      · exact .inl rfl
      · refine .inr ⟨List.mem_cons_of_mem _ h, fun same => apart ?_⟩
        rw [e, ← same]
        exact List.mem_map_of_mem h
    · rw [if_neg e] at h
      rcases List.mem_cons.1 h with rfl | h
      · exact .inr ⟨List.mem_cons_self, e⟩
      · rcases ih distinct h with rfl | ⟨h, apart⟩
        · exact .inl rfl
        · exact .inr ⟨List.mem_cons_of_mem _ h, apart⟩

/-- Every score is a whole number. -/
def HasWholeScores (s : Store) : Prop := ∀ t ∈ s.strategies, ∃ n : Int, t.score = .int n

/-- The store with the points of a tally added to its scores. -/
def credited (s : Store) (points : Tally Int) : Store :=
  s.rescore fun t => .int (t.score.toInt?.getD 0 + (points.points? t.id).getD 0)

theorem perm_of_ranked {s : Store} {strategies : List Strategy} (h : s.ranked = .ok strategies) :
    strategies.Perm s.strategies := by
  unfold ranked Standings.ranked at h
  split at h
  · cases h
    exact List.mergeSort_perm _ _
  · cases h

theorem rescore_congr {s : Store} {f g : Strategy → Json} (h : ∀ t ∈ s.strategies, f t = g t) :
    s.rescore f = s.rescore g :=
  ext (List.map_congr_left fun t ht => congrArg t.withScore (h t ht)) rfl

theorem mem_of_get? {s : Store} {id : Json} {t : Strategy} (h : s.get? id = some t) :
    t ∈ s.strategies ∧ t.key = id.key :=
  ⟨List.mem_of_find?_eq_some h, by simpa using List.find?_some h⟩

theorem get?_of_mem {s : Store} {t : Strategy} (h : t ∈ s.strategies) : s.get? t.id = some t := by
  have found : (s.get? t.id).isSome := List.find?_isSome.2 ⟨t, h, decide_eq_true rfl⟩
  obtain ⟨u, hu⟩ := Option.isSome_iff_exists.1 found
  obtain ⟨there, key⟩ := mem_of_get? hu
  rw [hu, List.inj_on_of_nodup_map s.distinct there h key]

theorem plus_whole {t : Strategy} {points : Json} {n m : Int} (score : t.score = .int n)
    (whole : points.toInt? = some m) : t.score.plus points = .ok (.int (n + m)) := by
  rw [score, Json.plus, whole]
  rfl

theorem scoreWith_whole {t : Strategy} {n : Int} (score : t.score = .int n) {deltas : Tally Json}
    (whole : deltas.IsWhole) : scoreWith deltas t = .ok (.int (n + deltas.worth t.id)) := by
  rw [scoreWith, Tally.worth]
  rcases counted : deltas.points? t.id with _ | points
  · rw [score, Option.bind_none, Option.getD_none, Int.add_zero]
  · obtain ⟨pair, there, -, rfl⟩ := Tally.exists_of_points? counted
    obtain ⟨m, worth⟩ := whole pair.2 (List.mem_map_of_mem there)
    rw [Option.bind_some, worth]
    exact plus_whole score worth

theorem scoreFault?_whole {s : Store} (h : s.HasWholeScores) {deltas : Tally Json}
    (whole : deltas.IsWhole) : s.scoreFault? deltas = none := by
  refine List.findSome?_eq_none_iff.2 fun pair there => ?_
  dsimp only
  rcases stored : s.get? pair.1 with _ | t
  · rfl
  · obtain ⟨n, score⟩ := h t (mem_of_get? stored).1
    obtain ⟨m, worth⟩ := whole pair.2 (List.mem_map_of_mem there)
    rw [Option.bind_eq_bind, Option.bind_some, plus_whole score worth]

/-- What an outcome that is taken over has done: it named nobody unknown, and nothing has changed
but scores and the end of the log. -/
theorem apply_ok {s s' : Store} {o : Outcome} (h : s.apply o = .ok s') :
    s.unknown o = [] ∧ ∃ score, s' = (s.rescore score).append o.records := by
  unfold apply at h
  by_cases known : s.unknown o = []
  · rw [if_pos known] at h
    refine ⟨known, ?_⟩
    split at h
    · cases h
    · cases h
      exact ⟨_, rfl⟩
  · rw [if_neg known] at h
    cases h

/-- An outcome that is taken over adds to each score the points of its strategy, and every sum is a
score. -/
theorem apply_scores {s s' : Store} {o : Outcome} (h : s.apply o = .ok s') :
    ∃ score, s' = (s.rescore score).append o.records ∧
      ∀ t ∈ s.strategies, ∀ points, o.deltas.points? t.id = some points →
        t.score.plus points = .ok (score t) := by
  have known := (apply_ok h).1
  unfold apply at h
  rw [if_pos known] at h
  split at h
  · cases h
  next fine =>
  cases h
  refine ⟨_, rfl, fun t ht points found => ?_⟩
  -- the sum is a score, for else taking over the outcome would have failed with its fault
  obtain ⟨pair, there, same, rfl⟩ := Tally.exists_of_points? found
  have stored : s.get? pair.1 = some t := by
    have key : pair.1.key = t.id.key := of_decide_eq_true same
    rw [get?, key]
    exact get?_of_mem ht
  have sum := List.findSome?_eq_none_iff.1 fine pair there
  dsimp only at sum
  rw [stored, Option.bind_eq_bind, Option.bind_some] at sum
  rcases e : t.score.plus pair.2 with fault | score
  · rw [e] at sum
    cases sum
  · rw [scoreWith, found]
    dsimp only
    rw [e]
    rfl

/-- The store has everybody whom an outcome gives points. -/
def Knows (s : Store) (o : Outcome) : Prop := ∀ id ∈ o.deltas.ids, id.key ∈ s.keys

theorem unknown_eq_nil_iff {s : Store} {o : Outcome} : s.unknown o = [] ↔ s.Knows o := by
  rw [unknown, List.filter_eq_nil_iff]
  simp only [decide_eq_true_eq, not_not]
  rfl

theorem exists_of_unknown_eq_nil {s : Store} {o : Outcome} {points : Tally Int}
    (deltas : o.deltas = points.toJson) (h : s.unknown o = []) {id : Json}
    (counted : (points.points? id).isSome) : ∃ t ∈ s.strategies, t.key = id.key := by
  obtain ⟨other, there, same⟩ := (Tally.isSome_points? points id).1 counted
  have listed : other ∈ o.deltas.ids := by rwa [deltas, Tally.ids_toJson]
  obtain ⟨t, ht, key⟩ := List.mem_map.1 (unknown_eq_nil_iff.1 h other listed)
  exact ⟨t, ht, key.trans (of_decide_eq_true same)⟩

/-- Whole points are taken over whenever the store knows all who are given some. -/
theorem apply_whole {s : Store} (h : s.HasWholeScores) {o : Outcome} (whole : o.deltas.IsWhole) :
    s.apply o = if s.unknown o = [] then
        .ok ((s.rescore fun t => .int (t.score.toInt?.getD 0 + o.deltas.worth t.id)).append
          o.records)
      else .error (unknownFault o.kind (s.unknown o)) := by
  have same : (s.rescore fun t => ((scoreWith o.deltas t).toOption).getD t.score) =
      s.rescore fun t => .int (t.score.toInt?.getD 0 + o.deltas.worth t.id) := by
    refine rescore_congr fun t ht => ?_
    obtain ⟨n, score⟩ := h t ht
    rw [scoreWith_whole score whole, score]
    rfl
  rw [apply, scoreFault?_whole h whole, same]

theorem apply_eq {s : Store} (h : s.HasWholeScores) {o : Outcome} {points : Tally Int}
    (ho : o.deltas = points.toJson) :
    s.apply o = if s.unknown o = [] then .ok ((s.credited points).append o.records)
      else .error (unknownFault o.kind (s.unknown o)) := by
  rw [apply_whole h (ho ▸ points.isWhole_toJson), ho]
  simp only [Tally.worth_toJson, credited]

end Store
end IteratedDilemma
