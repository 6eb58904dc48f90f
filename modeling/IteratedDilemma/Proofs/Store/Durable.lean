import IteratedDilemma.Proofs.Store.RoundTrip

/-! Stores that a document holds unchanged: what is read for them is what was written
(`IsDurable.rejoined_eq`). The changes of a store keep it durable as long as what is added is, and
as long as no floating-point number is added to a score (`isDurable_apply`). -/
namespace IteratedDilemma
set_option autoImplicit false

/-! ## Durable strategies and records -/

/-- A strategy that a document holds unchanged. -/
structure Strategy.IsDurable (s : Strategy) : Prop where
  storable : s.IsStorable
  joined : s.rejoined = s

theorem Strategy.isDurable_withScore {s : Strategy} (h : s.IsDurable) {score : Json}
    (whole : ∃ n, score = .int n) : (s.withScore score).IsDurable where
  storable := ⟨h.storable.id, h.storable.name, h.storable.author, h.storable.authorId, whole,
    h.storable.createdAt⟩
  joined := by
    obtain ⟨id, name, tree, author, authorId, old, createdAt⟩ := s
    have joined := h.joined
    simp only [rejoined, withScore, mk.injEq] at joined ⊢
    exact ⟨joined.1, joined.2.1, joined.2.2.1, joined.2.2.2.1, joined.2.2.2.2.1, trivial, trivial⟩

/-- A record that a document holds unchanged: its identifiers are texts, its names and authors are
texts, whole numbers, truth values or null, and the offset of its time, if there is one, is zero or
no less than a second. -/
structure MatchRecord.IsDurable (r : MatchRecord) : Prop where
  storable : r.IsStorable
  joined : r.rejoined = r

/-! ## Durable stores -/

namespace Store

structure IsDurable (s : Store) : Prop where
  strategies : ∀ t ∈ s.strategies, t.IsDurable
  records : ∀ r ∈ s.records, r.IsDurable

theorem IsDurable.storable {s : Store} (h : s.IsDurable) : s.IsStorable :=
  ⟨fun t ht => (h.strategies t ht).storable, fun r hr => (h.records r hr).storable⟩

theorem IsDurable.rejoined_eq {s : Store} (h : s.IsDurable) : s.rejoined = s := by
  have ids (t : Strategy) (ht : t ∈ s.strategies) : t.id.rejoined = t.id :=
    congrArg Strategy.id (h.strategies t ht).joined
  refine ext ?_ ?_
  · rw [strategies_rejoined ids, List.map_congr_left fun t ht => (h.strategies t ht).joined,
      List.map_id']
  · change s.records.map MatchRecord.rejoined = s.records
    rw [List.map_congr_left fun r hr => (h.records r hr).joined, List.map_id']

theorem isDurable_empty : IsDurable .empty where
  strategies t ht := by cases ht
  records r hr := by cases hr

theorem isDurable_add {s : Store} (h : s.IsDurable) {new : Strategy} (durable : new.IsDurable) :
    (s.add new).IsDurable where
  strategies t ht := by
    rcases mem_place s.distinct ht with rfl | ⟨ht, -⟩
    · exact durable
    · exact h.strategies t ht
  records := h.records

theorem isDurable_rescore {s : Store} (h : s.IsDurable) {score : Strategy → Json}
    (whole : ∀ t ∈ s.strategies, ∃ n, score t = .int n) : (s.rescore score).IsDurable where
  strategies t ht := by
    obtain ⟨u, hu, rfl⟩ := List.mem_map.1 ht
    exact Strategy.isDurable_withScore (h.strategies u hu) (whole u hu)
  records := h.records

theorem isDurable_append {s : Store} (h : s.IsDurable) {records : List MatchRecord}
    (durable : ∀ r ∈ records, r.IsDurable) : (s.append records).IsDurable where
  strategies := h.strategies
  records r hr := by
    rcases List.mem_append.1 hr with hr | hr
    · exact h.records r hr
    · exact durable r hr

end Store

/-! ## Points -/

/-- A sum of whole numbers is one; whatever else is added without a floating-point number is
refused. -/
theorem Json.plus_whole {points sum : Json} (n : Int) (plain : ∀ x, points ≠ .float x)
    (h : (int n).plus points = .ok sum) : ∃ m, sum = .int m := by
  unfold plus at h
  cases points with
  | float x => exact absurd rfl (plain x)
  | int m =>
    cases h
    exact ⟨_, rfl⟩
  | bool b =>
    cases h
    exact ⟨_, rfl⟩
  | null | text _ | list _ | object _ => cases h

namespace Store

theorem scoreWith_plain {t : Strategy} {n : Int} (score : t.score = .int n) {deltas : Tally Json}
    (plain : ∀ points ∈ deltas.points, ∀ x, points ≠ .float x) :
    ∃ m, ((scoreWith deltas t).toOption).getD t.score = .int m := by
  unfold scoreWith
  cases counted : deltas.points? t.id with
  | none => exact ⟨n, score⟩
  | some points =>
    dsimp only
    rw [score]
    cases sum : (Json.int n).plus points with
    | error fault => exact ⟨n, rfl⟩
    | ok sum' =>
      obtain ⟨_, there, -, rfl⟩ := Tally.exists_of_points? counted
      exact Json.plus_whole n (plain _ (List.mem_map_of_mem there)) sum

/-- An outcome without floating-point numbers and with durable records leaves a durable store. -/
theorem isDurable_apply {s s' : Store} (h : s.IsDurable) {o : Outcome}
    (plain : ∀ points ∈ o.deltas.points, ∀ x, points ≠ .float x)
    (durable : ∀ r ∈ o.records, r.IsDurable) (applied : s.apply o = .ok s') : s'.IsDurable := by
  unfold apply at applied
  split at applied
  · split at applied
    · cases applied
    · cases applied
      refine isDurable_append (isDurable_rescore h fun t ht => ?_) durable
      obtain ⟨n, score⟩ := (h.strategies t ht).storable.score
      exact scoreWith_plain score plain
  · cases applied

end Store
end IteratedDilemma
