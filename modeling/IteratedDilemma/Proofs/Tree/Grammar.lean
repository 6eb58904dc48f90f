import Mathlib.Data.List.Basic
import IteratedDilemma.Proofs.Tree.Reachable

/-! The rules of a chain as a grammar. The checks overlap: a clause behind a fallback breaks the
rule of the last clause, and may break that of the single fallback or of the single opening clause
as well. Together they ask for an opening clause, any number of alternatives and at most one
fallback (`Chain.violations_eq_nil_iff`). Main statement: a tree is made of a chain exactly when it
keeps this grammar, and all trees keep it (`LogicTree.rules_are_grammar`). -/
namespace IteratedDilemma
set_option autoImplicit false

namespace Chain

/-! ## Orders of roles -/

/-- What may follow the opening clause: alternatives, then at most one fallback. -/
def IsSequel (roles : List Role) : Prop :=
  ∃ count, roles = .replicate count .alternative ∨
    roles = .replicate count .alternative ++ [.fallback]

theorem isSequel_nil : IsSequel [] := ⟨0, .inl rfl⟩

theorem isSequel_alternative {roles : List Role} :
    IsSequel (.alternative :: roles) ↔ IsSequel roles := by
  constructor
  · rintro ⟨_ | count, h | h⟩
    · cases h
    · cases h
    · exact ⟨count, .inl (List.cons.inj h).2⟩
    · exact ⟨count, .inr (List.cons.inj h).2⟩
  · rintro ⟨count, rfl | rfl⟩
    · exact ⟨count + 1, .inl rfl⟩
    · exact ⟨count + 1, .inr rfl⟩

theorem isSequel_fallback {roles : List Role} : IsSequel (.fallback :: roles) ↔ roles = [] := by
  constructor
  · rintro ⟨_ | count, h | h⟩
    · cases h
    · exact (List.cons.inj h).2
    · cases h
    · cases h
  · rintro rfl
    exact ⟨0, .inr rfl⟩

theorem not_isSequel_opening (roles : List Role) : ¬IsSequel (.opening :: roles) := by
  rintro ⟨_ | count, h | h⟩ <;> cases h

theorem IsSequel.count_le_one {roles : List Role} (h : IsSequel roles) :
    roles.count .fallback ≤ 1 := by
  obtain ⟨count, rfl | rfl⟩ := h
  · rw [List.count_replicate, if_neg (by decide)]
    exact Nat.zero_le 1
  · rw [List.count_append, List.count_replicate, if_neg (by decide)]
    exact Nat.le_refl 1

/-- A chain that keeps the grammar: one opening clause, alternatives, at most one fallback and
nothing after it, and no condition, whatever its kind and its clause, that looks back less than one
round. -/
structure KeepsGrammar (cs : List Clause) : Prop where
  roles : ∃ after, cs.map Clause.role = .opening :: after ∧ IsSequel after
  lookBack : ∀ c ∈ cs, ∀ d ∈ c.conditions, 1 ≤ d.n

/-! ## Each check -/

theorem openingsFrom_eq_nil_iff {position : Nat} {cs : List Clause} :
    openingsFrom position cs = [] ↔ ∀ c ∈ cs, c.role ≠ .opening := by
  induction cs generalizing position with
  | nil => exact ⟨fun _ _ h => (by cases h), fun _ => rfl⟩
  | cons c rest ih =>
    rw [openingsFrom, List.forall_mem_cons]
    split
    · next opening => exact ⟨fun h => (by cases h), fun h => absurd opening h.1⟩
    · next other => exact ⟨fun h => ⟨other, ih.1 h⟩, fun h => ih.2 h.2⟩

theorem smallNsFrom_eq_nil_iff {position : Nat} {cs : List Clause} :
    smallNsFrom position cs = [] ↔ ∀ c ∈ cs, ∀ d ∈ c.conditions, 1 ≤ d.n := by
  induction cs generalizing position with
  | nil => exact ⟨fun _ _ h => (by cases h), fun _ => rfl⟩
  | cons c rest ih =>
    rw [smallNsFrom, List.append_eq_nil_iff, List.map_eq_nil_iff, List.filter_eq_nil_iff, ih,
      List.forall_mem_cons]
    refine and_congr_left fun _ => forall_congr' fun d => imp_congr_right fun _ => ?_
    rw [decide_eq_true_eq, Int.not_lt]

/-- Clauses without an opening one, of which only the last may be a fallback, are a sequel. -/
theorem isSequel_iff {cs : List Clause} :
    IsSequel (cs.map Clause.role) ↔ (∀ c ∈ cs, c.role ≠ .opening) ∧ FallsBackLast cs := by
  induction cs with
  | nil => exact
    ⟨fun _ => ⟨fun _ h => (by cases h), fun _ h => (by cases h)⟩, fun _ => isSequel_nil⟩
  | cons c rest ih =>
    rw [List.map_cons, List.forall_mem_cons]
    cases role : c.role with
    | opening =>
      exact ⟨fun h => absurd h (not_isSequel_opening _), fun h => absurd rfl h.1.1⟩
    | alternative =>
      rw [isSequel_alternative, ih, fallsBackLast_of_other (by rw [role]; nofun)]
      exact ⟨fun h => ⟨⟨nofun, h.1⟩, h.2⟩, fun h => ⟨h.1.2, h.2⟩⟩
    | fallback =>
      rw [isSequel_fallback, List.map_eq_nil_iff, fallsBackLast_of_fallback role]
      refine ⟨fun h => ⟨⟨nofun, ?_⟩, h⟩, fun h => h.2⟩
      rw [h]
      exact fun _ h => (by cases h)

/-! ## All checks -/

theorem violations_cons_eq_nil_iff {first : Clause} {rest : List Clause} :
    violations (first :: rest) = [] ↔
      first.role = .opening ∧ (∀ c ∈ rest, c.role ≠ .opening) ∧
        (first :: rest).countP (fun c => c.role = .fallback) ≤ 1 ∧ FallsBackLast (first :: rest) ∧
        ∀ c ∈ first :: rest, ∀ d ∈ c.conditions, 1 ≤ d.n := by
  have silent {p : Prop} [Decidable p] (v : TreeViolation) :
      (if p then [v] else []) = [] ↔ ¬p := by
    split <;> simp_all
  have silent' {p : Prop} [Decidable p] (v : TreeViolation) :
      (if p then [] else [v]) = [] ↔ p := by
    split <;> simp_all
  unfold violations FallsBackLast
  dsimp only
  rw [List.append_eq_nil_iff, List.append_eq_nil_iff, List.append_eq_nil_iff,
    List.append_eq_nil_iff, openingsFrom_eq_nil_iff, smallNsFrom_eq_nil_iff, silent, silent',
    Nat.not_lt, and_assoc, and_assoc, and_assoc]
  rcases firstFallback? (first :: rest) with _ | i
  · simp
  · rw [silent']
    simp

theorem violations_eq_nil_iff (cs : List Clause) : violations cs = [] ↔ KeepsGrammar cs := by
  cases cs with
  | nil => exact ⟨fun h => (by cases h), fun ⟨⟨_, h, _⟩, _⟩ => (by cases h)⟩
  | cons first rest =>
    rw [violations_cons_eq_nil_iff]
    constructor
    · rintro ⟨opening, single, -, last, lookBack⟩
      have other : first.role ≠ .fallback := by rw [opening]; nofun
      refine ⟨⟨rest.map Clause.role, by rw [List.map_cons, opening], ?_⟩, lookBack⟩
      exact isSequel_iff.2 ⟨single, (fallsBackLast_of_other other).1 last⟩
    · rintro ⟨⟨after, roles, sequel⟩, lookBack⟩
      obtain ⟨opening, rfl⟩ := List.cons.inj roles
      have other : first.role ≠ .fallback := by rw [opening]; nofun
      obtain ⟨single, last⟩ := isSequel_iff.1 sequel
      refine ⟨opening, single, ?_, (fallsBackLast_of_other other).2 last, lookBack⟩
      -- that there is one fallback at most follows from its being the last clause
      have count : rest.countP (fun c => c.role = .fallback) =
          (rest.map Clause.role).count .fallback := by
        rw [List.count, List.countP_map]
        exact List.countP_congr fun c _ => by
          rw [decide_eq_true_eq, Function.comp_apply, beq_iff_eq]
      rw [List.countP_cons_of_neg (by rw [decide_eq_true_eq]; exact other), count]
      exact sequel.count_le_one

example (a : Action) : violations [⟨.fallback, [], .all, a⟩, ⟨.opening, [], .all, a⟩,
    ⟨.fallback, [], .any, a⟩] =
      [.wrongStart, .secondOpening 1, .manyFallbacks, .earlyFallback] := by
  rfl

end Chain

namespace LogicTree

/-! ## Trees -/

theorem ofClauses_of_keepsGrammar {cs : List Clause} (h : Chain.KeepsGrammar cs) :
    ∃ t, ofClauses cs = .ok t ∧ t.clauses = cs := by
  have sound := (Chain.violations_eq_nil_iff cs).2 h
  exact ⟨⟨cs, sound⟩, ofClauses_clauses ⟨cs, sound⟩, rfl⟩

theorem ofClauses_of_not_keepsGrammar {cs : List Clause} (h : ¬Chain.KeepsGrammar cs) :
    ofClauses cs = .error (.brokenRules (Chain.violations cs)) := by
  unfold ofClauses
  split
  · next sound => exact absurd ((Chain.violations_eq_nil_iff cs).1 sound) h
  · rfl

theorem keepsGrammar (t : LogicTree) : Chain.KeepsGrammar t.clauses :=
  (Chain.violations_eq_nil_iff t.clauses).1 t.sound

end LogicTree
end IteratedDilemma
