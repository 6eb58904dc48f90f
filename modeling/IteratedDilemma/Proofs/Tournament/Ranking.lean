import Mathlib.Data.List.Perm.Basic
import Mathlib.Algebra.Order.Ring.Rat
import Mathlib.Order.Defs.LinearOrder
import IteratedDilemma.Tournament.Standings

/-! The ranking of strategies. It is what the rules of the standings leave as the only order
(`IsRanking`, `IsRanking.unique`): the higher score first, among equals the earlier creation, and
among equals in both the order in which they were given. Ranking finds it (`ranked_iff`), changes
nothing when it is done again (`IsRanking.ranked_self`), and depends on the order in which strategies
are given only among those with one key (`IsRanking.ranked_perm`). -/
namespace IteratedDilemma
set_option autoImplicit false

/-! ## Keys -/

namespace StandingKey

/-- Of two creations, the first is the earlier one. What is not known is later than anything. -/
def IsBefore : Option Rat → Option Rat → Prop
  | some a, some b => a < b
  | some _, none => True
  | none, _ => False

/-- A key that stands before another, wherever the two are given. -/
def Beats (a b : StandingKey) : Prop :=
  b.score < a.score ∨ a.score = b.score ∧ IsBefore a.created b.created

theorem noLater_iff (a b : Option Rat) : noLater a b = true ↔ IsBefore a b ∨ a = b := by
  rcases a with _ | a <;> rcases b with _ | b
  · simp [noLater]
  · simp [noLater, IsBefore]
  · simp [noLater, IsBefore]
  · simp only [noLater, IsBefore, decide_eq_true_eq, Option.some.injEq]
    exact le_iff_lt_or_eq

theorem le_iff (a b : StandingKey) : a.le b = true ↔ a.Beats b ∨ a = b := by
  obtain ⟨score, created⟩ := a
  obtain ⟨score', created'⟩ := b
  simp only [le, Beats, Bool.or_eq_true, Bool.and_eq_true, decide_eq_true_eq, beq_iff_eq,
    noLater_iff, StandingKey.mk.injEq]
  tauto

theorem IsBefore.trans {a b c : Option Rat} (h : IsBefore a b) (h' : IsBefore b c) :
    IsBefore a c := by
  rcases a with _ | a <;> rcases b with _ | b <;> rcases c with _ | c
  all_goals first
    | trivial
    | exact h.elim
    | exact h'.elim
    | exact lt_trans h h'

theorem IsBefore.irrefl (a : Option Rat) : ¬IsBefore a a := by
  rcases a with _ | a
  · exact id
  · exact lt_irrefl a

theorem isBefore_total (a b : Option Rat) : IsBefore a b ∨ a = b ∨ IsBefore b a := by
  rcases a with _ | a <;> rcases b with _ | b
  · exact .inr (.inl rfl)
  · exact .inr (.inr trivial)
  · exact .inl trivial
  · rcases lt_trichotomy a b with h | rfl | h
    · exact .inl h
    · exact .inr (.inl rfl)
    · exact .inr (.inr h)

theorem Beats.trans {a b c : StandingKey} (h : a.Beats b) (h' : b.Beats c) : a.Beats c := by
  rcases h with less | ⟨same, before⟩ <;> rcases h' with less' | ⟨same', before'⟩
  · exact .inl (lt_trans less' less)
  · exact .inl (same' ▸ less)
  · exact .inl (same ▸ less')
  · exact .inr ⟨same.trans same', before.trans before'⟩

theorem Beats.irrefl (a : StandingKey) : ¬a.Beats a := by
  rintro (less | ⟨-, before⟩)
  · exact lt_irrefl _ less
  · exact IsBefore.irrefl _ before

theorem beats_total (a b : StandingKey) : a.Beats b ∨ a = b ∨ b.Beats a := by
  rcases lt_trichotomy b.score a.score with h | same | h
  · exact .inl (.inl h)
  · rcases isBefore_total a.created b.created with before | equal | after
    · exact .inl (.inr ⟨same.symm, before⟩)
    · refine .inr (.inl ?_)
      cases a
      cases b
      exact StandingKey.mk.injEq .. ▸ ⟨same.symm, equal⟩
    · exact .inr (.inr (.inr ⟨same, after⟩))
  · exact .inr (.inr (.inl h))

theorem le_trans {a b c : StandingKey} (h : a.le b = true) (h' : b.le c = true) :
    a.le c = true := by
  rw [le_iff] at h h' ⊢
  rcases h with beats | rfl
  · rcases h' with beats' | rfl
    · exact .inl (beats.trans beats')
    · exact .inl beats
  · exact h'

theorem le_total (a b : StandingKey) : (a.le b || b.le a) = true := by
  rw [Bool.or_eq_true, le_iff, le_iff]
  rcases beats_total a b with h | h | h
  · exact .inl (.inl h)
  · exact .inl (.inr h)
  · exact .inr (.inl h)

theorem le_antisymm {a b : StandingKey} (h : a.le b = true) (h' : b.le a = true) : a = b := by
  rcases (le_iff a b).1 h with beats | same
  · rcases (le_iff b a).1 h' with beats' | same
    · exact (Beats.irrefl a (beats.trans beats')).elim
    · exact same.symm
  · exact same

end StandingKey

/-! ## Lists with keys -/

/-- A list is determined by the sequence of its keys and by what stands under each of them. -/
theorem eq_of_keys_eq {α κ : Type} [DecidableEq κ] {key : α → κ} {l l' : List α}
    (keys : l.map key = l'.map key)
    (under : ∀ k, l.filter (fun a => key a = k) = l'.filter fun a => key a = k) : l = l' := by
  induction l generalizing l' with
  | nil => exact (List.map_eq_nil_iff.1 keys.symm).symm
  | cons a rest ih =>
    rcases l' with _ | ⟨b, rest'⟩
    · cases keys
    · rw [List.map_cons, List.map_cons, List.cons.injEq] at keys
      obtain ⟨same, keys⟩ := keys
      have first := under (key a)
      rw [List.filter_cons_of_pos (by simp), List.filter_cons_of_pos (by simp [same])] at first
      obtain rfl : a = b := (List.cons.inj first).1
      refine congrArg (a :: ·) (ih keys fun k => ?_)
      have here := under k
      by_cases h : key a = k
      · rw [List.filter_cons_of_pos (by simp [h]), List.filter_cons_of_pos (by simp [h])] at here
        exact (List.cons.inj here).2
      · rwa [List.filter_cons_of_neg (by simp [h]), List.filter_cons_of_neg (by simp [h])] at here

/-! ## The ranking -/

namespace Standings

/-- The strategies with a key, in the order in which they stand in a list. -/
def level (k : StandingKey) (l : List Strategy) : List Strategy :=
  l.filter fun s => StandingKey.of s = k

/-- `r` is the ranking of `l`: each strategy stands there as often as in `l`, none stands behind one
that it beats, and those with one key stand in the order of `l`. -/
structure IsRanking (l r : List Strategy) : Prop where
  perm : r.Perm l
  ordered : r.Pairwise fun s t =>
    (StandingKey.of s).Beats (.of t) ∨ StandingKey.of s = StandingKey.of t
  stable : ∀ k, level k r = level k l

variable {l l' r r' : List Strategy}

theorem IsRanking.sorted (h : IsRanking l r) :
    (r.map StandingKey.of).Pairwise fun a b => a.le b = true := by
  rw [List.pairwise_map]
  exact h.ordered.imp fun ordered => (StandingKey.le_iff _ _).2 ordered

/-- Rankings of the same strategies agree in the keys from place to place. -/
theorem IsRanking.keys_eq (h : IsRanking l r) (h' : IsRanking l' r') (perm : l.Perm l') :
    r.map StandingKey.of = r'.map StandingKey.of :=
  List.Perm.eq_of_pairwise (fun _ _ _ _ => StandingKey.le_antisymm) h.sorted h'.sorted
    ((h.perm.trans (perm.trans h'.perm.symm)).map _)

theorem IsRanking.eq_of_levels (h : IsRanking l r) (h' : IsRanking l' r') (perm : l.Perm l')
    (levels : ∀ k, level k l = level k l') : r = r' := by
  refine eq_of_keys_eq (h.keys_eq h' perm) fun k => ?_
  have here := h.stable k
  rw [levels k, ← h'.stable k] at here
  exact here

theorem IsRanking.unique (h : IsRanking l r) (h' : IsRanking l r') : r = r' :=
  h.eq_of_levels h' (.refl l) fun _ => rfl

/-- A ranking is its own. -/
theorem IsRanking.self (h : IsRanking l r) : IsRanking r r where
  perm := .refl r
  ordered := h.ordered
  stable _ := rfl

theorem sorted_perm (l : List Strategy) : (sorted l).Perm l := List.mergeSort_perm l _

/-- Strategies with one key keep their order: they are a part of the list that is in order already. -/
theorem level_sorted (k : StandingKey) (l : List Strategy) : level k (sorted l) = level k l := by
  have equal : (level k l).Pairwise fun s t => (StandingKey.of s).le (.of t) = true := by
    refine List.pairwise_of_forall_mem_list fun s hs t ht => ?_
    simp only [level, List.mem_filter, decide_eq_true_eq] at hs ht
    exact (StandingKey.le_iff _ _).2 (.inr (hs.2.trans ht.2.symm))
  have there : (level k l).Sublist (sorted l) :=
    List.sublist_mergeSort (by intro _ _ _; exact StandingKey.le_trans)
      (by intro _ _; exact StandingKey.le_total _ _) equal List.filter_sublist
  have kept : (level k (level k l)).Sublist (level k (sorted l)) := there.filter _
  have again : level k (level k l) = level k l := by simp [level]
  have length : (level k (sorted l)).length = (level k l).length :=
    ((sorted_perm l).filter _).length_eq
  rw [again] at kept
  exact (kept.eq_of_length length.symm).symm

theorem isRanking_sorted (l : List Strategy) : IsRanking l (sorted l) where
  perm := sorted_perm l
  ordered := by
    have h : (sorted l).Pairwise fun s t => (StandingKey.of s).le (.of t) = true :=
      List.pairwise_mergeSort (by intro _ _ _; exact StandingKey.le_trans)
        (by intro _ _; exact StandingKey.le_total _ _) l
    exact h.imp fun le => (StandingKey.le_iff _ _).1 le
  stable k := level_sorted k l

theorem ranked_eq_sorted (rankable : ∀ s ∈ l, isRankable s = true) : ranked l = .ok (sorted l) :=
  if_pos (List.all_eq_true.2 rankable)

theorem ranked_iff (rankable : ∀ s ∈ l, isRankable s = true) :
    ranked l = .ok r ↔ IsRanking l r := by
  rw [ranked_eq_sorted rankable]
  constructor
  · intro h
    cases h
    exact isRanking_sorted l
  · intro h
    exact congrArg Except.ok ((isRanking_sorted l).unique h)

/-- A ranking that is ranked stays as it is. -/
theorem IsRanking.ranked_self (h : IsRanking l r) (rankable : ∀ s ∈ l, isRankable s = true) :
    ranked r = .ok r :=
  (ranked_iff fun s hs => rankable s (h.perm.mem_iff.1 hs)).2 h.self

/-- In another order the same strategies have a ranking with the same keys from place to place, and
the same ranking if those with one key are in the same order. -/
theorem IsRanking.ranked_perm (h : IsRanking l r) (rankable : ∀ s ∈ l, isRankable s = true)
    (perm : l'.Perm l) :
    ∃ r', ranked l' = .ok r' ∧ r'.Perm r ∧ r'.map StandingKey.of = r.map StandingKey.of ∧
      ((∀ k, level k l' = level k l) → r' = r) := by
  have other := isRanking_sorted l'
  refine ⟨Standings.sorted l', ranked_eq_sorted fun s hs => rankable s (perm.mem_iff.1 hs), ?_,
    other.keys_eq h perm, other.eq_of_levels h perm⟩
  exact other.perm.trans (perm.trans h.perm.symm)

end Standings
end IteratedDilemma
