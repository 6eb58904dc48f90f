import Mathlib.Algebra.BigOperators.Group.List.Basic
import Mathlib.Algebra.Ring.Int.Defs
import Mathlib.Data.List.Nodup
import Mathlib.Tactic.Ring
import IteratedDilemma.Proofs.Match.Mirror
import IteratedDilemma.Tournament.Pass

/-! Who meets whom. The fixtures of a pass are between two different entrants, no two of whom have
one identifier (`roundRobin_isAmong`, `challenge_isAmong`). What an entrant without random actions
wins against all others is the same in every order of the entrants (`won_perm`): the sum over all
entrants, itself left out (`won_eq_share`). -/
namespace IteratedDilemma
set_option autoImplicit false

/-- Strategies of which no two have one identifier. -/
def Distinct (strategies : List Strategy) : Prop := (strategies.map Strategy.key).Nodup

theorem Distinct.eq_of_key {strategies : List Strategy} (h : Distinct strategies) {s t : Strategy}
    (hs : s ∈ strategies) (ht : t ∈ strategies) (e : s.key = t.key) : s = t :=
  List.inj_on_of_nodup_map h hs ht e

theorem Distinct.perm {strategies others : List Strategy} (h : Distinct strategies)
    (p : strategies.Perm others) : Distinct others :=
  (p.map Strategy.key).nodup_iff.1 h

theorem distinct_cons_iff {new : Strategy} {others : List Strategy} :
    Distinct (new :: others) ↔ (∀ t ∈ others, t.key ≠ new.key) ∧ Distinct others := by
  rw [Distinct, List.map_cons, List.nodup_cons, ← List.forall_mem_ne', List.forall_mem_map]
  rfl

/-! ## Fixtures -/

/-- A fixture between two different entrants. -/
structure Fixture.IsAmong (f : Fixture) (entrants : List Strategy) : Prop where
  first : f.first ∈ entrants
  second : f.second ∈ entrants
  apart : f.first.key ≠ f.second.key

namespace Schedule

theorem sides_numbered (pairs : List (Strategy × Strategy)) :
    (numbered pairs).map (fun f => (f.first, f.second)) = pairs := by
  rw [numbered]
  refine List.ext_getElem (by simp) fun i h h' => ?_
  simp

theorem mem_of_mem_numbered {pairs : List (Strategy × Strategy)} {f : Fixture}
    (h : f ∈ numbered pairs) : (f.first, f.second) ∈ pairs := by
  have := List.mem_map_of_mem (f := fun f : Fixture => (f.first, f.second)) h
  rwa [sides_numbered] at this

theorem length_pairs {α : Type} (l : List α) :
    ((pairs l).length : Int) = totalMatches l.length := by
  have twice : (2 : Int) * (pairs l).length = l.length * (l.length - 1) := by
    induction l with
    | nil => rfl
    | cons x rest ih =>
      rw [pairs, List.length_append, List.length_map, List.length_cons, Nat.cast_add, mul_add, ih]
      push_cast
      ring
  rw [totalMatches]
  split
  · next few =>
    obtain zero | one : l.length = 0 ∨ l.length = 1 := by omega
    · rw [zero] at twice
      omega
    · rw [one] at twice
      omega
  · exact (Int.ediv_eq_of_eq_mul_right (by omega) twice.symm).symm

theorem pairs_mem {α : Type} {l : List α} {a b : α} (h : (a, b) ∈ pairs l) : a ∈ l ∧ b ∈ l := by
  induction l with
  | nil => cases h
  | cons x rest ih =>
    rcases List.mem_append.1 h with h | h
    · obtain ⟨y, hy, e⟩ := List.mem_map.1 h
      cases e
      exact ⟨List.mem_cons_self, List.mem_cons_of_mem _ hy⟩
    · exact ⟨List.mem_cons_of_mem _ (ih h).1, List.mem_cons_of_mem _ (ih h).2⟩

theorem pairs_apart {α κ : Type} {key : α → κ} {l : List α} (distinct : (l.map key).Nodup)
    {a b : α} (h : (a, b) ∈ pairs l) : key a ≠ key b := by
  induction l with
  | nil => cases h
  | cons x rest ih =>
    obtain ⟨apart, distinct⟩ := List.nodup_cons.1 distinct
    rcases List.mem_append.1 h with h | h
    · obtain ⟨y, hy, e⟩ := List.mem_map.1 h
      cases e
      intro same
      exact apart (same ▸ List.mem_map_of_mem hy)
    · exact ih distinct h

theorem roundRobin_isAmong {l : List Strategy} (distinct : Distinct l) {f : Fixture}
    (h : f ∈ roundRobin l) : f.IsAmong l where
  first := (pairs_mem (mem_of_mem_numbered h)).1
  second := (pairs_mem (mem_of_mem_numbered h)).2
  apart := pairs_apart distinct (mem_of_mem_numbered h)

/-- A new strategy and those of other identifiers. -/
def entrants (new : Strategy) (existing : List Strategy) : List Strategy :=
  new :: existing.filter fun s => s.key ≠ new.key

theorem entrants_distinct {existing : List Strategy} (new : Strategy)
    (distinct : Distinct existing) : Distinct (entrants new existing) := by
  refine List.nodup_cons.2 ⟨fun h => ?_, (List.filter_sublist.map _).nodup distinct⟩
  obtain ⟨s, hs, e⟩ := List.mem_map.1 h
  exact of_decide_eq_true (List.mem_filter.1 hs).2 e

theorem challenge_isAmong {new : Strategy} {existing : List Strategy} {f : Fixture}
    (h : f ∈ challenge new existing) : f.IsAmong (entrants new existing) := by
  obtain ⟨s, hs, e⟩ := List.mem_map.1 (mem_of_mem_numbered h)
  obtain ⟨first, second⟩ := Prod.mk.inj e
  have apart : s.key ≠ new.key := of_decide_eq_true (List.mem_filter.1 hs).2
  exact {
    first := first ▸ List.mem_cons_self
    second := second ▸ List.mem_cons_of_mem _ hs
    apart := by rw [← first, ← second]; exact apart.symm }

end Schedule

/-! ## Rosters -/

namespace Pass

/-- The pass with a strategy made ready, unless something is ready under its identifier. -/
def readied (p : Pass) (s : Strategy) : Pass :=
  match p.ready? s with
  | some _ => p
  | none => p.enlist s

/-- The pass with both strategies of a fixture made ready. -/
def prepared (p : Pass) (f : Fixture) : Pass :=
  (p.readied f.first).readied f.second

theorem readied_eq (p : Pass) (s : Strategy) :
    ∃ roster, p.readied s = { p with roster } ∧ (roster = p.roster ∨ roster = p.roster ++ [s]) := by
  unfold readied
  cases p.ready? s with
  | some _ => exact ⟨p.roster, rfl, .inl rfl⟩
  | none => exact ⟨p.roster ++ [s], rfl, .inr rfl⟩

theorem prepared_eq (p : Pass) (f : Fixture) :
    ∃ added, p.prepared f = { p with roster := p.roster ++ added } ∧
      ∀ s ∈ added, s = f.first ∨ s = f.second := by
  obtain ⟨roster, h1, c1⟩ := p.readied_eq f.first
  obtain ⟨roster', h2, c2⟩ := (p.readied f.first).readied_eq f.second
  rw [h1] at c2
  rw [prepared, h2, h1]
  rcases c1 with rfl | rfl <;> rcases c2 with rfl | rfl
  · exact ⟨[], by rw [List.append_nil], by simp⟩
  · exact ⟨[f.second], rfl, by simp⟩
  · exact ⟨[f.first], rfl, by simp⟩
  · exact ⟨[f.first, f.second], by rw [List.append_assoc]; rfl, by simp⟩

@[simp] theorem prepared_deltas (p : Pass) (f : Fixture) : (p.prepared f).deltas = p.deltas := by
  obtain ⟨_, h, -⟩ := p.prepared_eq f
  rw [h]

@[simp] theorem prepared_records (p : Pass) (f : Fixture) :
    (p.prepared f).records = p.records := by
  obtain ⟨_, h, -⟩ := p.prepared_eq f
  rw [h]

/-- What has been made ready under the identifier of a strategy, or the strategy itself. -/
def player (p : Pass) (s : Strategy) : Strategy := (p.ready? s).getD s

theorem roster_prepared {p : Pass} {f : Fixture} {entrants : List Strategy}
    (h : f.IsAmong entrants) (roster : ∀ r ∈ p.roster, r ∈ entrants) :
    ∀ r ∈ (p.prepared f).roster, r ∈ entrants := by
  obtain ⟨added, e, news⟩ := p.prepared_eq f
  rw [e]
  intro r hr
  rcases List.mem_append.1 hr with hr | hr
  · exact roster r hr
  · rcases news r hr with rfl | rfl
    · exact h.first
    · exact h.second

/-- An entrant is played by itself, if only entrants have been made ready. -/
theorem player_eq {p : Pass} {entrants : List Strategy} (distinct : Distinct entrants)
    (roster : ∀ r ∈ p.roster, r ∈ entrants) {s : Strategy} (hs : s ∈ entrants) :
    p.player s = s := by
  unfold player
  cases found : p.ready? s with
  | none => rfl
  | some r =>
    have hr := roster r (List.mem_of_find?_eq_some found)
    have same : r.key = s.key := by simpa using List.find?_some found
    exact distinct.eq_of_key hr hs same

end Pass

/-! ## What everybody wins -/

namespace Tournament

/-- The points of the first of two trees in a match without random moves. -/
def points (rounds : Nat) (first second : LogicTree) : Int :=
  (first.meeting second rounds).score1

/-- The points that go to an identifier in a match between two strategies. -/
def pointsTo (rounds : Nat) (id : Json) (s t : Strategy) : Int :=
  (if s.id.same id then points rounds s.tree t.tree else 0) +
    (if t.id.same id then points rounds t.tree s.tree else 0)

theorem pointsTo_comm (rounds : Nat) (id : Json) (s t : Strategy) :
    pointsTo rounds id s t = pointsTo rounds id t s :=
  Int.add_comm _ _

/-- The points that go to an identifier when all of some strategies meet each other. -/
def won (rounds : Nat) (id : Json) (strategies : List Strategy) : Int :=
  ((Schedule.pairs strategies).map fun pair => pointsTo rounds id pair.1 pair.2).sum

variable {rounds : Nat} {id : Json}

theorem won_cons (s : Strategy) (rest : List Strategy) :
    won rounds id (s :: rest) = (rest.map (pointsTo rounds id s)).sum + won rounds id rest := by
  rw [won, Schedule.pairs, List.map_append, List.sum_append, List.map_map]
  rfl

/-- The order of the strategies does not matter, since both sides of a match win the same points
when they are exchanged. -/
theorem won_perm {l l' : List Strategy} (h : l.Perm l') : won rounds id l = won rounds id l' := by
  induction h with
  | nil => rfl
  | cons s h ih => rw [won_cons, won_cons, ih, (h.map _).sum_eq]
  | swap s t l =>
    rw [won_cons, won_cons, won_cons, won_cons, List.map_cons, List.map_cons, List.sum_cons,
      List.sum_cons, pointsTo_comm rounds id t s]
    omega
  | trans _ _ ih ih' => exact ih.trans ih'

theorem won_concat (l : List Strategy) (new : Strategy) :
    won rounds id (l ++ [new]) = won rounds id l + (l.map (pointsTo rounds id new)).sum := by
  rw [won_perm (List.perm_append_singleton new l), won_cons]
  exact Int.add_comm _ _

theorem won_of_absent {l : List Strategy} (h : ∀ s ∈ l, s.id.same id = false) :
    won rounds id l = 0 := by
  induction l with
  | nil => rfl
  | cons s rest ih =>
    have none : ∀ t ∈ rest, pointsTo rounds id s t = 0 := fun t ht => by
      rw [pointsTo, h s List.mem_cons_self, h t (List.mem_cons_of_mem _ ht)]
      rfl
    rw [won_cons, ih fun t ht => h t (List.mem_cons_of_mem _ ht), List.map_congr_left none]
    simp

/-- What a tree wins against each of some trees, less what it wins against itself. -/
def share (rounds : Nat) (trees : List LogicTree) (t : LogicTree) : Int :=
  (trees.map (points rounds t)).sum - points rounds t t

theorem share_perm {trees trees' : List LogicTree} (h : trees.Perm trees') (t : LogicTree) :
    share rounds trees t = share rounds trees' t := by
  rw [share, share, (h.map _).sum_eq]

/-- An entrant wins what its tree wins against the trees of all others. -/
theorem won_eq_share {l : List Strategy} (distinct : Distinct l) {s : Strategy} (hs : s ∈ l) :
    won rounds s.id l = share rounds (l.map Strategy.tree) s.tree := by
  obtain ⟨before, after, rfl⟩ := List.append_of_mem hs
  have moved : (before ++ s :: after).Perm (s :: (before ++ after)) := List.perm_middle
  obtain ⟨apart, -⟩ := List.nodup_cons.1 (distinct.perm moved)
  have others : ∀ t ∈ before ++ after, t.id.same s.id = false := fun t ht =>
    decide_eq_false fun e => apart (List.mem_map.2 ⟨t, ht, e⟩)
  have each : ∀ t ∈ before ++ after, pointsTo rounds s.id s t = points rounds s.tree t.tree :=
    fun t ht => by
      rw [pointsTo, others t ht, if_pos (by simp [Json.same])]
      exact Int.add_zero _
  rw [won_perm moved, won_cons, won_of_absent others, List.map_congr_left each,
    share_perm (moved.map Strategy.tree), share, List.map_cons, List.map_cons, List.sum_cons,
    List.map_map]
  change _ = points rounds s.tree s.tree + _ - _
  have e : ((before ++ after).map fun t => points rounds s.tree t.tree) =
      (before ++ after).map (points rounds s.tree ∘ Strategy.tree) := rfl
  rw [e]
  omega

end Tournament
end IteratedDilemma
