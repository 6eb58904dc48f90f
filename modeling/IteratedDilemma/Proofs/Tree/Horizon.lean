import Mathlib.Data.List.Find
import Mathlib.Data.List.MinMax
import IteratedDilemma.Proofs.Tree.Grammar
import IteratedDilemma.Strategy.Builtin

/-! What a tree can tell apart. Its conditions see the last moves of each side, cooperation standing
for those before the first round, and which move is the most common one. Main statement: histories
that agree in the majority and in the moves within the horizon of a tree are answered alike, and no
smaller horizon would do (`LogicTree.decides_within_horizon`). -/
namespace IteratedDilemma
set_option autoImplicit false

namespace History

/-- The last `k` moves, the most recent first. Those before the first round count as cooperation. -/
def recent (h : History) (k : Nat) : List Move :=
  (h ++ List.replicate k Move.cooperate).take k

/-- Two histories with the same last `k` moves, both or neither of which betray for the most
part. -/
structure Alike (k : Nat) (h h' : History) : Prop where
  recent : h.recent k = h'.recent k
  majority : h.count .cooperate < h.count .betray ↔ h'.count .cooperate < h'.count .betray

theorem getElem?_recent (h : History) {i k : Nat} (hi : i < k) :
    (h.recent k)[i]? = some (h.getD i .cooperate) := by
  rw [recent, List.getElem?_take_of_lt hi, List.getD_eq_getElem?_getD]
  by_cases within : i < h.length
  · rw [List.getElem?_append_left within, List.getElem?_eq_getElem within, Option.getD_some]
  · have before := Nat.not_lt.1 within
    rw [List.getElem?_append_right before, List.getElem?_eq_none before,
      List.getElem?_replicate_of_lt (by omega), Option.getD_none]

theorem nth?_succ (h : History) (n : Nat) : h.nth? (n + 1) = some (h.getD n .cooperate) := by
  have back : ¬((n : Int) + 1 < 1) := by omega
  rw [nth?, if_neg back]
  rfl

theorem mostCommon_eq (h : History) :
    h.mostCommon = if h.count .cooperate < h.count .betray then .betray else .cooperate := by
  have rest : h.length - h.count .betray = h.count .cooperate := by
    have both : h.length = h.count .cooperate + h.count .betray := by
      induction h with
      | nil => rfl
      | cons m rest ih => cases m <;> simp [ih] <;> omega
    omega
  rw [mostCommon, rest]

section
variable {k : Nat} {h h' : History}

theorem Alike.getD (alike : Alike k h h') {i : Nat} (hi : i < k) :
    h.getD i .cooperate = h'.getD i .cooperate := by
  have seen : (h.recent k)[i]? = (h'.recent k)[i]? := by rw [alike.recent]
  rw [getElem?_recent h hi, getElem?_recent h' hi] at seen
  exact Option.some.inj seen

theorem Alike.nth? (alike : Alike k h h') {n : Int} (within : n ≤ k) : h.nth? n = h'.nth? n := by
  unfold History.nth?
  split
  · rfl
  · rw [alike.getD (by omega)]

theorem Alike.last (alike : Alike k h h') (some : 1 ≤ k) : h.last = h'.last := by
  have one := alike.nth? (n := 1) (by omega)
  rw [nth?_one, nth?_one] at one
  exact Option.some.inj one

theorem Alike.mostCommon (alike : Alike k h h') : h.mostCommon = h'.mostCommon := by
  rw [mostCommon_eq, mostCommon_eq, if_congr alike.majority rfl rfl]

end

end History

/-! ## Horizons -/

/-- The place that a condition looks up, if it counts rounds back. -/
def Condition.place? (c : Condition) : Option Nat :=
  match c.kind with
  | .known ⟨_, .nth⟩ => some c.n.toNat
  | _ => none

/-- How many moves of each side the conditions of a tree may look up: the greatest place that one of
them does, and at least 1. -/
def LogicTree.horizon (t : LogicTree) : Nat :=
  ((t.clauses.flatMap Clause.conditions).filterMap Condition.place?).foldr max 1

theorem LogicTree.one_le_horizon (t : LogicTree) : 1 ≤ t.horizon := by
  unfold horizon
  induction (t.clauses.flatMap Clause.conditions).filterMap Condition.place? with
  | nil => exact Nat.le_refl 1
  | cons n rest ih => exact Nat.le_trans ih (Nat.le_max_right _ _)

theorem LogicTree.place_le_horizon {t : LogicTree} {c : Clause} (hc : c ∈ t.clauses)
    {d : Condition} (hd : d ∈ c.conditions) {n : Nat} (place : d.place? = some n) :
    n ≤ t.horizon :=
  List.le_max_of_le' 1
    (List.mem_filterMap.2 ⟨d, List.mem_flatMap.2 ⟨c, hc, hd⟩, place⟩) (Nat.le_refl n)

/-! ## Answers -/

section
variable {own own' opponent opponent' : History} {k : Nat}

theorem KnownKind.find?_alike (ho : own.Alike k own') (hp : opponent.Alike k opponent')
    (some : 1 ≤ k) {kind : KnownKind} {n : Int} (within : kind.lookup = .nth → n ≤ k) :
    kind.find? n own opponent = kind.find? n own' opponent' := by
  obtain ⟨subject, lookup⟩ := kind
  cases subject with
  | opponent =>
    cases lookup with
    | last => exact congrArg Option.some (hp.last some)
    | nth => exact hp.nth? (within rfl)
    | mostCommon => exact congrArg Option.some hp.mostCommon
  | own =>
    cases lookup with
    | last => exact congrArg Option.some (ho.last some)
    | nth => exact ho.nth? (within rfl)
    | mostCommon => exact congrArg Option.some ho.mostCommon

theorem Condition.holds_alike (ho : own.Alike k own') (hp : opponent.Alike k opponent')
    (some : 1 ≤ k) {c : Condition} (within : ∀ n ∈ c.place?, n ≤ k) :
    c.holds own opponent = c.holds own' opponent' := by
  obtain ⟨kind, n, target⟩ := c
  cases kind with
  | unknown name unlisted => rfl
  | known kind =>
    have near : kind.lookup = .nth → n ≤ k := by
      obtain ⟨subject, lookup⟩ := kind
      rintro rfl
      exact Int.toNat_le.1 (within n.toNat rfl)
    exact congrArg (· == Option.some target) (KnownKind.find?_alike ho hp some near)

/-- Whether a clause is met depends on its conditions only. -/
theorem Clause.isMet_congr {c : Clause}
    (each : ∀ d ∈ c.conditions, d.holds own opponent = d.holds own' opponent') :
    c.isMet own opponent = c.isMet own' opponent' := by
  have all : (c.conditions.all fun d => d.holds own opponent) =
      c.conditions.all fun d => d.holds own' opponent' := by
    rw [Bool.eq_iff_iff, List.all_eq_true, List.all_eq_true]
    exact forall₂_congr fun d hd => by rw [each d hd]
  have any : (c.conditions.any fun d => d.holds own opponent) =
      c.conditions.any fun d => d.holds own' opponent' := by
    rw [Bool.eq_iff_iff, List.any_eq_true, List.any_eq_true]
    exact exists_congr fun d => and_congr_right fun hd => by rw [each d hd]
  unfold isMet
  rw [all, any]

theorem Chain.firstMet?_congr {cs : List Clause}
    (each : ∀ c ∈ cs, c.isMet own opponent = c.isMet own' opponent') :
    firstMet? cs own opponent = firstMet? cs own' opponent' := by
  unfold firstMet?
  induction cs with
  | nil => rfl
  | cons c rest ih =>
    rw [List.findIdx?_cons, List.findIdx?_cons, each c List.mem_cons_self,
      ih fun d hd => each d (List.mem_cons_of_mem _ hd)]

theorem Chain.action_congr {cs : List Clause}
    (each : ∀ c ∈ cs, c.isMet own opponent = c.isMet own' opponent') :
    action cs own opponent = action cs own' opponent' := by
  rw [action, action, List.find?_congr each]

/-- A fallback decides when the only other clause does not. -/
theorem Chain.action_or_fallback (c : Clause) {d : Clause} (fallback : d.role = .fallback) :
    action [c, d] own opponent = if c.isMet own opponent then c.action else d.action := by
  rw [action, List.find?_cons, List.find?_cons, isMet_of_fallback own opponent fallback]
  cases c.isMet own opponent <;> rfl

end

namespace LogicTree

/-- Betrays if the opponent betrayed in a certain round of the past, and else cooperates. -/
def vengeful (n : Nat) : LogicTree where
  clauses := [⟨.opening, [⟨.known ⟨.opponent, .nth⟩, n + 1, .betray⟩], .all, .play .betray⟩]
  sound := by
    have back : 1 ≤ (n : Int) + 1 := by omega
    exact (Chain.violations_eq_nil_iff _).2 ⟨⟨[], rfl, Chain.isSequel_nil⟩,
      List.forall_mem_singleton.2 (List.forall_mem_singleton.2 back)⟩

theorem horizon_vengeful (n : Nat) : (vengeful n).horizon = n + 1 := by
  have place : ((n : Int) + 1).toNat = n + 1 := rfl
  change max ((n : Int) + 1).toNat 1 = n + 1
  omega

/-- A betrayal just beyond the last `k` moves, when cooperation is no less common. -/
theorem alike_nil (k : Nat) :
    History.Alike k (List.replicate k .cooperate ++ [.betray, .cooperate]) [] where
  recent := by simp [History.recent]
  majority := by
    have loyal : (List.replicate k Move.cooperate).count .betray = 0 :=
      List.count_eq_zero.2 fun h => Move.noConfusion (List.eq_of_mem_replicate h)
    simp [loyal]

theorem decide_vengeful (n : Nat) (own opponent : History) (source : RandomSource) :
    (vengeful n).decide own opponent source = (opponent.getD n .cooperate, source) := by
  have looked := opponent.nth?_succ n
  cases seen : opponent.getD n .cooperate <;> rw [seen] at looked <;>
    simp [decide, vengeful, Chain.action, Clause.isMet, Condition.holds, KnownKind.find?, looked,
      Action.resolve]

/-- Histories that agree in the majority and in the last moves, as many as the horizon of a tree,
have the same deciding clause, the same move and the same draws. There are trees of every horizon
for which one move less is not enough. -/
theorem decides_within_horizon :
    (∀ (t : LogicTree) {own own' opponent opponent' : History}, own.Alike t.horizon own' →
      opponent.Alike t.horizon opponent' →
      t.deciding? own opponent = t.deciding? own' opponent' ∧
      ∀ source, t.decide own opponent source = t.decide own' opponent' source) ∧
    ∀ k, ∃ t : LogicTree, t.horizon = k + 1 ∧ ∃ opponent opponent' : History,
      opponent.Alike k opponent' ∧
      ∀ own source, (t.decide own opponent source).1 ≠ (t.decide own opponent' source).1 := by
  refine ⟨fun t own own' opponent opponent' ho hp => ?_, fun k => ?_⟩
  · have each : ∀ c ∈ t.clauses, c.isMet own opponent = c.isMet own' opponent' := fun c hc =>
      Clause.isMet_congr fun d hd => Condition.holds_alike ho hp t.one_le_horizon
        fun n place => place_le_horizon hc hd place
    refine ⟨Chain.firstMet?_congr each, fun source => ?_⟩
    rw [decide, decide, Chain.action_congr each]
  · refine ⟨vengeful k, horizon_vengeful k, _, _, alike_nil k, fun own source => ?_⟩
    rw [decide_vengeful, decide_vengeful]
    simp

/-- Histories of different lengths that a grudge of three rounds cannot tell apart. -/
theorem decides_within_horizon_grudge :
    let t := Builtin.grudgerTree 4
    let short : History := [.cooperate, .betray]
    let long : History := [.cooperate, .betray, .cooperate, .betray, .betray, .cooperate]
    t.horizon = 3 ∧ History.Alike 3 [] [.cooperate] ∧ short.Alike 3 long ∧
    t.deciding? [] short = some 0 ∧ t.deciding? [.cooperate] long = some 0 ∧
    ∀ source, t.decide [] short source = t.decide [.cooperate] long source := by
  intro t short long
  have horizon : t.horizon = 3 := by decide
  have own : History.Alike t.horizon [] [.cooperate] := ⟨by decide, by decide⟩
  have opponent : short.Alike t.horizon long := ⟨by decide, by decide⟩
  have first : t.deciding? [] short = some 0 := by decide
  obtain ⟨same, answer⟩ :=
    decides_within_horizon.1 t own opponent
  exact ⟨horizon, horizon ▸ own, horizon ▸ opponent, first, same ▸ first, answer⟩

end LogicTree
end IteratedDilemma
