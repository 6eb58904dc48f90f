import Mathlib.Logic.Relation
import IteratedDilemma.Proofs.Tree.FirstMatch
import IteratedDilemma.Proofs.Tree.Horizon

/-! Simplifications of chains: conditions that add nothing to their clause, clauses that never win,
and a fallback that does what happens anyway. Each leaves the answer of a chain alone on all
histories (`Chain.Simplifies.action`), and so does any number of them, there or back. Main
statement: trees that can be simplified into each other play alike
(`LogicTree.simplifications_preserve_play`). -/
namespace IteratedDilemma
set_option autoImplicit false

/-! ## Conditions -/

/-- A condition on the last move in other words: it is the move one round ago. -/
inductive Condition.Rephrases : Condition → Condition → Prop where
  | last (subject : Subject) (n : Int) (target : Move) :
      Rephrases ⟨.known ⟨subject, .last⟩, n, target⟩ ⟨.known ⟨subject, .nth⟩, 1, target⟩

theorem Condition.Rephrases.holds {d d' : Condition} (h : d.Rephrases d')
    (own opponent : History) : d.holds own opponent = d'.holds own opponent := by
  obtain ⟨subject, n, target⟩ := h
  cases subject with
  | opponent => exact congrArg (· == some target) opponent.nth?_one.symm
  | own => exact congrArg (· == some target) own.nth?_one.symm

/-! ## Clauses -/

namespace Clause

/-- A clause with its conditions in another order, with one of them repeated or rephrased, without
one of several that can never hold, or with another mode or other conditions where these do not
count. -/
inductive Simplifies : Clause → Clause → Prop where
  | reorder {role : Role} {conditions conditions' : List Condition} {mode : MatchMode}
      {action : Action} (same : conditions.Perm conditions') :
      Simplifies ⟨role, conditions, mode, action⟩ ⟨role, conditions', mode, action⟩
  | repeated {role : Role} {before after : List Condition} {mode : MatchMode} {action : Action}
      {d : Condition} (there : d ∈ before ++ after) :
      Simplifies ⟨role, before ++ after, mode, action⟩ ⟨role, before ++ d :: after, mode, action⟩
  | rephrase {role : Role} {before after : List Condition} {mode : MatchMode} {action : Action}
      {d d' : Condition} (same : d.Rephrases d') :
      Simplifies ⟨role, before ++ d :: after, mode, action⟩
        ⟨role, before ++ d' :: after, mode, action⟩
  | switch {role : Role} {conditions : List Condition} {action : Action}
      (few : conditions.length ≤ 1 ∨ role = .fallback) (mode mode' : MatchMode) :
      Simplifies ⟨role, conditions, mode, action⟩ ⟨role, conditions, mode', action⟩
  | withoutUnknown {role : Role} {before after : List Condition} {action : Action} {d : Condition}
      (unknown : d.kind.isKnown = false) :
      Simplifies ⟨role, before ++ d :: after, .any, action⟩ ⟨role, before ++ after, .any, action⟩
  | unasked (conditions conditions' : List Condition) (mode : MatchMode) (action : Action) :
      Simplifies ⟨.fallback, conditions, mode, action⟩ ⟨.fallback, conditions', mode, action⟩

variable {c c' : Clause} {own opponent : History}

theorem Simplifies.action (h : c.Simplifies c') : c.action = c'.action := by
  cases h <;> rfl

/-- Clauses of one role and mode are met alike if there are the same conditions to be met, up to
some that do not count for the mode. -/
theorem isSatisfied_congr {role : Role} {conditions conditions' : List Condition}
    {mode : MatchMode} {action : Action} (some : conditions = [] ↔ conditions' = [])
    (all : (∀ d ∈ conditions, d.holds own opponent = true) ↔
      ∀ d ∈ conditions', d.holds own opponent = true)
    (any : (∃ d ∈ conditions, d.holds own opponent = true) ↔
      ∃ d ∈ conditions', d.holds own opponent = true) :
    IsSatisfied ⟨role, conditions, mode, action⟩ own opponent ↔
      IsSatisfied ⟨role, conditions', mode, action⟩ own opponent := by
  refine or_congr Iff.rfl (and_congr (not_congr some) ?_)
  cases mode with
  | all => exact all
  | any => exact any

/-- In a clause of the mode `any` it does not matter whether there are conditions at all. -/
theorem isSatisfied_any {role : Role} {conditions : List Condition} {action : Action} :
    IsSatisfied ⟨role, conditions, .any, action⟩ own opponent ↔
      role = .fallback ∨ ∃ d ∈ conditions, d.holds own opponent = true := by
  refine or_congr Iff.rfl ⟨fun h => h.2, fun ⟨d, hd, holds⟩ => ⟨?_, d, hd, holds⟩⟩
  exact List.ne_nil_of_mem hd

/-- One condition is met whatever the mode. -/
theorem isSatisfied_singleton {role : Role} {d : Condition} {mode : MatchMode} {action : Action} :
    IsSatisfied ⟨role, [d], mode, action⟩ own opponent ↔
      role = .fallback ∨ d.holds own opponent = true := by
  refine or_congr Iff.rfl ((and_iff_right (List.cons_ne_nil d [])).trans ?_)
  cases mode with
  | all => exact List.forall_mem_singleton
  | any =>
    constructor
    · rintro ⟨e, he, holds⟩
      exact List.mem_singleton.1 he ▸ holds
    · exact fun holds => ⟨d, List.mem_singleton_self d, holds⟩

theorem Simplifies.isSatisfied (h : c.Simplifies c') :
    c.IsSatisfied own opponent ↔ c'.IsSatisfied own opponent := by
  cases h with
  | reorder same =>
    refine isSatisfied_congr ⟨fun e => ?_, fun e => ?_⟩ ?_ ?_
    · exact (e ▸ same).nil_eq.symm
    · exact (e ▸ same).eq_nil
    · exact forall_congr' fun d => by rw [same.mem_iff]
    · exact exists_congr fun d => by rw [same.mem_iff]
  | @repeated role before after mode action d there =>
    have members (e : Condition) : e ∈ before ++ d :: after ↔ e ∈ before ++ after := by
      rw [List.mem_append, List.mem_cons, or_left_comm, ← List.mem_append, or_iff_right_iff_imp]
      rintro rfl
      exact there
    refine isSatisfied_congr (iff_of_false (List.ne_nil_of_mem there) ?_) ?_ ?_
    · exact List.ne_nil_of_mem ((members d).2 there)
    · exact forall_congr' fun e => by rw [members]
    · exact exists_congr fun e => by rw [members]
  | @rephrase role before after mode action d d' same =>
    have holds := same.holds own opponent
    refine isSatisfied_congr (iff_of_false (by simp) (by simp)) ?_ ?_
    · simp only [List.forall_mem_append, List.forall_mem_cons, holds]
    · simp only [List.mem_append, List.mem_cons, or_and_right, exists_or, exists_eq_left, holds]
  | @switch role conditions action few mode mode' =>
    rcases few with few | rfl
    · match conditions, few with
      | [], _ => exact or_congr Iff.rfl (iff_of_false (fun h => h.1 rfl) fun h => h.1 rfl)
      | [d], _ => rw [isSatisfied_singleton, isSatisfied_singleton]
    · exact iff_of_true (.inl rfl) (.inl rfl)
  | @withoutUnknown role before after action d unknown =>
    have never := Condition.holds_unknown unknown own opponent
    rw [isSatisfied_any, isSatisfied_any]
    simp only [List.mem_append, List.mem_cons, or_and_right, exists_or, exists_eq_left, never,
      Bool.false_eq_true, false_or]
  | unasked => exact iff_of_true (.inl rfl) (.inl rfl)

theorem Simplifies.isMet (h : c.Simplifies c') : c.isMet own opponent = c'.isMet own opponent := by
  rw [Bool.eq_iff_iff, isMet_iff, isMet_iff]
  exact h.isSatisfied

/-- An alternative that never wins behind these clauses: one without conditions, one that asks for
all of its conditions although one can never hold, or one that asks for the same as a clause
before. -/
inductive IsIdle (before : List Clause) : Clause → Prop where
  | empty (mode : MatchMode) (action : Action) : IsIdle before ⟨.alternative, [], mode, action⟩
  | impossible {conditions : List Condition} {d : Condition} (there : d ∈ conditions)
      (unknown : d.kind.isKnown = false) (action : Action) :
      IsIdle before ⟨.alternative, conditions, .all, action⟩
  | covered {earlier : Clause} (there : earlier ∈ before) (action : Action) :
      IsIdle before ⟨.alternative, earlier.conditions, earlier.mode, action⟩

/-- An idle clause is only satisfied where a clause before it is, too. -/
theorem IsIdle.exists_earlier {before : List Clause} (idle : c.IsIdle before)
    (h : c.IsSatisfied own opponent) : ∃ earlier ∈ before, earlier.IsSatisfied own opponent := by
  cases idle with
  | empty mode action => exact absurd rfl (h.resolve_left Role.noConfusion).1
  | impossible there unknown action =>
    have holds := (h.resolve_left Role.noConfusion).2 _ there
    rw [Condition.holds_unknown unknown] at holds
    cases holds
  | @covered earlier there action => exact ⟨earlier, there, .inr (h.resolve_left Role.noConfusion)⟩

end Clause

/-! ## Chains -/

namespace Chain

/-- A chain with one of its clauses simplified, without an idle one, or with a fallback at its end
that cooperates. -/
inductive Simplifies : List Clause → List Clause → Prop where
  | clause {c c' : Clause} (before after : List Clause) (h : c.Simplifies c') :
      Simplifies (before ++ c :: after) (before ++ c' :: after)
  | withoutIdle (before : List Clause) {c : Clause} (idle : c.IsIdle before)
      (after : List Clause) : Simplifies (before ++ c :: after) (before ++ after)
  | withFallback (clauses : List Clause) (conditions : List Condition) (mode : MatchMode) :
      Simplifies clauses (clauses ++ [⟨.fallback, conditions, mode, .play .cooperate⟩])

variable {own opponent : History}

theorem action_cons (c : Clause) (rest : List Clause) :
    action (c :: rest) own opponent =
      if c.isMet own opponent then c.action else action rest own opponent := by
  rw [action, List.find?_cons]
  cases c.isMet own opponent <;> rfl

/-- What stands behind some clauses counts only where none of these is met. -/
theorem action_append {before after after' : List Clause}
    (h : (∀ c ∈ before, c.isMet own opponent = false) →
      action after own opponent = action after' own opponent) :
    action (before ++ after) own opponent = action (before ++ after') own opponent := by
  induction before with
  | nil => exact h fun c hc => absurd hc List.not_mem_nil
  | cons c rest ih =>
    rw [List.cons_append, List.cons_append, action_cons, action_cons]
    cases met : c.isMet own opponent with
    | true => rfl
    | false => exact ih fun none => h (List.forall_mem_cons.2 ⟨met, none⟩)

/-- A simplification leaves the answer of a chain alone. -/
theorem Simplifies.action {clauses clauses' : List Clause} (h : Simplifies clauses clauses') :
    Chain.action clauses own opponent = Chain.action clauses' own opponent := by
  cases h with
  | @clause c c' before after h =>
    refine action_append fun _ => ?_
    rw [action_cons, action_cons, h.isMet, h.action]
  | @withoutIdle before c idle after =>
    refine action_append fun none => ?_
    have unmet : c.isMet own opponent = false := by
      rw [Clause.isMet_eq_false_iff]
      intro satisfied
      obtain ⟨earlier, there, also⟩ := idle.exists_earlier satisfied
      exact Clause.isMet_eq_false_iff.1 (none earlier there) also
    rw [action_cons, unmet]
    rfl
  | withFallback _ conditions mode =>
    have nothing := @action_append own opponent clauses []
      [⟨.fallback, conditions, mode, .play .cooperate⟩] fun _ => rfl
    rwa [List.append_nil] at nothing

/-- So does any number of simplifications, whichever way they are made. -/
theorem action_of_simplifies {clauses clauses' : List Clause}
    (h : Relation.EqvGen Simplifies clauses clauses') :
    action clauses own opponent = action clauses' own opponent := by
  induction h with
  | rel _ _ h => exact h.action
  | refl _ => rfl
  | symm _ _ _ ih => exact ih.symm
  | trans _ _ _ _ _ ih ih' => exact ih.trans ih'

end Chain

/-! ## Trees -/

namespace LogicTree

theorem gambles_eq (t : LogicTree) (own opponent : History) :
    t.gambles own opponent = Decidable.decide (Chain.action t.clauses own opponent = .random) := by
  rw [gambles, Chain.action, find?_eq_winner?]
  cases t.winner? own opponent <;> rfl

/-- Trees that any number of simplifications turns into each other, there or back and through
whatever chains, decide alike: on all histories and from every source of random numbers they make
the same move and leave the same source, as both leave the move to chance or neither does. So nobody
can tell them apart in a match, on either side. -/
theorem simplifications_preserve_play {t t' : LogicTree}
    (h : Relation.EqvGen Chain.Simplifies t.clauses t'.clauses) :
    (∀ (own opponent : History) (source : RandomSource),
      t.decide own opponent source = t'.decide own opponent source ∧
      t.gambles own opponent = t'.gambles own opponent) ∧
    ∀ (opponent : Decision Attempt) (rounds : Json),
      Match.simulate t.decision.lifted opponent rounds =
        Match.simulate t'.decision.lifted opponent rounds ∧
      Match.simulate opponent t.decision.lifted rounds =
        Match.simulate opponent t'.decision.lifted rounds := by
  have action (own opponent : History) :
      Chain.action t.clauses own opponent = Chain.action t'.clauses own opponent :=
    Chain.action_of_simplifies h
  have same : t.decide = t'.decide := by
    funext own opponent source
    rw [decide, decide, action]
  have player : t.decision = t'.decision := same
  refine ⟨fun own opponent source => ⟨by rw [same], ?_⟩, fun opponent rounds => ?_⟩
  · rw [gambles_eq, gambles_eq, action]
  · rw [player]
    exact ⟨rfl, rfl⟩

/-- A condition of a kind that is not known. -/
def moonlit : Condition := ⟨.ofName "moon", 1, .cooperate⟩

/-- Betrays after a betrayal, and has much more to say that never counts. -/
def wordy : LogicTree where
  clauses :=
    [⟨.opening, [Builtin.opponentLast .betray, moonlit, Builtin.opponentLast .betray], .any,
        .play .betray⟩,
      ⟨.alternative, [], .any, .random⟩,
      ⟨.alternative, [Builtin.opponentLast .cooperate, moonlit], .all, .random⟩,
      ⟨.alternative, [Builtin.opponentLast .betray, moonlit, Builtin.opponentLast .betray], .any,
        .random⟩,
      ⟨.fallback, [moonlit], .any, .play .cooperate⟩]
  sound := by rfl

/-- The opening clause of `wordy` keeps one of its conditions, in other words. -/
theorem simplifies_opening :
    Relation.EqvGen Chain.Simplifies
      [⟨.opening, [Builtin.opponentLast .betray, moonlit, Builtin.opponentLast .betray], .any,
        .play .betray⟩]
      (vengeful 0).clauses := by
  have moon : moonlit.kind.isKnown = false := by decide +kernel
  have one {c c' : Clause} (h : c.Simplifies c') : Relation.EqvGen Chain.Simplifies [c] [c'] :=
    .rel _ _ (.clause [] [] h)
  have known := one (@Clause.Simplifies.withoutUnknown .opening [Builtin.opponentLast .betray]
    [Builtin.opponentLast .betray] (.play .betray) _ moon)
  have once := one (@Clause.Simplifies.repeated .opening [] [Builtin.opponentLast .betray] .any
    (.play .betray) _ (List.mem_singleton_self _))
  have whole := one (@Clause.Simplifies.switch .opening [Builtin.opponentLast .betray]
    (.play .betray) (.inl (Nat.le_refl 1)) .any .all)
  have nth := one (@Clause.Simplifies.rephrase .opening [] [] .all (.play .betray) _ _
    (.last .opponent 1 .betray))
  exact ((known.trans _ _ _ (once.symm _ _)).trans _ _ _ whole).trans _ _ _ nth

/-- All that `wordy` does can be said in one clause. -/
theorem simplifications_preserve_play_wordy :
    Relation.EqvGen Chain.Simplifies wordy.clauses (vengeful 0).clauses ∧
    ∀ (opponent : Decision Attempt) (rounds : Json),
      Match.simulate wordy.decision.lifted opponent rounds =
        Match.simulate (vengeful 0).decision.lifted opponent rounds := by
  have moon : moonlit.kind.isKnown = false := by decide +kernel
  let first : Clause := ⟨.opening,
    [Builtin.opponentLast .betray, moonlit, Builtin.opponentLast .betray], .any, .play .betray⟩
  let unknown : Clause :=
    ⟨.alternative, [Builtin.opponentLast .cooperate, moonlit], .all, .random⟩
  let same : Clause := ⟨.alternative, first.conditions, first.mode, .random⟩
  let last : Clause := ⟨.fallback, [moonlit], .any, .play .cooperate⟩
  have short : Relation.EqvGen Chain.Simplifies wordy.clauses [first, unknown, same, last] :=
    .rel _ _ (.withoutIdle [first] (.empty .any .random) [unknown, same, last])
  have shorter : Relation.EqvGen Chain.Simplifies [first, unknown, same, last]
      [first, same, last] :=
    .rel _ _ (.withoutIdle [first]
      (.impossible (List.mem_cons_of_mem _ (List.mem_singleton_self _)) moon .random) [same, last])
  have shortest : Relation.EqvGen Chain.Simplifies [first, same, last] [first, last] :=
    .rel _ _ (.withoutIdle [first] (.covered (List.mem_singleton_self _) .random)
      [last])
  have alone : Relation.EqvGen Chain.Simplifies [first, last] [first] :=
    .symm _ _ (.rel _ _ (.withFallback [first] [moonlit] .any))
  have simplified := (((short.trans _ _ _ shorter).trans _ _ _ shortest).trans _ _ _ alone).trans
    _ _ _ simplifies_opening
  exact ⟨simplified, fun opponent rounds =>
    ((simplifications_preserve_play simplified).2 opponent rounds).1⟩

end LogicTree
end IteratedDilemma
