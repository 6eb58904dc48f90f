import Mathlib.Logic.Function.Iterate
import IteratedDilemma.Proofs.Match.Mirror
import IteratedDilemma.Proofs.Work

/-! Matches round by round. Decisions that agree on the short histories of a match stand in for each
other in it (`Match.simulate_congr`), what every round keeps a match keeps (`Match.simulate_keeps`),
and it draws in each round what both sides draw (`Match.simulate_draws`). -/
namespace IteratedDilemma
set_option autoImplicit false

namespace RandomSource

/-- The source after so many numbers. -/
def after (source : RandomSource) (count : Nat) : RandomSource :=
  (fun s => s.draw.2)^[count] source

theorem after_after (source : RandomSource) (i j : Nat) :
    (source.after i).after j = source.after (i + j) := by
  rw [after, after, after, Nat.add_comm i j, Function.iterate_add_apply]

theorem drawn_after (source : RandomSource) (count : Nat) :
    (source.after count).drawn = source.drawn + count := by
  induction count with
  | zero => rfl
  | succ count ih =>
    rw [after, Function.iterate_succ_apply', draw_drawn, ← after, ih, Nat.add_assoc]

end RandomSource

namespace Decision

/-- Both decide alike on all histories of fewer than so many moves. -/
def AgreesWithin {m : Type → Type} (count : Nat) (d d' : Decision m) : Prop :=
  ∀ own opponent : History, own.length < count → opponent.length < count →
    d own opponent = d' own opponent

theorem agreesWithin_refl {m : Type → Type} (count : Nat) (d : Decision m) :
    d.AgreesWithin count d := fun _ _ _ _ => rfl

theorem AgreesWithin.lifted {count : Nat} {d d' : Decision Drawing} (h : d.AgreesWithin count d') :
    d.lifted.AgreesWithin count d'.lifted := fun own opponent l1 l2 => by
  rw [Decision.lifted, Decision.lifted, h own opponent l1 l2]

/-- Each decision draws so many numbers, whatever comes of it. -/
def Draws (d : Decision Attempt) (count : Nat) : Prop :=
  ∀ own opponent source, (d own opponent source).2 = source.after count

end Decision

namespace Match

section
variable {m : Type → Type} [Monad m] [LawfulMonad m] {first second first' second' : Decision m}

theorem playOn_round (first second : Decision m) (n : Nat) (past : Match) :
    playOn first second (n + 1) past = (do
      let a ← first past.moves1 past.moves2
      let b ← second past.moves2 past.moves1
      playOn first second n (past.extend a b)) := by
  simp only [playOn, round, bind_assoc, pure_bind]

theorem playOn_congr {count : Nat} (h1 : first.AgreesWithin count first')
    (h2 : second.AgreesWithin count second') {n : Nat} {past : Match}
    (l1 : past.moves1.length + n ≤ count) (l2 : past.moves2.length + n ≤ count) :
    playOn first second n past = playOn first' second' n past := by
  induction n generalizing past with
  | zero => rfl
  | succ n ih =>
    rw [playOn_round, playOn_round, h1 _ _ (by omega) (by omega), h2 _ _ (by omega) (by omega)]
    refine bind_congr fun a => bind_congr fun b => ih ?_ ?_
    · rw [extend, List.length_cons]
      omega
    · rw [extend, List.length_cons]
      omega

end

variable {first second first' second' : Decision Attempt}

/-- Matches of so many rounds at most are the same whoever decides, as long as both decide alike on
the histories of these. -/
theorem simulate_congr {count : Nat} (h1 : first.AgreesWithin count first')
    (h2 : second.AgreesWithin count second') {rounds : Int} (short : rounds ≤ count) :
    simulate first second (.int rounds) = simulate first' second' (.int rounds) := by
  by_cases negative : rounds < 0
  · rw [simulate_negative _ _ negative, simulate_negative _ _ negative]
  · obtain ⟨n, rfl⟩ := Int.eq_ofNat_of_zero_le (Int.not_lt.1 negative)
    have within : 0 + n ≤ count := by omega
    rw [simulate_count, simulate_count]
    exact playOn_congr h1 h2 within within

/-- What a match and its source of random numbers keep when both sides have decided once more. -/
def Keeps (first second : Decision Attempt) (Inv : Match → RandomSource → Prop) : Prop :=
  ∀ ⦃past : Match⦄ ⦃source between last : RandomSource⦄ ⦃a b : Move⦄, Inv past source →
    first past.moves1 past.moves2 source = (.ok a, between) →
    second past.moves2 past.moves1 between = (.ok b, last) → Inv (past.extend a b) last

variable {Inv : Match → RandomSource → Prop}

theorem playOn_keeps (step : Keeps first second Inv) {n : Nat} {past m : Match}
    {source last : RandomSource} (before : Inv past source)
    (h : playOn first second n past source = (.ok m, last)) : Inv m last := by
  induction n generalizing past source with
  | zero =>
    cases h
    exact before
  | succ n ih =>
    rw [playOn_round] at h
    obtain ⟨a, between, one, h⟩ := Work.bind_eq_ok h
    obtain ⟨b, middle, two, h⟩ := Work.bind_eq_ok h
    exact ih (step before one two) h

theorem simulate_keeps (step : Keeps first second Inv) {rounds : Json} {m : Match}
    {source last : RandomSource} (start : Inv empty source)
    (h : simulate first second rounds source = (.ok m, last)) : Inv m last := by
  obtain ⟨count, middle, counted, h⟩ := Work.bind_eq_ok h
  rw [(Work.lift_eq_ok counted).2] at h
  exact playOn_keeps step start h

/-- A match draws as many numbers in each of its rounds as both sides together. -/
theorem simulate_draws {first second : Decision Attempt} {i j : Nat} (h1 : first.Draws i)
    (h2 : second.Draws j) {rounds : Json} {source last : RandomSource} {m : Match}
    (h : simulate first second rounds source = (.ok m, last)) :
    last = source.after ((i + j) * m.rounds) := by
  have step : Keeps first second fun m s => s = source.after ((i + j) * m.rounds) := by
    intro past before between last a b drawn one two
    have own := h1 past.moves1 past.moves2 before
    have theirs := h2 past.moves2 past.moves1 between
    rw [one] at own
    rw [two] at theirs
    calc last = between.after j := theirs
      _ = (before.after i).after j := congrArg (·.after j) own
      _ = source.after ((i + j) * past.rounds + (i + j)) := by
        rw [drawn, RandomSource.after_after, RandomSource.after_after]
      _ = source.after ((i + j) * (past.extend a b).rounds) := rfl
  exact simulate_keeps step rfl h

end Match
end IteratedDilemma
