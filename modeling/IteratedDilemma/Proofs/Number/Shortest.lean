import IteratedDilemma.Number.Shortest
import IteratedDilemma.Proofs.Number.Rounding

/-! The shortest decimal of a floating-point number is rounded back to it (`roundsTo_shortest`): a
decimal is taken only if it lies in the interval of the number (`contains_rounding_iff`), and on the
grid with 17 digits the nearest one does (`roundsTo_nearest`). -/
namespace IteratedDilemma.Binary64
set_option autoImplicit false

variable {num den m : Nat} {e : Int}

/-! ## Intervals -/

theorem Rounding.contains_iff {r : Rounding} (common : 0 < r.denominator) (bottom : 0 < den) :
    r.contains num den = true ↔
      if r.closed then (r.low : ℚ) / r.denominator ≤ num / den ∧
        (num : ℚ) / den ≤ r.high / r.denominator
      else (r.low : ℚ) / r.denominator < num / den ∧
        (num : ℚ) / den < r.high / r.denominator := by
  have common1 : (0 : ℚ) < r.denominator := by exact_mod_cast common
  have bottom1 : (0 : ℚ) < den := by exact_mod_cast bottom
  rw [div_le_div_iff₀ common1 bottom1, div_le_div_iff₀ bottom1 common1,
    div_lt_div_iff₀ common1 bottom1, div_lt_div_iff₀ bottom1 common1]
  unfold Rounding.contains
  split <;>
  · rw [Bool.and_eq_true, decide_eq_true_eq, decide_eq_true_eq]
    exact_mod_cast Iff.rfl

/-- Quarters of the unit of a number over the denominator of its interval. -/
theorem quarters_div (c : Nat) (e : Int) :
    ((c * Nat.pow 2 (e - 2).toNat : Nat) : ℚ) / (Nat.pow 2 (2 - e).toNat : Nat) =
      c / 4 * (2 : ℚ) ^ e := by
  have swap : 2 - e = -(e - 2) := by omega
  have four : (2 : ℚ) ^ (2 : ℤ) = 4 := by norm_num
  rw [swap, mul_toNat_pow_div, Nat.cast_ofNat, zpow_sub₀ two_ne_zero, four]
  ring

/-- What the interval of a number contains is what is rounded to it. -/
theorem contains_rounding_iff (nonzero : 0 < m) (bottom : 0 < den) :
    (rounding m e).contains num den = true ↔ RoundsTo m e ((num : ℚ) / den) := by
  have unit : (0 : ℚ) < 2 ^ e := by positivity
  rw [Rounding.contains_iff (Nat.pow_pos (by omega)) bottom]
  unfold rounding
  dsimp only
  rw [quarters_div, quarters_div, ← le_div_iff₀ unit, ← div_le_iff₀ unit, ← lt_div_iff₀ unit,
    ← div_lt_iff₀ unit]
  have high : ((4 * m + 2 : Nat) : ℚ) / 4 = m + 1 / 2 := by
    push_cast
    ring
  have low (below : Nat) (few : below ≤ 2) :
      ((4 * m - below : Nat) : ℚ) / 4 = m - (below : ℚ) / 4 := by
    rw [Nat.cast_sub (by omega)]
    push_cast
    ring
  rw [high]
  by_cases gap : m = Nat.pow 2 52 ∧ leastExponent < e
  · -- below a power of two, whose significand is even
    rw [if_pos gap]
    have even : decide (m % 2 = 0) = true := by
      rw [gap.1]
      rfl
    rw [if_pos even, low 1 (by omega), Nat.cast_one]
    constructor
    · rintro ⟨above, below⟩
      refine ⟨⟨by linarith, below, fun odd => ?_⟩, fun _ _ => above⟩
      have := of_decide_eq_true even
      omega
    · intro h
      exact ⟨h.close gap.1 gap.2, h.nearest.high⟩
  · rw [if_neg gap]
    have half : ((2 : Nat) : ℚ) / 4 = 1 / 2 := by norm_num
    rw [low 2 le_rfl, half]
    rw [not_and] at gap
    split
    · next even =>
      have even := of_decide_eq_true even
      constructor
      · rintro ⟨above, below⟩
        exact ⟨⟨above, below, fun odd => by omega⟩, fun power inner => absurd inner (gap power)⟩
      · intro h
        exact ⟨h.nearest.low, h.nearest.high⟩
    · next odd =>
      rw [decide_eq_true_eq] at odd
      constructor
      · intro inside
        exact ⟨⟨inside.1.le, inside.2.le, fun _ => inside⟩,
          fun power inner => absurd inner (gap power)⟩
      · intro h
        exact h.nearest.strict (by omega)

/-! ## Grids -/

theorem decimalOrder_spec (top : 0 < num) (bottom : 0 < den) :
    (10 : ℚ) ^ decimalOrder num den ≤ num / den := by
  have some (n : Nat) : 0 < (Nat.toDigits 10 n).length := List.length_pos_iff.2 Nat.toDigits_ne_nil
  have order : decimalOrder num den = orderFrom 10 num den
      (((Nat.toDigits 10 num).length - 1 : Nat) - ((Nat.toDigits 10 den).length - 1 : Nat)) := by
    have := some num
    have := some den
    have e : (((Nat.toDigits 10 num).length - 1 : Nat) : Int) -
        ((Nat.toDigits 10 den).length - 1 : Nat) =
        (Nat.toDigits 10 num).length - (Nat.toDigits 10 den).length := by omega
    rw [e]
    rfl
  rw [order]
  exact (orderFrom_spec (by omega : 1 < 10) (length_toDigits_spec top)
    (length_toDigits_spec bottom)).1

theorem rounding_value_div (m : Nat) (e : Int) :
    ((rounding m e).value : ℚ) / (rounding m e).denominator = m * (2 : ℚ) ^ e := by
  have four : ((4 * m : Nat) : ℚ) / 4 = m := by
    push_cast
    ring
  exact (quarters_div (4 * m) e).trans (by rw [four])

theorem rounding_denominator_pos (m : Nat) (e : Int) : 0 < (rounding m e).denominator :=
  Nat.pow_pos (by omega)

theorem rounding_value_pos (nonzero : 0 < m) (e : Int) : 0 < (rounding m e).value :=
  Nat.mul_pos (by omega) (Nat.pow_pos (by omega))

/-- What is nearest to the value on a grid of 17 digits is rounded to the number. -/
theorem roundsTo_nearest {c : Nat} {p : Int} (small : m < Nat.pow 2 53)
    (fine : (10 : ℚ) ^ (p + 16) ≤ m * 2 ^ e)
    (nearest : IsNearest c ((m : ℚ) * 2 ^ e / 10 ^ p)) : RoundsTo m e (c * (10 : ℚ) ^ p) := by
  have unit : (0 : ℚ) < 2 ^ e := by positivity
  have step : (0 : ℚ) < 10 ^ p := by positivity
  have bound : (m : ℚ) < 2 ^ 53 := by exact_mod_cast small
  obtain ⟨s, hs⟩ : ∃ s : ℚ, s = 10 ^ p / 2 ^ e := ⟨_, rfl⟩
  have stepBound : s * 10 ^ 16 ≤ m := by
    rw [hs, div_mul_eq_mul_div, div_le_iff₀ unit]
    rwa [zpow_add₀ (by norm_num)] at fine
  have stepPos : 0 < s := hs ▸ div_pos step unit
  have value : (c : ℚ) * 10 ^ p / 2 ^ e = c * s := by rw [hs, mul_div_assoc]
  have target : (m : ℚ) * 2 ^ e / 10 ^ p = m / s := by
    rw [hs, div_div_eq_mul_div]
  have low := nearest.low
  have high := nearest.high
  rw [target] at low high
  rw [le_div_iff₀ stepPos] at low
  rw [div_le_iff₀ stepPos] at high
  refine ⟨⟨?_, ?_, fun _ => ⟨?_, ?_⟩⟩, fun power _ => ?_⟩ <;> rw [value]
  · linarith
  · linarith
  · linarith
  · linarith
  · have : (m : ℚ) = 2 ^ 52 := by exact_mod_cast power
    linarith

theorem contains_decimal_iff (nonzero : 0 < m) (c : Nat) (p : Int) :
    (rounding m e).contains (c * Nat.pow 10 p.toNat) (Nat.pow 10 (-p).toNat) = true ↔
      RoundsTo m e (c * (10 : ℚ) ^ p) := by
  have bottom : 0 < Nat.pow 10 (-p).toNat := Nat.pow_pos (by omega)
  rw [contains_rounding_iff nonzero bottom, mul_toNat_pow_div, Nat.cast_ofNat]

theorem roundsTo_of_onGrid? {p : Int} {d : Decimal} (nonzero : 0 < m)
    (h : (rounding m e).onGrid? p = some d) :
    RoundsTo m e (d.coefficient * (10 : ℚ) ^ d.power) := by
  obtain ⟨c, found, rfl⟩ := Option.map_eq_some_iff.1 h
  have inside := List.find?_some found
  exact (contains_decimal_iff nonzero c p).1 inside

theorem nearest_mem_neighbours (r : Rounding) (p : Int) :
    roundedQuotient (r.value * Nat.pow 10 (-p).toNat) (r.denominator * Nat.pow 10 p.toNat) ∈
      r.neighbours p := by
  unfold Rounding.neighbours
  dsimp only
  split
  · next same =>
    rw [same]
    exact List.mem_cons_self
  · next more =>
    unfold roundedQuotient at more ⊢
    dsimp only at more ⊢
    split
    · next down => exact absurd (if_pos down) more
    · exact List.mem_cons_self

/-- Seventeen digits are enough. -/
theorem exists_onGrid? (canonical : IsCanonical m e) (nonzero : 0 < m) :
    ∃ d, (rounding m e).onGrid?
      (decimalOrder (rounding m e).value (rounding m e).denominator - 16) = some d := by
  obtain ⟨p, power⟩ :
      ∃ p, decimalOrder (rounding m e).value (rounding m e).denominator - 16 = p := ⟨_, rfl⟩
  have common := rounding_denominator_pos m e
  have fine := decimalOrder_spec (rounding_value_pos nonzero e) common
  have order : decimalOrder (rounding m e).value (rounding m e).denominator = p + 16 := by omega
  rw [order, rounding_value_div] at fine
  have nearest := isNearest_roundedQuotient ((rounding m e).value * Nat.pow 10 (-p).toNat)
    (Nat.mul_pos common (Nat.pow_pos (n := p.toNat) (by omega : 0 < 10)))
  have scaled := scaled_div 10 (rounding m e).value (rounding m e).denominator p
  rw [rounding_value_div, Nat.cast_ofNat] at scaled
  have inside := roundsTo_nearest canonical.small fine (scaled ▸ nearest)
  rw [power]
  rcases found : (rounding m e).onGrid? p with _ | d
  · have none := Option.map_eq_none_iff.1 found
    rw [List.find?_eq_none] at none
    exact absurd ((contains_decimal_iff nonzero _ p).2 inside)
      (none _ (nearest_mem_neighbours _ p))
  · exact ⟨d, rfl⟩

/-- The shortest decimal is on the first grid that has one. Without any it is the number by its parts
as they are. -/
theorem shortest_cases (nonzero : 0 < m) (e : Int) :
    RoundsTo m e ((shortest m e).coefficient * (10 : ℚ) ^ (shortest m e).power) ∨
      shortest m e = ⟨m, e⟩ ∧ ∀ digits < 17, (rounding m e).onGrid?
        (decimalOrder (rounding m e).value (rounding m e).denominator - (digits : Nat)) = none := by
  unfold shortest
  dsimp only
  rcases found : (List.range 17).findSome? fun digits : Nat => (rounding m e).onGrid?
      (decimalOrder (rounding m e).value (rounding m e).denominator - digits) with _ | d
  · rw [List.findSome?_eq_none_iff] at found
    exact .inr ⟨rfl, fun digits few => found digits (List.mem_range.2 few)⟩
  · obtain ⟨digits, -, some⟩ := List.exists_of_findSome?_eq_some found
    exact .inl (roundsTo_of_onGrid? nonzero some)

/-- The shortest decimal of a number that is not zero is rounded to it. -/
theorem roundsTo_shortest (canonical : IsCanonical m e) (nonzero : 0 < m) :
    RoundsTo m e ((shortest m e).coefficient * (10 : ℚ) ^ (shortest m e).power) := by
  rcases shortest_cases nonzero e with inside | ⟨-, none⟩
  · exact inside
  · obtain ⟨d, some⟩ := exists_onGrid? canonical nonzero
    have none := none 16 (by decide)
    rw [Nat.cast_ofNat, some] at none
    cases none

theorem shortest_coefficient_pos (nonzero : 0 < m) (e : Int) :
    0 < (shortest m e).coefficient := by
  rcases shortest_cases nonzero e with inside | ⟨same, -⟩
  · exact inside.coefficient_pos nonzero
  · rw [same]
    exact nonzero

end IteratedDilemma.Binary64
