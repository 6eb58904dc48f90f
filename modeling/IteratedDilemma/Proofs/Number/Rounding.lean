import Mathlib.Algebra.Order.Field.Power
import Mathlib.Data.Rat.Cast.Order
import Mathlib.Tactic.FieldSimp
import Mathlib.Tactic.Linarith
import Mathlib.Tactic.NormNum
import Mathlib.Tactic.Ring
import IteratedDilemma.Number.Binary64

/-! Rounding to floating-point numbers. A quotient is rounded to the one number in whose interval it
lies (`ofQuotient_eq`, and for decimals `ofDecimal_eq`), and what comes out of rounding has a
significand and an exponent of a floating-point number (`ofDecimal_isProper`). -/
namespace IteratedDilemma.Binary64
set_option autoImplicit false

/-! ## Quotients of whole numbers -/

/-- Of a power, one side of a quotient holds the part with a positive exponent and the other the
part with a negative one. -/
theorem toNat_pow_div (base : Nat) (k : Int) :
    ((Nat.pow base k.toNat : Nat) : ℚ) / (Nat.pow base (-k).toNat : Nat) = (base : ℚ) ^ k := by
  rcases le_total 0 k with above | below
  · obtain ⟨n, rfl⟩ := Int.eq_ofNat_of_zero_le above
    have none : (-(n : Int)).toNat = 0 := by omega
    rw [none, Int.toNat_natCast, zpow_natCast, Nat.pow_eq, Nat.pow_eq, pow_zero, Nat.cast_one,
      div_one, Nat.cast_pow]
  · obtain ⟨n, e⟩ := Int.eq_ofNat_of_zero_le (Int.neg_nonneg_of_nonpos below)
    have none : k.toNat = 0 := by omega
    have back : k = -(n : Int) := by omega
    rw [none, e, Int.toNat_natCast, back, zpow_neg, zpow_natCast, Nat.pow_eq, Nat.pow_eq, pow_zero,
      Nat.cast_one, one_div, Nat.cast_pow]

theorem mul_toNat_pow_div (base c : Nat) (k : Int) :
    ((c * Nat.pow base k.toNat : Nat) : ℚ) / (Nat.pow base (-k).toNat : Nat) =
      c * (base : ℚ) ^ k := by
  rw [Nat.cast_mul, mul_div_assoc, toNat_pow_div]

/-- A quotient with a power divided out of it. -/
theorem scaled_div (base num den : Nat) (k : Int) :
    ((num * Nat.pow base (-k).toNat : Nat) : ℚ) / (den * Nat.pow base k.toNat : Nat) =
      (num : ℚ) / den / (base : ℚ) ^ k := by
  rw [← toNat_pow_div base k, Nat.cast_mul, Nat.cast_mul, div_div_div_eq]

variable {num den : Nat}

theorem lt_scaled_iff {base : Nat} (positive : 0 < base) (nonzero : 0 < den) (k : Int) :
    num * Nat.pow base (-k).toNat < den * Nat.pow base k.toNat ↔
      (num : ℚ) / den < (base : ℚ) ^ k := by
  have below : 0 < Nat.pow base (-k).toNat := Nat.pow_pos positive
  rw [← toNat_pow_div base k, div_lt_div_iff₀ (by exact_mod_cast nonzero)
    (by exact_mod_cast below),
    mul_comm ((Nat.pow base k.toNat : Nat) : ℚ)]
  exact_mod_cast Iff.rfl

/-! ## Orders of magnitude -/

/-- The exponent `k`, or one less if the quotient does not reach `base ^ k`. -/
def orderFrom (base num den : Nat) (k : Int) : Int :=
  if num * Nat.pow base (-k).toNat < den * Nat.pow base k.toNat then k - 1 else k

theorem orderFrom_spec {base a b : Nat} (large : 1 < base)
    (top : base ^ a ≤ num ∧ num < base ^ (a + 1)) (bottom : base ^ b ≤ den ∧ den < base ^ (b + 1)) :
    (base : ℚ) ^ orderFrom base num den (a - b) ≤ num / den ∧
      (num : ℚ) / den < (base : ℚ) ^ (orderFrom base num den (a - b) + 1) := by
  have positive : 0 < base := by omega
  have nonzero : (base : ℚ) ≠ 0 := by exact_mod_cast positive.ne'
  have den0 : 0 < den := lt_of_lt_of_le (Nat.pow_pos positive) bottom.1
  have den1 : (0 : ℚ) < den := by exact_mod_cast den0
  -- the exponents of the two sides give the quotient up to one power on either side
  have least : (base : ℚ) ^ ((a : Int) - b - 1) ≤ num / den := by
    have split : (base : ℚ) ^ ((a : Int) - b - 1) = base ^ a / base ^ (b + 1) := by
      rw [sub_sub, zpow_sub₀ nonzero]
      exact_mod_cast rfl
    rw [split]
    exact div_le_div₀ (Nat.cast_nonneg _) (by exact_mod_cast top.1) den1
      (by exact_mod_cast bottom.2.le)
  have greatest : (num : ℚ) / den < (base : ℚ) ^ ((a : Int) - b + 1) := by
    have split : (base : ℚ) ^ ((a : Int) - b + 1) = base ^ (a + 1) / base ^ b := by
      rw [sub_add_eq_add_sub, zpow_sub₀ nonzero]
      exact_mod_cast rfl
    rw [split]
    exact div_lt_div₀ (by exact_mod_cast top.2) (by exact_mod_cast bottom.1) (by positivity)
      (by positivity)
  have reaches := @lt_scaled_iff num den base positive den0 (a - b)
  unfold orderFrom
  split
  · next below =>
    rw [sub_add_cancel]
    exact ⟨least, reaches.1 below⟩
  · next above => exact ⟨not_lt.1 (mt reaches.2 above), greatest⟩

theorem binaryOrder_spec (top : 0 < num) (bottom : 0 < den) :
    (2 : ℚ) ^ binaryOrder num den ≤ num / den ∧
      (num : ℚ) / den < (2 : ℚ) ^ (binaryOrder num den + 1) :=
  orderFrom_spec Nat.one_lt_two
    ⟨Nat.log2_self_le top.ne', Nat.lt_log2_self⟩ ⟨Nat.log2_self_le bottom.ne', Nat.lt_log2_self⟩

/-! ## The nearest whole number -/

/-- A whole number is nearest to a rational, and it is even if another one is as near. -/
structure IsNearest (m : Nat) (y : ℚ) : Prop where
  low : (m : ℚ) - 1 / 2 ≤ y
  high : y ≤ m + 1 / 2
  strict : m % 2 = 1 → (m : ℚ) - 1 / 2 < y ∧ y < m + 1 / 2

theorem IsNearest.not_lt {m n : Nat} {y : ℚ} (h : IsNearest m y) (h' : IsNearest n y) :
    ¬m < n := by
  intro less
  have next : (m : ℚ) + 1 ≤ n := by exact_mod_cast less
  have low := h'.low
  have high := h.high
  -- halfway between two neighbours, of which one is odd
  have neighbours : n = m + 1 := by
    have : (n : ℚ) ≤ m + 1 := by linarith
    have : n ≤ m + 1 := by exact_mod_cast this
    omega
  rcases Nat.mod_two_eq_zero_or_one m with even | odd
  · have := (h'.strict (by omega)).1
    linarith
  · have := (h.strict odd).2
    linarith

theorem IsNearest.eq {m n : Nat} {y : ℚ} (h : IsNearest m y) (h' : IsNearest n y) : m = n := by
  have := h.not_lt h'
  have := h'.not_lt h
  omega

theorem IsNearest.le {m n : Nat} {y : ℚ} (h : IsNearest m y) (below : y < n) : m ≤ n := by
  have low := h.low
  have : (m : ℚ) < n + 1 := by linarith
  exact Nat.lt_succ_iff.1 (by exact_mod_cast this)

theorem IsNearest.ge {m n : Nat} {y : ℚ} (h : IsNearest m y) (above : (n : ℚ) ≤ y) : n ≤ m := by
  have high := h.high
  have : (n : ℚ) < m + 1 := by linarith
  exact Nat.lt_succ_iff.1 (by exact_mod_cast this)

theorem isNearest_roundedQuotient (num : Nat) (bottom : 0 < den) :
    IsNearest (roundedQuotient num den) ((num : ℚ) / den) := by
  have den1 : (0 : ℚ) < den := by exact_mod_cast bottom
  obtain ⟨part, e⟩ : ∃ part : ℚ, part = ((num % den : Nat) : ℚ) / den := ⟨_, rfl⟩
  have whole : (num : ℚ) / den = (num / den : Nat) + part := by
    rw [e, div_eq_iff den1.ne', add_mul, div_mul_cancel₀ _ den1.ne']
    exact_mod_cast (Nat.div_add_mod' num den).symm
  have least : 0 ≤ part := by
    rw [e]
    exact div_nonneg (Nat.cast_nonneg _) den1.le
  have less : part < 1 := by
    rw [e, div_lt_one₀ den1]
    exact_mod_cast Nat.mod_lt num bottom
  have half : 2 * (num % den) < den ↔ part < 1 / 2 := by
    rw [e, div_lt_div_iff₀ den1 two_pos, one_mul, mul_comm]
    exact_mod_cast Iff.rfl
  have tie : 2 * (num % den) = den ↔ part = 1 / 2 := by
    rw [e, div_eq_div_iff den1.ne' two_ne_zero, one_mul, mul_comm]
    exact_mod_cast Iff.rfl
  rw [whole, roundedQuotient]
  split
  · next down =>
    rcases down with below | ⟨halfway, even⟩
    · have := half.1 below
      exact ⟨by linarith, by linarith, fun _ => ⟨by linarith, by linarith⟩⟩
    · have := tie.1 halfway
      exact ⟨by linarith, by linarith, fun odd => by omega⟩
  · next up =>
    rw [not_or, not_and] at up
    have above : 1 / 2 ≤ part := not_lt.1 (mt half.2 up.1)
    have next : ((num / den + 1 : Nat) : ℚ) = (num / den : Nat) + 1 := Nat.cast_succ _
    refine ⟨by linarith, by linarith, fun odd => ⟨?_, by linarith⟩⟩
    have apart : part ≠ 1 / 2 := fun halfway => up.2 (tie.2 halfway) (by omega)
    have := lt_of_le_of_ne above apart.symm
    linarith

/-! ## Floating-point numbers -/

/-- The significand and the exponent of a floating-point number. -/
structure IsCanonical (m : Nat) (e : Int) : Prop where
  small : m < Nat.pow 2 53
  least : leastExponent ≤ e
  greatest : e ≤ greatestExponent
  normal : Nat.pow 2 52 ≤ m ∨ e = leastExponent

/-- A number whose parts, if it is finite, are those of a floating-point number. -/
def IsProper : Binary64 → Prop
  | finite _ m e => IsCanonical m e
  | _ => True

/-- A rational lies in the interval of `m · 2 ^ e`: not beyond half of the way to a neighbour. Below
a power of two the neighbour is only half as far. -/
structure RoundsTo (m : Nat) (e : Int) (x : ℚ) : Prop where
  nearest : IsNearest m (x / (2 : ℚ) ^ e)
  close : m = Nat.pow 2 52 → leastExponent < e → (m : ℚ) - 1 / 4 ≤ x / (2 : ℚ) ^ e

variable {m : Nat} {e : Int} {x : ℚ}

theorem RoundsTo.pos (h : RoundsTo m e x) (nonzero : 0 < m) : 0 < x := by
  have low := h.nearest.low
  have one : (1 : ℚ) ≤ m := by exact_mod_cast nonzero
  have unit : (0 : ℚ) < 2 ^ e := by positivity
  have quotient : 0 < x / (2 : ℚ) ^ e := by linarith
  rwa [lt_div_iff₀ unit, zero_mul] at quotient

theorem RoundsTo.coefficient_pos {c : Nat} (h : RoundsTo m e (c * x)) (nonzero : 0 < m) :
    0 < c := by
  refine Nat.pos_of_ne_zero fun none => ?_
  have positive := h.pos nonzero
  rw [none, Nat.cast_zero, zero_mul] at positive
  exact lt_irrefl _ positive

/-- What is rounded to a number with a significand of 53 bits lies below the next power of two. -/
theorem RoundsTo.lt (h : RoundsTo m e x) (small : m < Nat.pow 2 53) :
    x < (2 : ℚ) ^ (53 + e) := by
  have high := h.nearest.high
  have bound : (m : ℚ) + 1 ≤ 2 ^ 53 := by exact_mod_cast small
  have unit : (0 : ℚ) < 2 ^ e := by positivity
  have split : (2 : ℚ) ^ (53 + e) = 2 ^ 53 * 2 ^ e := zpow_add₀ two_ne_zero 53 e
  rw [split, ← div_lt_iff₀ unit]
  linarith

/-- What is rounded up to a power of two is nearest to the double significand at the exponent
below. -/
theorem RoundsTo.isNearest_of_lt (h : RoundsTo m e x) (normal : Nat.pow 2 52 ≤ m)
    (above : leastExponent < e) (below : x < (2 : ℚ) ^ (52 + e)) :
    m = Nat.pow 2 52 ∧ IsNearest (Nat.pow 2 53) (x / (2 : ℚ) ^ (e - 1)) := by
  have unit : (0 : ℚ) < 2 ^ e := by positivity
  have split : (2 : ℚ) ^ (52 + e) = 2 ^ 52 * 2 ^ e := zpow_add₀ two_ne_zero 52 e
  rw [split, ← div_lt_iff₀ unit] at below
  have low := h.nearest.low
  have least : m = Nat.pow 2 52 := by
    have bound : (m : ℚ) < 2 ^ 52 + 1 := by linarith
    have bound : m < 2 ^ 52 + 1 := by exact_mod_cast bound
    exact Nat.le_antisymm (Nat.lt_succ_iff.1 bound) normal
  have close := h.close least above
  have double : x / (2 : ℚ) ^ (e - 1) = 2 * (x / 2 ^ e) := by
    rw [zpow_sub_one₀ two_ne_zero, ← div_eq_mul_inv, div_div_eq_mul_div, mul_div_right_comm,
      mul_comm]
  rw [double]
  have exact52 : (m : ℚ) = 2 ^ 52 := by exact_mod_cast least
  have exact53 : ((Nat.pow 2 53 : Nat) : ℚ) = 2 * 2 ^ 52 := by
    rw [Nat.pow_eq]
    norm_num
  rw [exact52] at close
  refine ⟨least, ?_, ?_, fun odd => absurd odd (by decide)⟩ <;> rw [exact53] <;> linarith

/-! ## Rounding -/

/-- The number of a rounded significand: one that has come to 54 bits is halved. -/
theorem ofQuotient_of_isNearest (top : num ≠ 0) (bottom : 0 < den)
    (exponent : max (binaryOrder num den - 52) leastExponent = e)
    (nearest : IsNearest m ((num : ℚ) / den / (2 : ℚ) ^ e)) (negative : Bool) :
    ofQuotient negative num den =
      if m = Nat.pow 2 53 then
        if greatestExponent < e + 1 then infinite negative
        else finite negative (Nat.pow 2 52) (e + 1)
      else if greatestExponent < e then infinite negative else finite negative m e := by
  have scaled : 0 < den * Nat.pow 2 e.toNat := Nat.mul_pos bottom (Nat.pow_pos (by omega))
  have rounded := isNearest_roundedQuotient (num * Nat.pow 2 (-e).toNat) scaled
  rw [scaled_div, Nat.cast_ofNat] at rounded
  unfold ofQuotient
  rw [if_neg top, exponent]
  dsimp only
  rw [rounded.eq nearest]
  split <;> rfl

/-- A quotient is rounded to the number in whose interval it lies. -/
theorem ofQuotient_eq (canonical : IsCanonical m e) (nonzero : 0 < m) (bottom : 0 < den)
    (h : RoundsTo m e ((num : ℚ) / den)) (negative : Bool) :
    ofQuotient negative num den = finite negative m e := by
  have positive := h.pos nonzero
  have top : 0 < num := by
    rw [Nat.pos_iff_ne_zero]
    rintro rfl
    rw [Nat.cast_zero, zero_div] at positive
    exact lt_irrefl _ positive
  obtain ⟨reached, unreached⟩ := binaryOrder_spec top bottom
  have order : binaryOrder num den < 53 + e :=
    (zpow_lt_zpow_iff_right₀ one_lt_two).1 (lt_of_le_of_lt reached (h.lt canonical.small))
  have least := canonical.least
  have finite53 : m ≠ Nat.pow 2 53 := canonical.small.ne
  by_cases lower : leastExponent < e ∧ (num : ℚ) / den < (2 : ℚ) ^ (52 + e)
  · -- one binade below, at whose end the significand has come to 54 bits
    obtain ⟨above, below⟩ := lower
    have normal : Nat.pow 2 52 ≤ m := canonical.normal.resolve_right above.ne'
    obtain ⟨rfl, nearest⟩ := h.isNearest_of_lt normal above below
    have within : (2 : ℚ) ^ (51 + e) ≤ num / den := by
      have close := h.close rfl above
      have unit : (0 : ℚ) < 2 ^ e := by positivity
      have split : (2 : ℚ) ^ (51 + e) = 2 ^ 51 * 2 ^ e := zpow_add₀ two_ne_zero 51 e
      have exact52 : ((Nat.pow 2 52 : Nat) : ℚ) = 2 ^ 52 := by exact_mod_cast rfl
      rw [exact52] at close
      rw [split, ← le_div_iff₀ unit]
      linarith
    have less : binaryOrder num den < 52 + e :=
      (zpow_lt_zpow_iff_right₀ one_lt_two).1 (lt_of_le_of_lt reached below)
    have more : 51 + e < binaryOrder num den + 1 :=
      (zpow_lt_zpow_iff_right₀ one_lt_two).1 (lt_of_le_of_lt within unreached)
    rw [ofQuotient_of_isNearest top.ne' bottom (by omega) nearest, if_pos rfl, sub_add_cancel,
      if_neg (not_lt.2 canonical.greatest)]
  · have exponent : max (binaryOrder num den - 52) leastExponent = e := by
      by_cases normal : leastExponent < e
      · have within : (2 : ℚ) ^ (52 + e) ≤ num / den := not_lt.1 fun below => lower ⟨normal, below⟩
        have : 52 + e < binaryOrder num den + 1 :=
          (zpow_lt_zpow_iff_right₀ one_lt_two).1 (lt_of_le_of_lt within unreached)
        omega
      · omega
    rw [ofQuotient_of_isNearest top.ne' bottom exponent h.nearest, if_neg finite53,
      if_neg (not_lt.2 canonical.greatest)]

theorem isCanonical_zero : IsCanonical 0 leastExponent :=
  ⟨by decide, le_rfl, by decide, .inr rfl⟩

theorem ofQuotient_isProper (negative : Bool) (num : Nat) (bottom : 0 < den) :
    (ofQuotient negative num den).IsProper := by
  by_cases zero : num = 0
  · rw [ofQuotient, if_pos zero]
    exact isCanonical_zero
  obtain ⟨e, exponent⟩ : ∃ e, max (binaryOrder num den - 52) leastExponent = e := ⟨_, rfl⟩
  obtain ⟨m, nearest⟩ : ∃ m, IsNearest m ((num : ℚ) / den / (2 : ℚ) ^ e) := by
    have scaled : 0 < den * Nat.pow 2 e.toNat := Nat.mul_pos bottom (Nat.pow_pos (by omega))
    have rounded := isNearest_roundedQuotient (num * Nat.pow 2 (-e).toNat) scaled
    rw [scaled_div, Nat.cast_ofNat] at rounded
    exact ⟨_, rounded⟩
  obtain ⟨reached, unreached⟩ := binaryOrder_spec (Nat.pos_of_ne_zero zero) bottom
  have unit : (0 : ℚ) < 2 ^ e := by positivity
  have bits (n : Nat) : ((2 : ℚ) ^ ((n : ℤ) + e)) = (Nat.pow 2 n : Nat) * 2 ^ e := by
    rw [zpow_add₀ two_ne_zero, zpow_natCast, Nat.pow_eq, Nat.cast_pow, Nat.cast_ofNat]
  have atMost : m ≤ Nat.pow 2 53 := by
    have power : (2 : ℚ) ^ (binaryOrder num den + 1) ≤ 2 ^ ((53 : Nat) + e) :=
      zpow_le_zpow_right₀ one_le_two (by omega)
    rw [bits] at power
    exact nearest.le ((div_lt_iff₀ unit).2 (lt_of_lt_of_le unreached power))
  have atLeast : Nat.pow 2 52 ≤ m ∨ e = leastExponent := by
    by_cases normal : leastExponent < e
    · have order : binaryOrder num den = (52 : Nat) + e := by omega
      rw [order, bits] at reached
      exact .inl (nearest.ge ((le_div_iff₀ unit).2 reached))
    · exact .inr (by omega)
  rw [ofQuotient_of_isNearest zero bottom exponent nearest]
  split <;> split
  · exact True.intro
  · next within => exact ⟨by decide, by omega, not_lt.1 within, .inl le_rfl⟩
  · exact True.intro
  · next short within =>
    exact ⟨lt_of_le_of_ne atMost short, by omega, not_lt.1 within, atLeast⟩

/-! ## Decimals -/

/-- The digits of a number tell its order of magnitude. -/
theorem length_toDigits_spec {n : Nat} (positive : 0 < n) :
    10 ^ ((Nat.toDigits 10 n).length - 1) ≤ n ∧ n < 10 ^ ((Nat.toDigits 10 n).length - 1 + 1) := by
  have some : 0 < (Nat.toDigits 10 n).length := List.length_pos_iff.2 Nat.toDigits_ne_nil
  rw [Nat.sub_add_cancel some]
  refine ⟨?_, (Nat.length_toDigits_le_iff (by omega) some).1 le_rfl⟩
  rcases Nat.eq_zero_or_pos ((Nat.toDigits 10 n).length - 1) with single | many
  · rw [single]
    exact positive
  · have less := mt (Nat.length_toDigits_le_iff (b := 10) (n := n) (by omega) many).2
      (by omega)
    exact not_lt.1 less

/-- The digits of a coefficient and the power give the order of magnitude of a decimal. -/
theorem decimal_bounds {c : Nat} (positive : 0 < c) (p : Int) :
    (10 : ℚ) ^ (p + (Nat.toDigits 10 c).length - 1) ≤ c * (10 : ℚ) ^ p ∧
      (c : ℚ) * (10 : ℚ) ^ p < (10 : ℚ) ^ (p + (Nat.toDigits 10 c).length) := by
  have some : 0 < (Nat.toDigits 10 c).length := List.length_pos_iff.2 Nat.toDigits_ne_nil
  obtain ⟨digits, e⟩ : ∃ n, (Nat.toDigits 10 c).length = n + 1 := Nat.exists_eq_add_one.2 some
  obtain ⟨least, greatest⟩ := length_toDigits_spec positive
  rw [e, Nat.add_sub_cancel] at least greatest
  have unit : (0 : ℚ) < 10 ^ p := by positivity
  have lower : p + ((digits + 1 : Nat) : Int) - 1 = digits + p := by omega
  have upper : p + ((digits + 1 : Nat) : Int) = (digits + 1 : Nat) + p := by omega
  have ten : (10 : ℚ) ≠ 0 := by norm_num
  rw [e, lower, upper, zpow_add₀ ten, zpow_add₀ ten, zpow_natCast, zpow_natCast]
  exact ⟨mul_le_mul_of_nonneg_right (by exact_mod_cast least) unit.le,
    mul_lt_mul_of_pos_right (by exact_mod_cast greatest) unit⟩

theorem ofDecimal_isProper (negative : Bool) (c : Nat) (p : Int) :
    (ofDecimal negative c p).IsProper := by
  unfold ofDecimal
  split
  · exact isCanonical_zero
  · dsimp only
    split
    · exact True.intro
    · split
      · exact isCanonical_zero
      · exact ofQuotient_isProper negative _ (Nat.pow_pos (by omega))

/-- All powers of two that matter lie between the powers of ten that do. -/
theorem two_pow_lt_ten_pow : (2 : ℚ) ^ (1100 : ℤ) < 10 ^ (400 : ℤ) :=
  calc
    (2 : ℚ) ^ (1100 : ℤ) < 2 ^ (3 * 400 : ℤ) := zpow_lt_zpow_right₀ one_lt_two (by norm_num)
    _ = (2 ^ (3 : ℤ)) ^ (400 : ℤ) := zpow_mul 2 3 400
    _ ≤ 10 ^ (400 : ℤ) := zpow_le_zpow_left₀ (by norm_num) (by norm_num) (by norm_num)

/-- A decimal is rounded to the number in whose interval it lies. -/
theorem ofDecimal_eq {c : Nat} {p : Int} (canonical : IsCanonical m e) (nonzero : 0 < m)
    (coefficient : 0 < c) (h : RoundsTo m e (c * (10 : ℚ) ^ p)) (negative : Bool) :
    ofDecimal negative c p = finite negative m e := by
  obtain ⟨least, greatest⟩ := decimal_bounds coefficient p
  have bottom := canonical.least
  have top := canonical.greatest
  unfold leastExponent at bottom
  unfold greatestExponent at top
  have small : p + (Nat.toDigits 10 c).length ≤ 400 := by
    have power : (2 : ℚ) ^ (53 + e) ≤ 2 ^ (1100 : ℤ) := zpow_le_zpow_right₀ one_le_two (by omega)
    have less := lt_of_lt_of_le (lt_of_le_of_lt least (h.lt canonical.small))
      (power.trans two_pow_lt_ten_pow.le)
    have := (zpow_lt_zpow_iff_right₀ (by norm_num)).1 less
    omega
  have large : -400 ≤ p + (Nat.toDigits 10 c).length := by
    have unit : (0 : ℚ) < 2 ^ e := by positivity
    have power : (2 : ℚ) ^ (-1100 : ℤ) ≤ 2 ^ (e - 1) := zpow_le_zpow_right₀ one_le_two (by omega)
    have half : (2 : ℚ) ^ (e - 1) ≤ c * 10 ^ p := by
      have one : (1 : ℚ) ≤ m := by exact_mod_cast nonzero
      have low := h.nearest.low
      rw [zpow_sub_one₀ two_ne_zero, mul_comm, ← le_div_iff₀ unit]
      linarith
    have far : (10 : ℚ) ^ (-400 : ℤ) < 2 ^ (-1100 : ℤ) := by
      rw [zpow_neg, zpow_neg]
      exact inv_strictAnti₀ (by positivity) two_pow_lt_ten_pow
    have more := lt_of_lt_of_le far (power.trans (half.trans greatest.le))
    have := (zpow_lt_zpow_iff_right₀ (by norm_num)).1 more
    omega
  unfold ofDecimal
  rw [if_neg coefficient.ne']
  dsimp only
  rw [if_neg (not_lt.2 small), if_neg (not_lt.2 large)]
  refine ofQuotient_eq canonical nonzero (Nat.pow_pos (by omega)) ?_ negative
  exact (mul_toNat_pow_div 10 c p).symm ▸ h

end IteratedDilemma.Binary64
