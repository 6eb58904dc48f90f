import IteratedDilemma.Proofs.Json.Numbers
import IteratedDilemma.Proofs.Number.Shortest

/-! Floating-point numbers in documents. Whatever form the text of a number has, it reads as a
decimal with the value of its digits (`readsValue_positional`, `readsValue_scientific`), and so
every finite number is read back (`readsBack_finite`). -/
namespace IteratedDilemma.Json
set_option autoImplicit false

open Grammar
open Binary64 (positional scientific)

/-! ## Digits and zeros -/

theorem digitsValue_zeros_append (count : Nat) (ds : List Char) :
    digitsValue (List.replicate count '0' ++ ds) = digitsValue ds := by
  rw [digitsValue_append, digitsValue_zeros, Nat.zero_mul, Nat.zero_add]

theorem digitsValue_append_zeros (ds : List Char) (count : Nat) :
    digitsValue (ds ++ List.replicate count '0') = digitsValue ds * 10 ^ count := by
  rw [digitsValue_append, digitsValue_zeros, Nat.add_zero, List.length_replicate]

theorem isDigit_of_mem_zeros {count : Nat} {c : Char} (h : c ∈ List.replicate count '0') :
    c.isDigit = true := by
  rw [List.eq_of_mem_replicate h]
  rfl

/-! ## Parts of a number -/

theorem fraction?_digits {ds rest : List Char} (some : ds ≠ [])
    (digit : ∀ c ∈ ds, c.isDigit = true) (ends : ∀ c ∈ rest.head?, c.isDigit = false) :
    fraction? ('.' :: (ds ++ rest)) = Option.some (ds, rest) := by
  rw [fraction?, digits_append digit ends, if_neg (by rwa [List.isEmpty_iff])]

/-- The exponent of an order of magnitude: a sign and at least two digits. -/
def exponentText (order : Int) : List Char :=
  'e' :: (if order < 0 then '-' else '+') ::
    if (Nat.toDigits 10 order.natAbs).length < 2 then '0' :: Nat.toDigits 10 order.natAbs
    else Nat.toDigits 10 order.natAbs

theorem exponent?_exponentText (order : Int) :
    exponent? (exponentText order) = some (order, []) := by
  obtain ⟨ds, padded⟩ : ∃ ds, (if (Nat.toDigits 10 order.natAbs).length < 2 then
      '0' :: Nat.toDigits 10 order.natAbs else Nat.toDigits 10 order.natAbs) = ds := ⟨_, rfl⟩
  obtain ⟨nonempty, digit, value⟩ :
      ds ≠ [] ∧ (∀ c ∈ ds, c.isDigit = true) ∧ digitsValue ds = order.natAbs := by
    rw [← padded]
    split
    · refine ⟨List.cons_ne_nil _ _, fun c h => ?_,
        (digitsValue_zeros_append 1 _).trans (digitsValue_toDigits _)⟩
      rcases List.mem_cons.1 h with rfl | h
      · rfl
      · exact isDigit_of_mem_toDigits h
    · exact ⟨Nat.toDigits_ne_nil, fun c => isDigit_of_mem_toDigits, digitsValue_toDigits _⟩
  have whole : digits ds = (ds, []) := by
    have h : digits (ds ++ []) = (ds, []) := digits_append digit fun c h => by cases h
    rwa [List.append_nil] at h
  rw [exponentText, padded, exponent?_mark (.inl rfl)]
  split
  · next below =>
    rw [signOf, powerOf?, whole, if_neg (by rwa [List.isEmpty_iff]), value]
    dsimp only
    rw [if_pos rfl]
    have : -(order.natAbs : Int) = order := by omega
    rw [this]
  · next above =>
    rw [signOf, powerOf?, whole, if_neg (by rwa [List.isEmpty_iff]), value]
    dsimp only
    rw [if_neg Bool.false_ne_true]
    have : (order.natAbs : Int) = order := by omega
    rw [this]

/-! ## Forms of decimals -/

/-- A text is read to its end as a decimal. -/
def ReadsAs (negative : Bool) (cs : List Char) (coefficient : Nat) (power : Int) : Prop :=
  unsigned? negative cs = some (.ok (float (.ofDecimal negative coefficient power), []))

section Forms

variable {whole places : List Char} (some : whole ≠ []) (digit : ∀ c ∈ whole, c.isDigit = true)
  (head : whole.head? ≠ Option.some '0' ∨ whole = ['0']) (negative : Bool)

include some digit head

theorem readsAs_exponent (order : Int) :
    ReadsAs negative (whole ++ exponentText order) (digitsValue whole) order := by
  have mark : ∀ c ∈ (exponentText order).head?, c.isDigit = false := fun c h => by cases h; rfl
  have noFraction : fraction? (exponentText order) = none := by
    rw [exponentText, fraction?]
    intro _ e
    exact absurd (List.cons.inj e).1 (by decide)
  unfold ReadsAs unsigned?
  rw [wholePart?_digits some digit head mark, Option.bind_eq_bind, Option.bind_some]
  dsimp only
  rw [noFraction]
  dsimp only [Option.map_none, Option.getD_none]
  rw [exponent?_exponentText]

variable (somePlaces : places ≠ []) (digitPlaces : ∀ c ∈ places, c.isDigit = true)

include somePlaces digitPlaces

theorem readsAs_point :
    ReadsAs negative (whole ++ '.' :: places) (digitsValue (whole ++ places))
      (-places.length) := by
  have point : ∀ c ∈ ('.' :: places).head?, c.isDigit = false := fun c h => by cases h; rfl
  have fraction : fraction? ('.' :: (places ++ [])) = Option.some (places, []) :=
    fraction?_digits somePlaces digitPlaces fun c h => by cases h
  rw [List.append_nil] at fraction
  unfold ReadsAs unsigned?
  rw [wholePart?_digits some digit head point, Option.bind_eq_bind, Option.bind_some]
  dsimp only
  rw [fraction]
  rfl

theorem readsAs_pointExponent (order : Int) :
    ReadsAs negative (whole ++ '.' :: (places ++ exponentText order))
      (digitsValue (whole ++ places)) (order - places.length) := by
  have point : ∀ c ∈ ('.' :: (places ++ exponentText order)).head?, c.isDigit = false :=
    fun c h => by cases h; rfl
  have mark : ∀ c ∈ (exponentText order).head?, c.isDigit = false := fun c h => by cases h; rfl
  unfold ReadsAs unsigned?
  rw [wholePart?_digits some digit head point, Option.bind_eq_bind, Option.bind_some]
  dsimp only
  rw [fraction?_digits somePlaces digitPlaces mark]
  dsimp only [Option.map_some, Option.getD_some]
  rw [exponent?_exponentText]

end Forms

/-! ## Texts of numbers -/

/-- A text is read to its end as a decimal of this value. -/
def ReadsValue (negative : Bool) (cs : List Char) (x : ℚ) : Prop :=
  ∃ c p, ReadsAs negative cs c p ∧ (c : ℚ) * (10 : ℚ) ^ p = x

section Texts

variable {ds : List Char} (some : ds ≠ []) (digit : ∀ c ∈ ds, c.isDigit = true)
  (head : ds.head? ≠ Option.some '0') (negative : Bool)

include some digit head

theorem readsValue_positional (whole : Int) :
    ReadsValue negative (positional ds whole)
      (digitsValue ds * (10 : ℚ) ^ (whole - ds.length)) := by
  unfold positional
  split
  · -- zeros stand between the point and the digits
    next front =>
    have places : ∀ c ∈ List.replicate (-whole).toNat '0' ++ ds, c.isDigit = true := fun c h =>
      (List.mem_append.1 h).elim isDigit_of_mem_zeros (digit c)
    refine ⟨_, _, readsAs_point (List.cons_ne_nil '0' []) (List.forall_mem_singleton.2 rfl)
      (.inr rfl) negative (List.append_ne_nil_of_right_ne_nil _ some) places, ?_⟩
    have value : digitsValue (['0'] ++ (List.replicate (-whole).toNat '0' ++ ds)) =
        digitsValue ds :=
      (digitsValue_zeros_append 1 _).trans (digitsValue_zeros_append _ ds)
    have power : -((List.replicate (-whole).toNat '0' ++ ds).length : Int) = whole - ds.length := by
      rw [List.length_append, List.length_replicate]
      omega
    rw [value, power]
  · split
    · -- zeros stand between the digits and the point
      next behind =>
      have digits : ∀ c ∈ ds ++ List.replicate (whole.toNat - ds.length) '0', c.isDigit = true :=
        fun c h => (List.mem_append.1 h).elim (digit c) isDigit_of_mem_zeros
      have first : (ds ++ List.replicate (whole.toNat - ds.length) '0').head? ≠
          Option.some '0' := by
        rwa [List.head?_append_of_ne_nil _ some]
      refine ⟨_, _, readsAs_point (List.append_ne_nil_of_left_ne_nil some _) digits (.inl first)
        negative (List.cons_ne_nil '0' []) (List.forall_mem_singleton.2 rfl), ?_⟩
      have value : digitsValue (ds ++ List.replicate (whole.toNat - ds.length) '0' ++ ['0']) =
          digitsValue ds * 10 ^ (whole.toNat - ds.length) * 10 := by
        rw [← digitsValue_append_zeros]
        exact digitsValue_append_zeros _ 1
      have power : whole - ds.length = ((whole.toNat - ds.length : Nat) : Int) := by omega
      rw [value, power, zpow_natCast]
      push_cast
      simp [mul_assoc]
    · -- the point stands among the digits
      next front behind =>
      have before : ds.take whole.toNat ≠ [] := by
        rw [ne_eq, List.take_eq_nil_iff, not_or]
        exact ⟨by omega, some⟩
      have after : ds.drop whole.toNat ≠ [] := by
        rw [ne_eq, List.drop_eq_nil_iff]
        omega
      have first : (ds.take whole.toNat).head? ≠ Option.some '0' := by
        rwa [List.head?_take, if_neg (by omega)]
      refine ⟨_, _, readsAs_point before (fun c h => digit c (List.mem_of_mem_take h)) (.inl first)
        negative after (fun c h => digit c (List.mem_of_mem_drop h)), ?_⟩
      have power : -((ds.drop whole.toNat).length : Int) = whole - ds.length := by
        rw [List.length_drop]
        omega
      rw [List.take_append_drop, power]

theorem readsValue_scientific (order : Int) :
    ReadsValue negative (scientific ds order)
      (digitsValue ds * (10 : ℚ) ^ (order + 1 - ds.length)) := by
  rcases ds with _ | ⟨first, _ | ⟨second, rest⟩⟩
  · exact absurd rfl some
  · refine ⟨_, _, readsAs_exponent some digit (.inl head) negative order, ?_⟩
    rw [List.length_singleton, Nat.cast_one, add_sub_cancel_right]
  · have single : ∀ c ∈ [first], c.isDigit = true := fun c h =>
      digit c (List.mem_singleton.1 h ▸ List.mem_cons_self)
    refine ⟨_, _, readsAs_pointExponent (List.cons_ne_nil first []) single (.inl head) negative
      (List.cons_ne_nil second rest) (fun c h => digit c (List.mem_cons_of_mem _ h)) order, ?_⟩
    have power : order - ((second :: rest).length : Int) =
        order + 1 - ((first :: second :: rest).length : Int) := by
      rw [List.length_cons (a := first)]
      omega
    rw [power]
    rfl

end Texts

/-- The digits of a number that is not zero without the zeros at their end. -/
theorem exists_stripped {n : Nat} (nonzero : n ≠ 0) :
    ∃ ds count, ((Nat.toDigits 10 n).reverse.dropWhile (· = '0')).reverse = ds ∧
      Nat.toDigits 10 n = ds ++ List.replicate count '0' ∧ ds ≠ [] ∧
      ds.head? ≠ some '0' ∧ ∀ c ∈ ds, c.isDigit = true := by
  obtain ⟨ds, stripped⟩ :
      ∃ ds, ((Nat.toDigits 10 n).reverse.dropWhile (· = '0')).reverse = ds := ⟨_, rfl⟩
  obtain ⟨zeros, trailing⟩ :
      ∃ zeros, ((Nat.toDigits 10 n).reverse.takeWhile (· = '0')).reverse = zeros := ⟨_, rfl⟩
  have split : Nat.toDigits 10 n = ds ++ zeros := by
    rw [← stripped, ← trailing, ← List.reverse_append, List.takeWhile_append_dropWhile,
      List.reverse_reverse]
  have all : zeros = List.replicate zeros.length '0' := by
    refine List.eq_replicate_of_mem fun c h => ?_
    rw [← trailing, List.mem_reverse] at h
    exact of_decide_eq_true (List.all_eq_true.1 List.all_takeWhile c h)
  have head := head?_toDigits_ne nonzero
  have nonempty : ds ≠ [] := by
    rintro rfl
    rw [List.nil_append] at split
    rcases zeros with _ | ⟨zero, zeros⟩
    · exact Nat.toDigits_ne_nil split
    · rw [split] at head
      rw [List.length_cons, List.replicate_succ] at all
      exact head (congrArg some (List.cons.inj all).1)
  refine ⟨ds, zeros.length, stripped, by rw [← all, split], nonempty, ?_, fun c h => ?_⟩
  · rwa [split, List.head?_append_of_ne_nil _ nonempty] at head
  · refine isDigit_of_mem_toDigits (n := n) ?_
    rw [split]
    exact List.mem_append_left _ h

theorem readsValue_unsignedText {m : Nat} {e : Int} (nonzero : m ≠ 0)
    (some : (Binary64.shortest m e).coefficient ≠ 0) (negative : Bool) :
    ReadsValue negative (Binary64.unsignedText m e)
      ((Binary64.shortest m e).coefficient * (10 : ℚ) ^ (Binary64.shortest m e).power) := by
  obtain ⟨ds, count, stripped, whole, nonempty, head, digit⟩ := exists_stripped some
  have value : digitsValue ds * 10 ^ count = (Binary64.shortest m e).coefficient := by
    rw [← digitsValue_append_zeros, ← whole, digitsValue_toDigits]
  have length : (Nat.toDigits 10 (Binary64.shortest m e).coefficient).length =
      ds.length + count := by
    rw [whole, List.length_append, List.length_replicate]
  have same (k : Int) (h : k = (Binary64.shortest m e).power + count) :
      (digitsValue ds : ℚ) * (10 : ℚ) ^ k =
        (Binary64.shortest m e).coefficient * (10 : ℚ) ^ (Binary64.shortest m e).power := by
    rw [h, ← value, zpow_add₀ (by norm_num), zpow_natCast]
    push_cast
    ring
  unfold Binary64.unsignedText
  rw [if_neg nonzero]
  dsimp only
  rw [stripped, length]
  split
  · have reading := readsValue_positional nonempty digit head negative
      ((Binary64.shortest m e).power + (ds.length + count : Nat) - 1 + 1)
    rwa [same _ (by omega)] at reading
  · have reading := readsValue_scientific nonempty digit head negative
      ((Binary64.shortest m e).power + (ds.length + count : Nat) - 1)
    rwa [same _ (by omega)] at reading

/-- A text that is read to its end as a number without a sign is read as one with its sign. -/
theorem number?_signed {negative : Bool} {cs : List Char} {r : Reading Json}
    (h : unsigned? negative cs = some r) :
    number? (if negative then '-' :: cs else cs) = some r := by
  cases negative with
  | true => exact h
  | false =>
    obtain ⟨c, rest, rfl, digit⟩ := exists_digit_of_unsigned? h
    exact (number?_digit digit rest).trans h

/-- The text of any finite number is read to its end, though perhaps as another number. -/
theorem exists_number?_finite (negative : Bool) (m : Nat) (e : Int) :
    ∃ v, number? ((Binary64.finite negative m e).text documentNames).toList =
      some (.ok (v, [])) := by
  rw [Binary64.text, String.toList_ofList]
  by_cases zero : m = 0
  · subst zero
    exact ⟨float (.ofDecimal negative 0 (-1)), number?_signed rfl⟩
  · have positive := Binary64.shortest_coefficient_pos (Nat.pos_of_ne_zero zero) e
    obtain ⟨c, p, reading, -⟩ := readsValue_unsignedText zero positive.ne' negative
    exact ⟨_, number?_signed reading⟩

/-- Every finite number is read back from its text. -/
theorem readsBack_finite {m : Nat} {e : Int} (canonical : Binary64.IsCanonical m e)
    (negative : Bool) : ReadsBack (.finite negative m e) := by
  unfold ReadsBack
  rw [Binary64.text, String.toList_ofList]
  refine number?_signed ?_
  by_cases zero : m = 0
  · subst zero
    have least : e = Binary64.leastExponent := canonical.normal.resolve_left (by decide)
    rw [least]
    rfl
  · have nonzero : 0 < m := Nat.pos_of_ne_zero zero
    have rounds := Binary64.roundsTo_shortest canonical nonzero
    obtain ⟨c, p, reading, value⟩ :=
      readsValue_unsignedText zero (Binary64.shortest_coefficient_pos nonzero e).ne' negative
    rw [← value] at rounds
    have coefficient := rounds.coefficient_pos nonzero
    rw [← Binary64.ofDecimal_eq canonical nonzero coefficient rounds negative]
    exact reading

end IteratedDilemma.Json
