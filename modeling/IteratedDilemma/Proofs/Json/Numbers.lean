import Mathlib.Tactic.Ring
import IteratedDilemma.Json.Parser
import IteratedDilemma.Json.Printer

/-! Numbers in documents. A whole number that can be written is read back from in front of anything
that is no part of a number (`scalar_int`), and so is any number from a text that is read to its end
(`scalar_number`). -/
namespace IteratedDilemma
set_option autoImplicit false

namespace Json

open Grammar

/-! ## Whole numbers -/

/-- What may follow a whole number. -/
def EndsNumber (rest : List Char) : Prop :=
  ∀ c ∈ rest.head?, c.isDigit = false ∧ c ≠ '.' ∧ c ≠ 'e' ∧ c ≠ 'E'

theorem digitsValue_toDigits (n : Nat) : digitsValue (Nat.toDigits 10 n) = n := by
  have h := Nat.ofDigitChars_ten_toDigits (n := n)
  rw [Nat.ofDigitChars_eq_foldl] at h
  have step : (fun sofar (c : Char) => 10 * sofar + (c.toNat - '0'.toNat)) =
      fun value c => value * 10 + (c.toNat - 48) := by
    funext sofar c
    rw [Nat.mul_comm]
    rfl
  rw [step] at h
  exact h

theorem foldl_digits (start : Nat) (ds : List Char) :
    ds.foldl (fun value c => value * 10 + (c.toNat - 48)) start =
      start * 10 ^ ds.length + digitsValue ds := by
  induction ds generalizing start with
  | nil => simp [digitsValue]
  | cons d ds ih =>
    have whole : digitsValue (d :: ds) = (0 * 10 + (d.toNat - 48)) * 10 ^ ds.length +
        digitsValue ds := ih (0 * 10 + (d.toNat - 48))
    rw [List.foldl_cons, ih, whole, List.length_cons, Nat.pow_succ]
    ring

theorem digitsValue_append (ds es : List Char) :
    digitsValue (ds ++ es) = digitsValue ds * 10 ^ es.length + digitsValue es := by
  rw [digitsValue, List.foldl_append]
  exact foldl_digits _ es

theorem digitsValue_cons (d : Char) (ds : List Char) :
    digitsValue (d :: ds) = (d.toNat - 48) * 10 ^ ds.length + digitsValue ds := by
  have first : digitsValue [d] = d.toNat - 48 := Nat.zero_add _
  have h := digitsValue_append [d] ds
  rw [first] at h
  exact h

theorem digitsValue_zeros (count : Nat) : digitsValue (List.replicate count '0') = 0 := by
  induction count with
  | zero => rfl
  | succ count ih => exact ih

theorem isDigit_of_mem_toDigits {n : Nat} {c : Char} (h : c ∈ Nat.toDigits 10 n) :
    c.isDigit = true :=
  Nat.isDigit_of_mem_toDigits (by omega) (by omega) h

theorem digits_append {ds rest : List Char} (digit : ∀ c ∈ ds, c.isDigit = true)
    (ends : ∀ c ∈ rest.head?, c.isDigit = false) : digits (ds ++ rest) = (ds, rest) := by
  unfold digits
  rw [List.takeWhile_append_of_pos digit, List.dropWhile_append_of_pos digit]
  cases rest with
  | nil => rw [List.takeWhile_nil, List.append_nil, List.dropWhile_nil]
  | cons c rest =>
    have hc : ¬c.isDigit = true := by rw [ends c rfl]; exact Bool.false_ne_true
    rw [List.takeWhile_cons_of_neg hc, List.append_nil, List.dropWhile_cons_of_neg hc]

theorem head?_toDigits_ne {n : Nat} (h : n ≠ 0) : (Nat.toDigits 10 n).head? ≠ some '0' := by
  induction n using Nat.strongRecOn with
  | ind n ih =>
    by_cases small : n < 10
    · rw [Nat.toDigits_of_lt_base small]
      have each : ∀ m < 10, m ≠ 0 → some (Nat.digitChar m) ≠ some '0' := by decide
      exact each n small h
    · rw [Nat.toDigits_eq_if (by omega), if_neg small]
      have shorter := ih (n / 10) (by omega) (by omega)
      rcases e : Nat.toDigits 10 (n / 10) with _ | ⟨c, ds⟩
      · exact absurd e Nat.toDigits_ne_nil
      · rw [e] at shorter
        exact shorter

/-- Digits are a whole part if they do not start with zero, or if there is one only. -/
theorem wholePart?_digits {ds rest : List Char} (some : ds ≠ [])
    (digit : ∀ c ∈ ds, c.isDigit = true) (head : ds.head? ≠ Option.some '0' ∨ ds = ['0'])
    (ends : ∀ c ∈ rest.head?, c.isDigit = false) :
    wholePart? (ds ++ rest) = Option.some (ds, rest) := by
  rcases head with head | rfl
  · rcases ds with _ | ⟨c, ds⟩
    · exact absurd rfl some
    · have notZero : c ≠ '0' := by
        rintro rfl
        exact head rfl
      rw [List.cons_append, wholePart?, if_pos (digit c List.mem_cons_self), ← List.cons_append,
        digits_append digit ends]
      exact fun h => notZero h
  · rfl

theorem wholePart?_toDigits (n : Nat) {rest : List Char}
    (ends : ∀ c ∈ rest.head?, c.isDigit = false) :
    wholePart? (Nat.toDigits 10 n ++ rest) = some (Nat.toDigits 10 n, rest) := by
  refine wholePart?_digits Nat.toDigits_ne_nil (fun c => isDigit_of_mem_toDigits) ?_ ends
  by_cases zero : n = 0
  · rw [zero]
    exact .inr rfl
  · exact .inl (head?_toDigits_ne zero)

theorem fraction?_ends {rest : List Char} (ends : EndsNumber rest) : fraction? rest = none := by
  cases rest with
  | nil => rfl
  | cons c rest =>
    have hc := (ends c rfl).2.1
    rw [fraction?]
    intro _ e
    exact hc (List.cons.inj e).1

theorem exponent?_ends {rest : List Char} (ends : EndsNumber rest) : exponent? rest = none := by
  cases rest with
  | nil => rfl
  | cons c rest =>
    have hc := (ends c rfl).2.2
    unfold exponent?
    exact if_neg fun h => h.elim hc.1 hc.2

theorem length_toDigits_le {n limit : Nat} (positive : 0 < limit) (h : n < Nat.pow 10 limit) :
    ¬limit < (Nat.toDigits 10 n).length := by
  have le := (Nat.length_toDigits_le_iff (b := 10) (by omega) positive).2 h
  omega

theorem wholeNumber_toDigits (negative : Bool) {n : Nat}
    (writable : n < Nat.pow 10 IntegerText.digitLimit) :
    wholeNumber negative (Nat.toDigits 10 n) = .ok (int (if negative then -(n : Int) else n)) := by
  rw [wholeNumber, if_neg (length_toDigits_le (by decide) writable), digitsValue_toDigits]

/-- Digits are a whole number, or too many for one, and what follows them is left. -/
theorem unsigned?_toDigits (negative : Bool) (n : Nat) {rest : List Char}
    (ends : EndsNumber rest) :
    unsigned? negative (Nat.toDigits 10 n ++ rest) =
      some ((wholeNumber negative (Nat.toDigits 10 n)).map fun v => (v, rest)) := by
  have noDigit : ∀ c ∈ rest.head?, c.isDigit = false := fun c hc => (ends c hc).1
  unfold unsigned?
  rw [wholePart?_toDigits n noDigit, Option.bind_eq_bind, Option.bind_some]
  dsimp only
  rw [fraction?_ends ends]
  dsimp only [Option.map_none, Option.getD_none]
  rw [exponent?_ends ends]

theorem toString_eq (n : Int) :
    (toString n).toList =
      (if n < 0 then ['-'] else []) ++ Nat.toDigits 10 n.natAbs := by
  cases n with
  | ofNat m =>
    have notNegative : ¬Int.ofNat m < 0 := Int.not_lt.2 (Int.natCast_nonneg m)
    rw [if_neg notNegative]
    exact Nat.toList_repr
  | negSucc m =>
    rw [if_pos (by omega)]
    change ("-" ++ Nat.repr (m + 1)).toList = _
    rw [String.toList_append, Nat.toList_repr]
    rfl

theorem number?_digit {c : Char} (digit : c.isDigit = true) (rest : List Char) :
    number? (c :: rest) = unsigned? false (c :: rest) := by
  have notMinus : c ≠ '-' := by rintro rfl; exact absurd digit (by decide)
  rw [number?.eq_def]
  split
  · next e => exact absurd (List.cons.inj e).1 notMinus
  · rfl

theorem scalar_digit {c : Char} (digit : c.isDigit = true) (rest : List Char) :
    scalar (c :: rest) = match unsigned? false (c :: rest) with
      | some reading => reading
      | none => .error (.misplaced .value (c :: rest)) := by
  rw [scalar.eq_def, ← number?_digit digit]
  split
  all_goals first
    | rfl
    | next e => exact absurd (by rw [(List.cons.inj e).1] at digit; exact digit) (by decide)

theorem scalar_minus {c : Char} (digit : c.isDigit = true) (rest : List Char) :
    scalar ('-' :: c :: rest) = match unsigned? true (c :: rest) with
      | some reading => reading
      | none => .error (.misplaced .value ('-' :: c :: rest)) := by
  rw [scalar.eq_def]
  split
  all_goals first
    | rfl
    | next e => exact absurd (List.cons.inj e).1 (by decide)
    | next e =>
      have second := (List.cons.inj (List.cons.inj e).2).1
      exact absurd (by rw [second] at digit; exact digit) (by decide)

/-- A whole number is read as its digits are. -/
theorem scalar_toString (n : Int) {rest : List Char} (ends : EndsNumber rest) :
    scalar ((toString n).toList ++ rest) =
      (wholeNumber (n < 0) (Nat.toDigits 10 n.natAbs)).map fun v => (v, rest) := by
  have reading (negative : Bool) := unsigned?_toDigits negative n.natAbs ends
  rcases e : Nat.toDigits 10 n.natAbs with _ | ⟨c, ds⟩
  · exact absurd e Nat.toDigits_ne_nil
  · have digit : c.isDigit = true := by
      refine isDigit_of_mem_toDigits (n := n.natAbs) ?_
      rw [e]
      exact List.mem_cons_self
    rw [e, List.cons_append] at reading
    rw [toString_eq, e]
    by_cases negative : n < 0
    · rw [if_pos negative, List.cons_append, List.cons_append, List.nil_append, List.cons_append,
        scalar_minus digit, reading true, decide_eq_true negative]
    · rw [if_neg negative, List.nil_append, List.cons_append, scalar_digit digit, reading false,
        decide_eq_false negative]

theorem scalar_int {n : Int} (writable : IntegerText.isWritable n = true) {rest : List Char}
    (ends : EndsNumber rest) : scalar ((toString n).toList ++ rest) = .ok (int n, rest) := by
  have value : (if decide (n < 0) = true then -(n.natAbs : Int) else n.natAbs) = n := by
    simp only [decide_eq_true_eq]
    omega
  rw [scalar_toString n ends, wholeNumber_toDigits _ (of_decide_eq_true writable), value]
  rfl

theorem toString_head (n : Int) :
    ∃ c cs, (toString n).toList = c :: cs ∧ (c = '-' ∨ c.isDigit = true) := by
  rw [toString_eq]
  by_cases negative : n < 0
  · rw [if_pos negative]
    exact ⟨'-', _, rfl, .inl rfl⟩
  · rw [if_neg negative, List.nil_append]
    rcases e : Nat.toDigits 10 n.natAbs with _ | ⟨c, ds⟩
    · exact absurd e Nat.toDigits_ne_nil
    · refine ⟨c, ds, rfl, .inr (isDigit_of_mem_toDigits (n := n.natAbs) ?_)⟩
      rw [e]
      exact List.mem_cons_self

/-! ## Floating-point numbers -/

theorem digits_of_ends {cs rest : List Char} (ends : ∀ c ∈ rest.head?, c.isDigit = false) :
    digits (cs ++ rest) = ((digits cs).1, (digits cs).2 ++ rest) := by
  induction cs with
  | nil =>
    have none : ∀ c ∈ ([] : List Char), c.isDigit = true := fun c h => absurd h List.not_mem_nil
    exact digits_append none ends
  | cons c cs ih =>
    by_cases digit : c.isDigit = true
    · simp only [digits, List.cons_append, List.takeWhile_cons_of_pos digit,
        List.dropWhile_cons_of_pos digit] at ih ⊢
      simp only [Prod.mk.injEq] at ih
      rw [ih.1, ih.2]
    · simp only [digits, List.cons_append, List.takeWhile_cons_of_neg digit,
        List.dropWhile_cons_of_neg digit]

/-- Whether an exponent has a minus, and what stands behind its sign. -/
def signOf : List Char → Bool × List Char
  | '-' :: rest => (true, rest)
  | '+' :: rest => (false, rest)
  | rest => (false, rest)

/-- The exponent of digits behind a sign. -/
def powerOf? (negative : Bool) (cs : List Char) : Option (Int × List Char) :=
  if (digits cs).1.isEmpty then none
  else
    some (if negative then -(digitsValue (digits cs).1 : Int) else digitsValue (digits cs).1,
      (digits cs).2)

theorem exponent?_mark {c : Char} (mark : c = 'e' ∨ c = 'E') (cs : List Char) :
    exponent? (c :: cs) = powerOf? (signOf cs).1 (signOf cs).2 :=
  (if_pos mark).trans rfl

theorem signOf_append {cs : List Char} (some : cs ≠ []) (rest : List Char) :
    signOf (cs ++ rest) = ((signOf cs).1, (signOf cs).2 ++ rest) := by
  rcases cs with _ | ⟨c, cs⟩
  · exact absurd rfl some
  · by_cases minus : c = '-'
    · subst minus
      rfl
    · by_cases plus : c = '+'
      · subst plus
        rfl
      · have unsigned (cs : List Char) : signOf (c :: cs) = (false, c :: cs) :=
          signOf.eq_3 (c :: cs) (fun _ e => minus (List.cons.inj e).1)
            fun _ e => plus (List.cons.inj e).1
        rw [List.cons_append, unsigned, unsigned]
        rfl

section Following

variable {rest : List Char} (ends : EndsNumber rest)

include ends

theorem digits_following (cs : List Char) :
    digits (cs ++ rest) = ((digits cs).1, (digits cs).2 ++ rest) :=
  digits_of_ends fun c h => (ends c h).1

theorem wholePart?_following {cs ds left : List Char} (h : wholePart? cs = some (ds, left)) :
    wholePart? (cs ++ rest) = some (ds, left ++ rest) := by
  rcases cs with _ | ⟨c, cs⟩
  · cases h
  · by_cases zero : c = '0'
    · subst zero
      cases h
      rfl
    · have part (t : List Char) :
          wholePart? (c :: t) = if c.isDigit then some (digits (c :: t)) else none :=
        wholePart?.eq_2 c t zero
      rw [part] at h
      rw [List.cons_append, part, ← List.cons_append, digits_following ends]
      split at h
      · next digit =>
        rw [if_pos digit, Option.some.inj h]
      · cases h

theorem fraction?_following (cs : List Char) :
    fraction? (cs ++ rest) = (fraction? cs).map fun p => (p.1, p.2 ++ rest) := by
  rcases cs with _ | ⟨c, cs⟩
  · exact fraction?_ends ends
  · by_cases point : c = '.'
    · subst point
      simp only [List.cons_append, fraction?, digits_following ends]
      split <;> rfl
    · have none (t : List Char) : fraction? (c :: t) = none := by
        rw [fraction?]
        exact fun _ e => point (List.cons.inj e).1
      rw [List.cons_append, none, none]
      rfl

theorem powerOf?_following {negative : Bool} {cs left : List Char} {power : Int}
    (h : powerOf? negative cs = some (power, left)) :
    powerOf? negative (cs ++ rest) = some (power, left ++ rest) := by
  unfold powerOf? at h ⊢
  rw [digits_following ends]
  split at h
  · cases h
  · next digits =>
    rw [if_neg digits]
    cases h
    rfl

theorem exponent?_following {cs left : List Char} {power : Int}
    (h : exponent? cs = some (power, left)) :
    exponent? (cs ++ rest) = some (power, left ++ rest) := by
  rcases cs with _ | ⟨c, cs⟩
  · cases h
  · by_cases mark : c = 'e' ∨ c = 'E'
    · rw [exponent?_mark mark] at h
      rw [List.cons_append, exponent?_mark mark]
      rcases cs with _ | ⟨d, cs⟩
      · cases h
      · rw [signOf_append (List.cons_ne_nil _ _)]
        exact powerOf?_following ends h
    · have none : exponent? (c :: cs) = none := if_neg mark
      rw [none] at h
      cases h

/-- A number that is all of a text is read in front of what is no part of a number. -/
theorem unsigned?_following {negative : Bool} {cs : List Char} {v : Json}
    (h : unsigned? negative cs = some (.ok (v, []))) :
    unsigned? negative (cs ++ rest) = some (.ok (v, rest)) := by
  unfold unsigned? at h ⊢
  rcases part : wholePart? cs with _ | ⟨whole, left⟩
  · rw [part] at h
    cases h
  · rw [part, Option.bind_eq_bind, Option.bind_some] at h
    rw [wholePart?_following ends part, Option.bind_eq_bind, Option.bind_some]
    dsimp only at h ⊢
    rw [fraction?_following ends]
    -- without an exponent nothing is left, and what follows has none
    rcases places : fraction? left with _ | ⟨digits, behind⟩ <;> rw [places] at h
    · dsimp only [Option.map_none, Option.getD_none] at h ⊢
      rcases raised : exponent? left with _ | ⟨power, end_⟩ <;> rw [raised] at h
      · rcases whole' : wholeNumber negative whole with fault | n <;> rw [whole'] at h <;> cases h
        rw [List.nil_append, exponent?_ends ends]
        rfl
      · cases h
        rw [exponent?_following ends raised]
        rfl
    · dsimp only [Option.map_some, Option.getD_some] at h ⊢
      rcases raised : exponent? behind with _ | ⟨power, end_⟩ <;> rw [raised] at h
      · cases h
        rw [List.nil_append, exponent?_ends ends]
      · cases h
        rw [exponent?_following ends raised]
        rfl

end Following

theorem exists_digit_of_unsigned? {negative : Bool} {cs : List Char} {r : Reading Json}
    (h : unsigned? negative cs = some r) : ∃ c rest, cs = c :: rest ∧ c.isDigit = true := by
  rcases cs with _ | ⟨c, rest⟩
  · cases h
  · refine ⟨c, rest, rfl, ?_⟩
    by_cases zero : c = '0'
    · subst zero
      rfl
    · cases digit : c.isDigit
      · have none : wholePart? (c :: rest) = none :=
          (wholePart?.eq_2 c rest zero).trans (if_neg (by rw [digit]; exact Bool.false_ne_true))
        rw [unsigned?, none] at h
        cases h
      · rfl

theorem exists_start_of_number? {cs : List Char} {r : Reading Json} (h : number? cs = some r) :
    ∃ c ds, cs = c :: ds ∧ (c = '-' ∨ c.isDigit = true) := by
  unfold number? at h
  split at h
  · exact ⟨'-', _, rfl, .inl rfl⟩
  · obtain ⟨c, ds, e, digit⟩ := exists_digit_of_unsigned? h
    exact ⟨c, ds, e, .inr digit⟩

theorem scalar_number {cs : List Char} {v : Json} (h : number? cs = some (.ok (v, [])))
    {rest : List Char} (ends : EndsNumber rest) : scalar (cs ++ rest) = .ok (v, rest) := by
  unfold number? at h
  split at h
  · next behind =>
    obtain ⟨c, ds, rfl, digit⟩ := exists_digit_of_unsigned? h
    have more := unsigned?_following ends h
    rw [List.cons_append] at more
    rw [List.cons_append, List.cons_append, scalar_minus digit, more]
  · obtain ⟨c, ds, rfl, digit⟩ := exists_digit_of_unsigned? h
    have more := unsigned?_following ends h
    rw [List.cons_append] at more
    rw [List.cons_append, scalar_digit digit, more]

/-- The text of a floating-point number is read as that number. -/
def ReadsBack (x : Binary64) : Prop :=
  number? (x.text documentNames).toList = some (.ok (float x, []))

theorem return_notMem_toDigits (n : Nat) : '\r' ∉ Nat.toDigits 10 n := fun h =>
  absurd (isDigit_of_mem_toDigits h) (by decide)

theorem return_notMem_positional {digits : List Char} (h : '\r' ∉ digits) (whole : Int) :
    '\r' ∉ Binary64.positional digits whole := by
  have front := fun n => mt (List.mem_of_mem_take (i := n)) h
  have back := fun n => mt (List.mem_of_mem_drop (i := n)) h
  unfold Binary64.positional
  split
  · simp [h]
  · split <;> simp [h, front, back]

theorem return_notMem_scientific {digits : List Char} (h : '\r' ∉ digits) (order : Int) :
    '\r' ∉ Binary64.scientific digits order := by
  have padded : '\r' ∉ (if (Nat.toDigits 10 order.natAbs).length < 2 then
      '0' :: Nat.toDigits 10 order.natAbs else Nat.toDigits 10 order.natAbs) := by
    split <;> simp [return_notMem_toDigits]
  have sign : '\r' ≠ (if order < 0 then '-' else '+') := by split <;> decide
  unfold Binary64.scientific
  dsimp only
  simp only [List.mem_append, List.mem_cons, not_or]
  refine ⟨?_, by decide, sign, padded⟩
  split
  · simpa using h
  · exact h

theorem return_notMem_float (x : Binary64) : '\r' ∉ (x.text documentNames).toList := by
  have unsigned (m : Nat) (e : Int) : '\r' ∉ Binary64.unsignedText m e := by
    unfold Binary64.unsignedText
    split
    · decide
    · have digits : '\r' ∉ ((Nat.toDigits 10 (Binary64.shortest m e).coefficient).reverse.dropWhile
          (· = '0')).reverse := by
        rw [List.mem_reverse]
        exact fun h => return_notMem_toDigits _
          (List.mem_reverse.1 ((List.dropWhile_sublist _).subset h))
      dsimp only
      split
      · exact return_notMem_positional digits _
      · exact return_notMem_scientific digits _
  cases x with
  | finite negative m e =>
    rw [Binary64.text, String.toList_ofList]
    cases negative <;> simp [unsigned]
  | infinite negative => cases negative <;> decide
  | notANumber => decide

end Json
end IteratedDilemma
