import IteratedDilemma.Number.IntegerText

/-! Numerals. A whole number that is read from a text is short enough to be written
(`isWritable_of_read`). -/
namespace IteratedDilemma.IntegerText
set_option autoImplicit false

theorem decimalValue?_lt {c : CodePoint} {d : Nat} (h : Text.decimalValue? c = some d) :
    d < 10 := by
  obtain ⟨row, found, rfl⟩ := Option.map_eq_some_iff.1 h
  have within := List.find?_some found
  rw [Bool.and_eq_true, decide_eq_true_eq, decide_eq_true_eq] at within
  omega

theorem digits?_lt {t after : Text} {ds : List Nat} (h : digits? t = some (ds, after)) :
    ∀ d ∈ ds, d < 10 := by
  induction t generalizing ds after with
  | nil =>
    cases h
    exact fun _ hd => absurd hd List.not_mem_nil
  | cons c rest ih =>
    rw [digits?] at h
    split at h
    · next d digit =>
      obtain ⟨⟨later, behind⟩, found, e⟩ := Option.map_eq_some_iff.1 h
      cases e
      intro e he
      rcases List.mem_cons.1 he with rfl | he
      · exact decimalValue?_lt digit
      · exact ih found e he
    · split at h
      · cases h
        exact fun _ hd => absurd hd List.not_mem_nil
      · split at h
        · exact ih h
        · cases h

theorem foldl_lt {ds : List Nat} (digit : ∀ d ∈ ds, d < 10) {start bound : Nat}
    (small : start < bound) :
    ds.foldl (fun n d => n * 10 + d) start < bound * Nat.pow 10 ds.length := by
  induction ds generalizing start bound with
  | nil =>
    have empty : bound * Nat.pow 10 ([] : List Nat).length = bound := Nat.mul_one bound
    rwa [empty]
  | cons d ds ih =>
    have first := digit d List.mem_cons_self
    have next : start * 10 + d < bound * 10 := by omega
    have later := ih (fun e he => digit e (List.mem_cons_of_mem _ he)) next
    have power : Nat.pow 10 (d :: ds).length = 10 * Nat.pow 10 ds.length := Nat.pow_succ'
    rwa [power, ← Nat.mul_assoc]

theorem value_lt {ds : List Nat} (digit : ∀ d ∈ ds, d < 10) {limit : Nat}
    (short : ds.length ≤ limit) : value ds < Nat.pow 10 limit := by
  have small := foldl_lt digit Nat.zero_lt_one
  rw [Nat.one_mul] at small
  exact Nat.lt_of_lt_of_le small (Nat.pow_le_pow_right (by omega) short)

theorem numeral_lt {t : Text} {n : Nat} (h : numeral t = .ok n) :
    n < Nat.pow 10 digitLimit := by
  unfold numeral at h
  split at h
  · cases h
  · next digits after found =>
    split at h
    · cases h
    · next short =>
      split at h <;> cases h
      refine value_lt (fun d hd => ?_) (Nat.not_lt.1 short)
      split at found
      · cases found
      · exact digits?_lt found d hd

theorem isWritable_natCast {n : Nat} :
    isWritable n = true ↔ n < Nat.pow 10 digitLimit := by
  rw [isWritable, decide_eq_true_eq, Int.natAbs_natCast]

theorem isWritable_neg (n : Int) : isWritable (-n) = isWritable n := by
  rw [isWritable, isWritable, Int.natAbs_neg]

theorem isWritable_of_read {t : Text} {n : Int} (h : read t = .ok n) : isWritable n = true := by
  unfold read at h
  split at h
  · cases h
  · next c rest _ =>
    split at h
    · rcases e : numeral rest with fault | m <;> rw [e] at h <;> cases h
      exact (isWritable_neg m).trans (isWritable_natCast.2 (numeral_lt e))
    · split at h
      · rcases e : numeral rest with fault | m <;> rw [e] at h <;> cases h
        exact isWritable_natCast.2 (numeral_lt e)
      · rcases e : numeral (c :: rest) with fault | m <;> rw [e] at h <;> cases h
        exact isWritable_natCast.2 (numeral_lt e)

end IteratedDilemma.IntegerText
