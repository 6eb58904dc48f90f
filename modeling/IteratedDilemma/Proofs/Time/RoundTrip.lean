import Mathlib.Data.List.Basic
import IteratedDilemma.Proofs.Json.RoundTrip
import IteratedDilemma.Time.Reading

/-! Timestamps that are written and read again. What is read is the timestamp that was written
(`read_isoText`), unless it has an offset of no whole second that is not zero. -/
namespace IteratedDilemma.Timestamp
set_option autoImplicit false

open Json (digitsValue_toDigits digitsValue_append digitsValue_cons digitsValue_zeros)
open Json.Grammar (digitsValue)

/-! ## Padded numbers -/

theorem number?_digits {ds : List Char} (digit : ∀ c ∈ ds, c.isDigit = true) (rest : List Char) :
    number? ds.length (ds ++ rest) = some (digitsValue ds, rest) := by
  induction ds with
  | nil => rfl
  | cons d ds ih =>
    have first : digitValue? d = some (d.toNat - 48) := if_pos (digit d List.mem_cons_self)
    have later := ih fun c hc => digit c (List.mem_cons_of_mem _ hc)
    rw [List.length_cons, List.cons_append, number?, first, digitsValue_cons]
    rw [Option.bind_eq_bind, Option.bind_some, later]
    rfl

theorem toList_padded (width n : Nat) :
    (padded width n).toList =
      List.replicate (width - (Nat.toDigits 10 n).length) '0' ++ Nat.toDigits 10 n :=
  String.toList_ofList

theorem isDigit_padded {width n : Nat} : ∀ c ∈ (padded width n).toList, c.isDigit = true := by
  intro c h
  rw [toList_padded] at h
  rcases List.mem_append.1 h with h | h
  · rw [List.eq_of_mem_replicate h]
    rfl
  · exact Json.isDigit_of_mem_toDigits h

theorem length_padded {width n : Nat} (positive : 0 < width) (small : n < 10 ^ width) :
    (padded width n).toList.length = width := by
  have le := (Nat.length_toDigits_le_iff (b := 10) (by omega) positive).2 small
  rw [toList_padded, List.length_append, List.length_replicate]
  omega

theorem digitsValue_padded (width n : Nat) : digitsValue (padded width n).toList = n := by
  rw [toList_padded, digitsValue_append, digitsValue_zeros, Nat.zero_mul, Nat.zero_add,
    digitsValue_toDigits]

theorem number?_padded {width n : Nat} (positive : 0 < width) (small : n < 10 ^ width)
    (rest : List Char) : number? width ((padded width n).toList ++ rest) = some (n, rest) := by
  have h := number?_digits (@isDigit_padded width n) rest
  rw [length_padded positive small, digitsValue_padded] at h
  exact h

theorem exists_pair {n : Nat} (small : n < 100) :
    ∃ a b, (padded 2 n).toList = [a, b] ∧ a.isDigit = true ∧ b.isDigit = true ∧
      ∀ rest, number? 2 (a :: b :: rest) = some (n, rest) := by
  have length := length_padded (n := n) (by omega : 0 < 2) small
  have digit := @isDigit_padded 2 n
  have reading := number?_padded (by omega : 0 < 2) small
  obtain ⟨a, b, e⟩ := List.length_eq_two.1 length
  rw [e] at digit reading
  exact ⟨a, b, e, digit a (by simp), digit b (by simp), reading⟩

/-! ## Times of day -/

/-- A fraction of a second, if there is one: a point and six digits. -/
theorem fraction_cases {micro : Nat} (small : micro < 1000000) :
    (micro = 0 ∧ (fractionText micro).toList = []) ∨
      ∃ d ds, (fractionText micro).toList = '.' :: d :: ds ∧
        (∀ c ∈ d :: ds, c.isDigit = true) ∧ fractionOf? (d :: ds) = some (micro, true) := by
  by_cases zero : micro = 0
  · refine .inl ⟨zero, ?_⟩
    rw [fractionText, if_pos zero]
    rfl
  · refine .inr ?_
    have length := length_padded (n := micro) (by omega : 0 < 6) small
    have reading := number?_padded (by omega : 0 < 6) small []
    have digit := @isDigit_padded 6 micro
    have text : (fractionText micro).toList = '.' :: (padded 6 micro).toList := by
      rw [fractionText, if_neg zero, String.toList_append]
      rfl
    rcases e : (padded 6 micro).toList with _ | ⟨d, ds⟩
    · rw [e] at length
      cases length
    · rw [e] at length digit text
      rw [e, List.append_nil] at reading
      refine ⟨d, ds, text, digit, ?_⟩
      rw [fractionOf?, length, Nat.min_self, reading]
      change some (micro * Nat.pow 10 0, true) = some (micro, true)
      rw [Nat.pow_eq, Nat.pow_zero, Nat.mul_one]

theorem afterField?_colon (c : Char) (rest : List Char) :
    afterField? true (':' :: c :: rest) = some (.field (c :: rest)) := rfl

theorem afterField?_point (c : Char) (rest : List Char) :
    afterField? true ('.' :: c :: rest) = some (.fraction (c :: rest)) := rfl

theorem afterField?_nil : afterField? true [] = some (.stop true) := rfl

theorem clock?_short {hour minute : Nat} (hh : hour < 100) (hm : minute < 100) :
    clock? (padded 2 hour ++ ":" ++ padded 2 minute).toList =
      some ⟨hour, minute, 0, 0, true⟩ := by
  obtain ⟨h1, h2, hours, -, -, readHour⟩ := exists_pair hh
  obtain ⟨m1, m2, minutes, -, -, readMinute⟩ := exists_pair hm
  have text : (padded 2 hour ++ ":" ++ padded 2 minute).toList = [h1, h2, ':', m1, m2] := by
    rw [String.toList_append, String.toList_append, hours, minutes]
    rfl
  simp only [text, clock?, readHour, Option.bind_eq_bind, Option.bind_some, List.head?_cons,
    beq_self_eq_true, afterField?_colon, readMinute, afterField?_nil]

theorem clock?_long {hour minute second micro : Nat} (hh : hour < 100) (hm : minute < 100)
    (hs : second < 100) (hf : micro < 1000000) :
    clock? (padded 2 hour ++ ":" ++ padded 2 minute ++ ":" ++ padded 2 second ++
      fractionText micro).toList = some ⟨hour, minute, second, micro, true⟩ := by
  obtain ⟨h1, h2, hours, -, -, readHour⟩ := exists_pair hh
  obtain ⟨m1, m2, minutes, -, -, readMinute⟩ := exists_pair hm
  obtain ⟨s1, s2, seconds, -, -, readSecond⟩ := exists_pair hs
  have text : (padded 2 hour ++ ":" ++ padded 2 minute ++ ":" ++ padded 2 second ++
      fractionText micro).toList =
      h1 :: h2 :: ':' :: m1 :: m2 :: ':' :: s1 :: s2 :: (fractionText micro).toList := by
    simp only [String.toList_append, hours, minutes, seconds]
    rfl
  rcases fraction_cases hf with ⟨zero, blank⟩ | ⟨d, ds, point, -, readFraction⟩
  · rw [text, blank, zero]
    simp only [clock?, readHour, Option.bind_eq_bind, Option.bind_some,
      List.head?_cons, beq_self_eq_true, afterField?_colon, readMinute, readSecond,
      afterField?_nil]
  · simp only [text, point, clock?, readHour, Option.bind_eq_bind, Option.bind_some,
      List.head?_cons, beq_self_eq_true, afterField?_colon, readMinute, readSecond,
      afterField?_point, readFraction]

/-! ## Offsets -/

/-- An offset that is written and read again: none of less than a second, but for zero. -/
def IsKept (micros : Int) : Prop :=
  micros.natAbs < microsPerDay ∧ (micros = 0 ∨ 1000000 ≤ micros.natAbs)

theorem offset?_sign {sign : Char} (h : sign = '+' ∨ sign = '-') {rest : List Char}
    {hour minute second micro : Nat}
    (time : clock? rest = some ⟨hour, minute, second, micro, true⟩) :
    offset? (sign :: rest) =
      let seconds := hour * 3600 + minute * 60 + second
      let micros : Int := if seconds = 0 then 0 else seconds * 1000000 + micro
      some (if sign = '-' then -micros else micros) := by
  have isSign : ¬(sign ≠ '+' ∧ sign ≠ '-') := fun none => h.elim none.1 none.2
  rw [offset?]
  · rw [if_neg isSign, time]
    rfl
  · rintro rfl
    exact absurd h (by decide)

theorem offset?_offsetText {micros : Int} (kept : IsKept micros) :
    offset? (offsetText micros).toList = some micros := by
  obtain ⟨small, whole⟩ := kept
  rw [microsPerDay] at small
  obtain ⟨sign, isSign, signed⟩ : ∃ sign, (sign = '+' ∨ sign = '-') ∧
      (if micros < 0 then "-" else "+").toList = [sign] ∧
      ∀ n : Int, n = micros.natAbs → (if sign = '-' then -n else n) = micros := by
    by_cases negative : micros < 0
    · refine ⟨'-', .inr rfl, by rw [if_pos negative]; rfl, fun n hn => ?_⟩
      rw [if_pos rfl]
      omega
    · refine ⟨'+', .inl rfl, by rw [if_neg negative]; rfl, fun n hn => ?_⟩
      rw [if_neg (by decide)]
      omega
  have hours : micros.natAbs / 1000000 / 3600 < 100 := by omega
  have minutes : micros.natAbs / 1000000 / 60 % 60 < 100 := by omega
  have seconds : micros.natAbs / 1000000 % 60 < 100 := by omega
  have fraction : micros.natAbs % 1000000 < 1000000 := by omega
  -- seconds stand only where they or their fraction are not zero
  by_cases short : micros.natAbs / 1000000 % 60 = 0 ∧ micros.natAbs % 1000000 = 0
  · have text : (offsetText micros).toList = sign :: (padded 2 (micros.natAbs / 1000000 / 3600) ++
        ":" ++ padded 2 (micros.natAbs / 1000000 / 60 % 60)).toList := by
      simp only [offsetText, if_pos short, String.toList_append, signed.1, String.append_empty]
      rfl
    rw [text, offset?_sign isSign (clock?_short hours minutes)]
    dsimp only
    rw [signed.2]
    split <;> omega
  · have text : (offsetText micros).toList = sign :: (padded 2 (micros.natAbs / 1000000 / 3600) ++
        ":" ++ padded 2 (micros.natAbs / 1000000 / 60 % 60) ++ ":" ++
        padded 2 (micros.natAbs / 1000000 % 60) ++
        fractionText (micros.natAbs % 1000000)).toList := by
      simp only [offsetText, if_neg short, String.toList_append, signed.1, List.append_assoc]
      rfl
    rw [text, offset?_sign isSign (clock?_long hours minutes seconds fraction)]
    dsimp only
    rw [signed.2]
    split <;> omega

/-! ## The whole -/

/-- What holds of the parts of a timestamp, as far as it is written with them. -/
structure Bounds (m : Moment) : Prop where
  year : m.year < 10000
  month : m.month < 100
  day : m.day < 100
  hour : m.hour < 100
  minute : m.minute < 100
  second : m.second < 100
  micro : m.micro < 1000000

theorem monthLength_le (year month : Nat) : Calendar.monthLength year month ≤ 31 := by
  unfold Calendar.monthLength
  split
  · split <;> omega
  · split <;> omega

theorem bounds (t : Timestamp) : Bounds t.toMoment := by
  have days := monthLength_le t.year t.month
  have h := t.sound
  unfold Moment.fault? at h
  split at h
  · cases h
  split at h
  · cases h
  split at h
  · cases h
  split at h
  · cases h
  split at h
  · cases h
  split at h
  · cases h
  split at h
  · cases h
  split at h
  · cases h
  constructor <;> omega

/-! ## The characters of written times -/

/-- Every character of a text is as asked. -/
def All (q : Char → Bool) (s : String) : Prop := s.toList.all q = true

section All

variable {q : Char → Bool}

theorem all_single {s : String} {c : Char} (e : s.toList = [c]) (h : q c = true) : All q s := by
  rw [All, e, List.all_cons, h]
  rfl

theorem all_append {a b : String} : All q (a ++ b) ↔ All q a ∧ All q b := by
  rw [All, String.toList_append, List.all_append, Bool.and_eq_true]
  exact Iff.rfl

variable (digits : ∀ c : Char, c.isDigit = true → q c = true)

include digits

theorem all_padded (width n : Nat) : All q (padded width n) := by
  refine List.all_eq_true.2 fun c h => ?_
  exact digits c (isDigit_padded c h)

theorem all_fraction (point : q '.' = true) (micro : Nat) : All q (fractionText micro) := by
  unfold fractionText
  split
  · rfl
  · exact all_append.2 ⟨all_single rfl point, all_padded digits 6 micro⟩

theorem all_clock (point : q '.' = true) (colon : q ':' = true) (hour minute second micro : Nat) :
    All q (padded 2 hour ++ ":" ++ padded 2 minute ++ ":" ++ padded 2 second ++
      fractionText micro) := by
  simp only [all_append, all_padded digits, all_fraction digits point, true_and, and_true]
  exact ⟨all_single rfl colon, all_single rfl colon⟩

theorem all_offset (point : q '.' = true) (colon : q ':' = true) (plus : q '+' = true)
    (minus : q '-' = true) (micros : Int) : All q (offsetText micros) := by
  have sign : All q (if micros < 0 then "-" else "+") := by
    split
    · exact all_single rfl minus
    · exact all_single rfl plus
  have tail (seconds fraction : Nat) : All q (if seconds % 60 = 0 ∧ fraction = 0 then ""
      else ":" ++ padded 2 (seconds % 60) ++ fractionText fraction) := by
    split
    · rfl
    · simp only [all_append, all_padded digits, all_fraction digits point, and_true]
      exact all_single rfl colon
  simp only [offsetText, all_append, all_padded digits, sign, tail, true_and, and_true]
  exact all_single rfl colon

end All

theorem notSign_clock (hour minute second micro : Nat) :
    All (fun c => !isOffsetSign c) (padded 2 hour ++ ":" ++ padded 2 minute ++ ":" ++
      padded 2 second ++ fractionText micro) := by
  refine all_clock (fun c digit => ?_) rfl rfl hour minute second micro
  rw [isOffsetSign, Bool.not_eq_true', Bool.or_eq_false_iff, Bool.or_eq_false_iff]
  refine ⟨⟨?_, ?_⟩, ?_⟩ <;>
  · rw [beq_eq_false_iff_ne]
    rintro rfl
    exact absurd digit (by decide)

theorem offsetText_head (micros : Int) :
    ∃ c cs, (offsetText micros).toList = c :: cs ∧ isOffsetSign c = true := by
  simp only [offsetText, String.toList_append, List.append_assoc]
  by_cases negative : micros < 0
  · rw [if_pos negative]
    exact ⟨'-', _, rfl, rfl⟩
  · rw [if_neg negative]
    exact ⟨'+', _, rfl, rfl⟩

theorem timeOfDay?_written {hour minute second micro : Nat} {offset : Option Int}
    (hh : hour < 100) (hm : minute < 100) (hs : second < 100) (hf : micro < 1000000)
    (kept : ∀ micros, offset = some micros → IsKept micros) :
    timeOfDay? ((padded 2 hour ++ ":" ++ padded 2 minute ++ ":" ++ padded 2 second ++
      fractionText micro).toList ++ ((offset.map offsetText).getD "").toList) =
      some (⟨hour, minute, second, micro, true⟩, offset) := by
  have plain : ∀ c ∈ (padded 2 hour ++ ":" ++ padded 2 minute ++ ":" ++ padded 2 second ++
      fractionText micro).toList, (!isOffsetSign c) = true :=
    List.all_eq_true.1 (notSign_clock hour minute second micro)
  rw [timeOfDay?, List.takeWhile_append_of_pos plain, List.dropWhile_append_of_pos plain]
  cases offset with
  | none =>
    rw [Option.map_none, Option.getD_none]
    change (do
      let c ← clock? (_ ++ [])
      if c.complete then some (c, none) else none) = _
    rw [List.append_nil, clock?_long hh hm hs hf]
    rfl
  | some micros =>
    have zone := offset?_offsetText (kept micros rfl)
    obtain ⟨c, cs, e, isSign⟩ := offsetText_head micros
    have stop : ¬(!isOffsetSign c) = true := by rw [isSign]; exact Bool.false_ne_true
    rw [Option.map_some, Option.getD_some]
    rw [e] at zone ⊢
    have taken := @List.takeWhile_cons_of_neg _ (fun c => !isOffsetSign c) c cs stop
    have dropped := @List.dropWhile_cons_of_neg _ (fun c => !isOffsetSign c) c cs stop
    rw [taken, dropped, List.append_nil, clock?_long hh hm hs hf]
    simp only [zone, Option.bind_eq_bind, Option.bind_some]

section Date

variable {y1 y2 y3 y4 m1 m2 d1 d2 : Char} (notWeek : m1 ≠ 'W')

include notWeek

theorem dateLength_written (time : List Char) :
    dateLength (y1 :: y2 :: y3 :: y4 :: '-' :: m1 :: m2 :: '-' :: d1 :: d2 :: 'T' :: time) = 10 := by
  have notShort : ¬(y1 :: y2 :: y3 :: y4 :: '-' :: m1 :: m2 :: '-' :: d1 :: d2 :: 'T' ::
      time).length = 7 := by
    simp only [List.length_cons]
    omega
  rw [dateLength, if_neg notShort]
  split
  · next week => exact absurd (List.cons.inj (List.cons.inj week).2).1 notWeek
  · rfl
  · next week => exact absurd (List.cons.inj week).1 (by decide)
  · next _ hyphen _ => exact absurd rfl (hyphen _)

theorem date?_written {year month day : Nat}
    (readYear : ∀ rest, number? 4 (y1 :: y2 :: y3 :: y4 :: rest) = some (year, rest))
    (readMonth : ∀ rest, number? 2 (m1 :: m2 :: rest) = some (month, rest))
    (readDay : ∀ rest, number? 2 (d1 :: d2 :: rest) = some (day, rest)) :
    date? [y1, y2, y3, y4, '-', m1, m2, '-', d1, d2] = some ⟨year, month, day⟩ := by
  have hyphen (rest : List Char) : hyphen? true ('-' :: rest) = some rest := rfl
  simp only [date?, readYear, Option.bind_eq_bind, Option.bind_some, List.head?_cons,
    beq_self_eq_true, hyphen]
  split
  · next week => exact absurd (List.cons.inj week).1 notWeek
  · rw [readMonth]
    simp only [Option.bind_some, hyphen, readDay]

end Date

theorem moment?_written {year month day : Nat} (hy : year < 10000) (hm : month < 100)
    (hd : day < 100) (time : List Char) :
    moment? ((padded 4 year ++ "-" ++ padded 2 month ++ "-" ++ padded 2 day ++ "T").toList ++
      time) = (timeOfDay? time).map fun (c, offset) =>
        ⟨year, month, day, c.hour, c.minute, c.second, c.micro, offset⟩ := by
  have readYear := number?_padded (by omega : 0 < 4) hy
  have length := length_padded (by omega : 0 < 4) hy
  obtain ⟨m1, m2, months, isDigit, -, readMonth⟩ := exists_pair hm
  obtain ⟨d1, d2, days, -, -, readDay⟩ := exists_pair hd
  have notWeek : m1 ≠ 'W' := by
    rintro rfl
    exact absurd isDigit (by decide)
  -- a year has four digits, so only one of the six lists can be its text
  rcases e : (padded 4 year).toList with _ | ⟨y1, _ | ⟨y2, _ | ⟨y3, _ | ⟨y4, _ | ⟨y5, ys⟩⟩⟩⟩⟩ <;>
    rw [e] at length
  · cases length
  · cases length
  · cases length
  · cases length
  · rw [e] at readYear
    have text : (padded 4 year ++ "-" ++ padded 2 month ++ "-" ++ padded 2 day ++ "T").toList ++
        time = y1 :: y2 :: y3 :: y4 :: '-' :: m1 :: m2 :: '-' :: d1 :: d2 :: 'T' :: time := by
      simp only [String.toList_append, e, months, days]
      rfl
    rw [text, moment?]
    dsimp only
    rw [dateLength_written notWeek]
    change (do
      let d ← date? [y1, y2, y3, y4, '-', m1, m2, '-', d1, d2]
      let (c, offset) ← timeOfDay? time
      some (Moment.mk d.year d.month d.day c.hour c.minute c.second c.micro offset)) = _
    rw [date?_written notWeek readYear readMonth readDay]
    cases timeOfDay? time <;> rfl
  · cases length

theorem cleared_eq {t : Text} (h : ∀ c ∈ t, c.isHalf = false) : cleared t = t := by
  have none : ∀ place ∈ [7, 8, 10], ¬(t[place]?.any CodePoint.isHalf) = true := by
    intro place _ half
    obtain ⟨c, e, isHalf⟩ := (Option.any_eq_true _ _).1 half
    rw [h c (List.mem_of_getElem? e)] at isHalf
    cases isHalf
  rw [cleared, List.find?_eq_none.2 none]

/-- The octets of characters of ASCII are these characters. -/
theorem octets?_ofString {s : String} (long : 7 ≤ s.toList.length)
    (ascii : ∀ c ∈ s.toList, c.toNat < 0x80) : octets? (Text.ofString s) = some s.toList := by
  have noHalf : ∀ c ∈ Text.ofString s, c.isHalf = false := by
    intro c h
    obtain ⟨ch, -, rfl⟩ := List.mem_map.1 h
    exact Text.isHalf_ofChar ch
  have length : (Text.ofString s).length = s.toList.length := List.length_map _
  have fine : ¬((Text.ofString s).length < 7 ∨ (Text.ofString s).any CodePoint.isHalf = true) := by
    rintro (short | half)
    · omega
    · obtain ⟨c, h, isHalf⟩ := List.any_eq_true.1 half
      rw [noHalf c h] at isHalf
      cases isHalf
  have each : ∀ c ∈ s.toList, (CodePoint.ofChar c).octets.map Char.ofNat = [c] := by
    intro c h
    have octets : (CodePoint.ofChar c).octets = [c.toNat] := if_pos (ascii c h)
    rw [octets, List.map_singleton, Char.ofNat_toNat]
  have whole : (Text.ofString s).flatMap (fun c => c.octets.map Char.ofNat) = s.toList := by
    rw [Text.ofString, Text.ofChars, List.flatMap_map, List.flatMap_congr each,
      List.flatMap_singleton' s.toList]
  rw [octets?, cleared_eq noHalf, if_neg fine, whole]

theorem ofMoment_toMoment (t : Timestamp) : ofMoment t.toMoment = .ok t := by
  unfold ofMoment
  split
  · rfl
  · next fault => rw [t.sound] at fault; cases fault

/-- A timestamp that is written and read again. -/
def Survives (t : Timestamp) : Prop :=
  ∀ micros, t.offset = some micros → micros = 0 ∨ 1000000 ≤ micros.natAbs

theorem offset_lt (t : Timestamp) {micros : Int} (h : t.offset = some micros) :
    micros.natAbs < microsPerDay := by
  by_contra large
  have fault := t.sound
  rw [Moment.fault?, h, Option.filter_some, if_pos (by simpa using large)] at fault
  cases fault

theorem toList_isoText (t : Timestamp) :
    t.isoText.toList =
      (padded 4 t.year ++ "-" ++ padded 2 t.month ++ "-" ++ padded 2 t.day ++ "T").toList ++
        ((padded 2 t.hour ++ ":" ++ padded 2 t.minute ++ ":" ++ padded 2 t.second ++
          fractionText t.micro).toList ++ ((t.offset.map offsetText).getD "").toList) := by
  simp only [isoText, String.toList_append, List.append_assoc]

theorem ascii_isoText (t : Timestamp) : All (fun c => decide (c.toNat < 0x80)) t.isoText := by
  have digits (c : Char) (digit : c.isDigit = true) : decide (c.toNat < 0x80) = true := by
    rw [Char.isDigit, Bool.and_eq_true, decide_eq_true_eq, decide_eq_true_eq] at digit
    exact decide_eq_true (Nat.lt_of_le_of_lt digit.2 (by decide))
  have offset : All (fun c => decide (c.toNat < 0x80)) ((t.offset.map offsetText).getD "") := by
    cases t.offset with
    | none => rfl
    | some micros => exact all_offset digits rfl rfl rfl rfl micros
  have hyphen : All (fun c => decide (c.toNat < 0x80)) "-" := rfl
  have colon : All (fun c => decide (c.toNat < 0x80)) ":" := rfl
  have letter : All (fun c => decide (c.toNat < 0x80)) "T" := rfl
  simp only [isoText, all_append, all_padded digits, all_fraction digits rfl, hyphen, colon, letter,
    offset, and_self]

theorem read_isoText {t : Timestamp} (survives : t.Survives) :
    read (Text.ofString t.isoText) = .ok t := by
  have within := bounds t
  have long : 7 ≤ t.isoText.toList.length := by
    have year := length_padded (by omega : 0 < 4) within.year
    have month := length_padded (by omega : 0 < 2) within.month
    have day := length_padded (by omega : 0 < 2) within.day
    simp only [toList_isoText, String.toList_append, List.length_append, year, month, day]
    omega
  have time := timeOfDay?_written within.hour within.minute within.second within.micro
    (fun micros h => ⟨t.offset_lt h, survives micros h⟩)
  have moment : moment? t.isoText.toList = some t.toMoment := by
    rw [toList_isoText, moment?_written within.year within.month within.day, time]
    rfl
  have ascii : ∀ c ∈ t.isoText.toList, c.toNat < 0x80 := fun c h =>
    of_decide_eq_true (List.all_eq_true.1 (ascii_isoText t) c h)
  rw [read, octets?_ofString long ascii, Option.bind_some, moment]
  exact ofMoment_toMoment t

/-- Universal time with offset zero survives. -/
theorem survives_of_offset_zero {t : Timestamp} (h : t.offset = some 0) : t.Survives := by
  intro micros e
  rw [h] at e
  cases e
  exact .inl rfl

/-- An offset of half a second is lost. -/
example :
    let t : Timestamp := ⟨⟨2024, 1, 1, 0, 0, 0, 0, some 500000⟩, by decide⟩
    (read (Text.ofString t.isoText)).toOption = some start2024 := by
  decide +kernel

end IteratedDilemma.Timestamp
