import IteratedDilemma.Json.Parser
import IteratedDilemma.Json.Printer

/-! Texts in documents. A text that has been written is read back with all of its 16-bit units, so
two halves of a pair that stood side by side come back as one code point; nothing else changes
(`quotedText_written`, `rejoined_of_isJoined`). -/
namespace IteratedDilemma
set_option autoImplicit false

theorem CodePoint.exists_ofChar {c : CodePoint} (h : c.val.isValidChar) :
    ∃ ch, c = CodePoint.ofChar ch := by
  refine ⟨Char.ofNatAux c.val h, ?_⟩
  cases c
  rfl

/-! ## Units -/

namespace Text

/-- All 16-bit units of a text. -/
def allUnits (t : Text) : List Nat := t.flatMap units

/-- A text in which the two halves of a pair that stand side by side have become one code point. -/
def rejoined (t : Text) : Text := ofUnits t.allUnits

/-- No high half is followed by a low half. -/
def IsJoined : Text → Prop
  | [] => True
  | [_] => True
  | a :: b :: rest => ¬(isHigh a.val = true ∧ isLow b.val = true) ∧ IsJoined (b :: rest)

theorem ofNat_val (c : CodePoint) : CodePoint.ofNat c.val = c := by
  rw [CodePoint.ofNat, dif_pos c.bound]

theorem units_small {c : CodePoint} (h : c.val < 0x10000) : units c = [c.val] := if_pos h

theorem units_large {c : CodePoint} (h : ¬c.val < 0x10000) :
    units c = [0xd800 + (c.val - 0x10000) / 0x400, 0xdc00 + (c.val - 0x10000) % 0x400] := if_neg h

theorem ofHalves_large {c : CodePoint} (h : ¬c.val < 0x10000) :
    ofHalves (0xd800 + (c.val - 0x10000) / 0x400) (0xdc00 + (c.val - 0x10000) % 0x400) = c := by
  have e : 0x10000 + (0xd800 + (c.val - 0x10000) / 0x400 - 0xd800) * 0x400 +
      (0xdc00 + (c.val - 0x10000) % 0x400 - 0xdc00) = c.val := by omega
  rw [ofHalves, e, ofNat_val]

/-- The first unit of a code point is no low half, unless the code point is one. -/
theorem isLow_of_units {d : CodePoint} {unit : Nat} {rest : List Nat}
    (h : units d = unit :: rest) (low : isLow unit = true) : isLow d.val = true := by
  by_cases small : d.val < 0x10000
  · rw [units_small small] at h
    cases h
    exact low
  · rw [units_large small] at h
    cases h
    have bound := d.bound
    simp only [isLow, Bool.and_eq_true, decide_eq_true_eq] at low
    omega

theorem ofUnits_cons {unit next : Nat} {rest : List Nat}
    (h : ¬(isHigh unit = true ∧ isLow next = true)) :
    ofUnits (unit :: next :: rest) = .ofNat unit :: ofUnits (next :: rest) := by
  rw [ofUnits, if_neg (by rwa [Bool.and_eq_true])]

theorem allUnits_cons (c : CodePoint) (t : Text) : allUnits (c :: t) = units c ++ allUnits t := rfl

theorem ofUnits_large {c : CodePoint} (h : ¬c.val < 0x10000) (rest : List Nat) :
    ofUnits (units c ++ rest) = c :: ofUnits rest := by
  have bound := c.bound
  have high : isHigh (0xd800 + (c.val - 0x10000) / 0x400) = true := by
    simp only [isHigh, Bool.and_eq_true, decide_eq_true_eq]
    omega
  have low : isLow (0xdc00 + (c.val - 0x10000) % 0x400) = true := by
    simp only [isLow, Bool.and_eq_true, decide_eq_true_eq]
    omega
  rw [units_large h, List.cons_append, List.cons_append, List.nil_append, ofUnits,
    if_pos (by rw [high, low]; rfl), ofHalves_large h]

theorem rejoined_of_isJoined {t : Text} (h : t.IsJoined) : t.rejoined = t := by
  unfold rejoined
  induction t with
  | nil => rfl
  | cons c t ih =>
    have joined : IsJoined t := by
      cases t with
      | nil => trivial
      | cons d rest => exact h.2
    rw [allUnits_cons]
    by_cases small : c.val < 0x10000
    · rw [units_small small]
      cases t with
      | nil => exact congrArg (· :: []) (ofNat_val c)
      | cons d rest =>
        obtain ⟨unit, others, units⟩ : ∃ unit others, units d = unit :: others := by
          by_cases hd : d.val < 0x10000
          · exact ⟨_, _, units_small hd⟩
          · exact ⟨_, _, units_large hd⟩
        have apart : ¬(isHigh c.val = true ∧ isLow unit = true) := fun both =>
          h.1 ⟨both.1, isLow_of_units units both.2⟩
        have later := ih joined
        rw [allUnits_cons, units] at later ⊢
        exact (ofUnits_cons apart).trans (by rw [ofNat_val]; exact congrArg (c :: ·) later)
    · rw [ofUnits_large small, ih joined]

theorem isJoined_of_noHalf {t : Text} (h : ∀ c ∈ t, c.isHalf = false) : t.IsJoined := by
  induction t with
  | nil => trivial
  | cons a t ih =>
    have later := ih fun c hc => h c (List.mem_cons_of_mem _ hc)
    cases t with
    | nil => trivial
    | cons b rest =>
      refine ⟨fun both => ?_, later⟩
      have half := h a List.mem_cons_self
      have high := both.1
      simp only [isHigh, CodePoint.isHalf, Bool.and_eq_true, Bool.and_eq_false_iff,
        decide_eq_true_eq, decide_eq_false_iff_not] at high half
      omega

theorem isHalf_ofChar (c : Char) : (CodePoint.ofChar c).isHalf = false := by
  have valid : c.toNat.isValidChar := c.valid
  have e : (CodePoint.ofChar c).val = c.toNat := rfl
  unfold Nat.isValidChar at valid
  simp only [CodePoint.isHalf, e, Bool.and_eq_false_iff, decide_eq_false_iff_not]
  omega

theorem isJoined_ofString (s : String) : (ofString s).IsJoined := by
  refine isJoined_of_noHalf fun c hc => ?_
  obtain ⟨ch, -, rfl⟩ := List.mem_map.1 hc
  exact isHalf_ofChar ch

@[simp] theorem rejoined_ofString (s : String) : (ofString s).rejoined = ofString s :=
  rejoined_of_isJoined (isJoined_ofString s)

/-! ## Texts that read like a string -/

theorem units_lt {c : CodePoint} : ∀ unit ∈ units c, unit < 0x10000 := by
  have bound := c.bound
  intro unit h
  by_cases small : c.val < 0x10000
  · rw [units_small small] at h
    rw [List.mem_singleton.1 h]
    exact small
  · rw [units_large small] at h
    simp only [List.mem_cons, List.not_mem_nil, or_false] at h
    omega

theorem units_ofNat {unit : Nat} (h : unit < 0x10000) : units (.ofNat unit) = [unit] := by
  have e : (CodePoint.ofNat unit).val = unit := by rw [CodePoint.ofNat, dif_pos (by omega)]
  rw [units_small (by rw [e]; exact h), e]

theorem units_ofHalves {high low : Nat} (hh : isHigh high = true) (hl : isLow low = true) :
    units (ofHalves high low) = [high, low] := by
  simp only [isHigh, isLow, Bool.and_eq_true, decide_eq_true_eq] at hh hl
  have e : (ofHalves high low).val = 0x10000 + (high - 0xd800) * 0x400 + (low - 0xdc00) := by
    rw [ofHalves, CodePoint.ofNat, dif_pos (by omega)]
  rw [units_large (by omega), e]
  have h1 : 0xd800 + (0x10000 + (high - 0xd800) * 0x400 + (low - 0xdc00) - 0x10000) / 0x400 =
      high := by omega
  have h2 : 0xdc00 + (0x10000 + (high - 0xd800) * 0x400 + (low - 0xdc00) - 0x10000) % 0x400 =
      low := by omega
  rw [h1, h2]

theorem allUnits_ofUnits {us : List Nat} (h : ∀ unit ∈ us, unit < 0x10000) :
    (ofUnits us).allUnits = us := by
  induction us using ofUnits.induct with
  | case1 => rfl
  | case2 unit => exact (List.append_nil _).trans (units_ofNat (h unit List.mem_cons_self))
  | case3 unit next rest both ih =>
    have later := ih fun u hu => h u (List.mem_cons_of_mem _ (List.mem_cons_of_mem _ hu))
    rw [ofUnits, if_pos both, allUnits_cons, later]
    rw [Bool.and_eq_true] at both
    rw [units_ofHalves both.1 both.2]
    rfl
  | case4 unit next rest apart ih =>
    have later := ih fun u hu => h u (List.mem_cons_of_mem _ hu)
    rw [ofUnits, if_neg apart, allUnits_cons, later, units_ofNat (h unit List.mem_cons_self)]
    rfl

theorem allUnits_rejoined (t : Text) : t.rejoined.allUnits = t.allUnits := by
  refine allUnits_ofUnits fun unit h => ?_
  obtain ⟨c, -, hc⟩ := List.mem_flatMap.1 h
  exact units_lt unit hc

/-- A text whose units are those of code points below the halves is made of these code points. -/
theorem eq_of_allUnits {t s : Text} (plain : ∀ c ∈ s, c.val < 0xd800)
    (h : t.allUnits = s.allUnits) : t = s := by
  induction s generalizing t with
  | nil =>
    cases t with
    | nil => rfl
    | cons c t =>
      rw [allUnits_cons] at h
      by_cases small : c.val < 0x10000
      · rw [units_small small] at h; cases h
      · rw [units_large small] at h; cases h
  | cons d s ih =>
    have hd := plain d List.mem_cons_self
    rw [allUnits_cons d, units_small (by omega)] at h
    cases t with
    | nil => cases h
    | cons c t =>
      rw [allUnits_cons] at h
      by_cases small : c.val < 0x10000
      · rw [units_small small] at h
        obtain ⟨e, h⟩ := List.cons.inj h
        rw [ih (fun c hc => plain c (List.mem_cons_of_mem _ hc)) h, ← ofNat_val c, e, ofNat_val]
      · rw [units_large small] at h
        have e := (List.cons.inj h).1
        omega

theorem eq_of_rejoined {t s : Text} (plain : ∀ c ∈ s, c.val < 0xd800) (h : t.rejoined = s) :
    t = s := by
  refine eq_of_allUnits plain ?_
  rw [← allUnits_rejoined, h]

end Text

/-! ## Reading what was written -/

namespace Json

open Grammar

theorem hexValue?_hexDigit : ∀ n < 16, hexValue? (Text.hexDigit n) = some n := by
  decide +kernel

theorem pushUnits_ok (us vs : List Nat) (rest : List Char) :
    pushUnits us (.ok (vs, rest)) = .ok (us ++ vs, rest) := rfl

/-- A numbered escape gives its unit, if something follows it. -/
theorem textBody_unitEscape {unit : Nat} (h : unit < 0x10000) (start : List Char)
    {rest : List Char} (more : rest ≠ []) :
    textBody start (unitEscape unit ++ rest) = pushUnits [unit] (textBody start rest) := by
  have digit (n : Nat) : hexValue? (Text.hexDigit (n % 16)) = some (n % 16) :=
    hexValue?_hexDigit _ (Nat.mod_lt _ (by omega))
  have value : unit? (Text.hexDigit (unit / 16 / 16 / 16 % 16))
      (Text.hexDigit (unit / 16 / 16 % 16)) (Text.hexDigit (unit / 16 % 16))
      (Text.hexDigit (unit % 16)) = some unit := by
    rw [unit?, digit, digit, digit, digit]
    change some ((((unit / 16 / 16 / 16 % 16) * 16 + unit / 16 / 16 % 16) * 16 + unit / 16 % 16) *
      16 + unit % 16) = some unit
    have e : (((unit / 16 / 16 / 16 % 16) * 16 + unit / 16 / 16 % 16) * 16 + unit / 16 % 16) * 16 +
      unit % 16 = unit := by omega
    rw [e]
  have written : unitEscape unit ++ rest =
      '\\' :: 'u' :: Text.hexDigit (unit / 16 / 16 / 16 % 16) ::
      Text.hexDigit (unit / 16 / 16 % 16) :: Text.hexDigit (unit / 16 % 16) ::
      Text.hexDigit (unit % 16) :: rest := rfl
  have notEmpty : rest.isEmpty = false := by simpa using more
  rw [written, textBody, notEmpty, value]
  rfl

theorem textBody_shortEscape {escape plain : Char} (notU : escape ≠ 'u')
    (h : shortEscape? escape = some plain) (start rest : List Char) :
    textBody start ('\\' :: escape :: rest) =
      pushUnits (Text.units plain) (textBody start rest) := by
  rw [textBody.eq_def]
  split <;> simp_all
  next longer e => exact absurd e.2.symm (longer _ _ e.1.symm)

theorem textBody_plain {c : Char} (notQuote : c ≠ '"') (notSlash : c ≠ '\\')
    (noControl : 0x20 ≤ c.toNat) (start rest : List Char) :
    textBody start (c :: rest) = pushUnits (Text.units c) (textBody start rest) := by
  rw [textBody.eq_def]
  split
  next e => cases e
  next e => exact absurd (List.cons.inj e).1 notQuote
  next e => exact absurd (List.cons.inj e).1 notSlash
  next e => exact absurd (List.cons.inj e).1 notSlash
  next e => exact absurd (List.cons.inj e).1 notSlash
  next e =>
    cases e
    exact if_neg (Nat.not_lt.2 noControl)

theorem textBody_writtenChar (c : CodePoint) (start : List Char) {rest : List Char}
    (more : rest ≠ []) :
    textBody start (writtenChar c ++ rest) =
      pushUnits (Text.units c) (textBody start rest) := by
  unfold writtenChar
  split
  · next h => rw [h]; exact textBody_shortEscape (by decide) rfl _ _
  split
  · next h => rw [h]; exact textBody_shortEscape (by decide) rfl _ _
  split
  · next h => rw [h]; exact textBody_shortEscape (by decide) rfl _ _
  split
  · next h => rw [h]; exact textBody_shortEscape (by decide) rfl _ _
  split
  · next h => rw [h]; exact textBody_shortEscape (by decide) rfl _ _
  split
  · next h => rw [h]; exact textBody_shortEscape (by decide) rfl _ _
  split
  · next h => rw [h]; exact textBody_shortEscape (by decide) rfl _ _
  split
  · next notQuote notSlash _ _ _ _ _ h =>
    obtain ⟨ch, rfl⟩ := CodePoint.exists_ofChar (.inl (by omega) : c.val.isValidChar)
    have e : Char.ofNat (CodePoint.ofChar ch).val = ch := Char.ofNat_toNat ch
    rw [e]
    exact textBody_plain (fun h => notQuote (h ▸ rfl)) (fun h => notSlash (h ▸ rfl)) h.1 _ _
  · -- one numbered escape, or two for a code point beyond the units
    by_cases small : c.val < 0x10000
    · rw [Text.units_small small]
      exact textBody_unitEscape small start more
    · have bound := c.bound
      rw [Text.units_large small, List.flatMap_cons, List.flatMap_cons, List.flatMap_nil,
        List.append_nil, List.append_assoc,
        textBody_unitEscape (by omega) start (by simp [unitEscape]),
        textBody_unitEscape (by omega) start more]
      cases textBody start rest <;> rfl

theorem textBody_written (t : Text) (start rest : List Char) :
    textBody start (t.flatMap writtenChar ++ '"' :: rest) = .ok (t.allUnits, rest) := by
  induction t with
  | nil =>
    rw [List.flatMap_nil, List.nil_append, textBody]
    rfl
  | cons c t ih =>
    rw [List.flatMap_cons, List.append_assoc, textBody_writtenChar c start (by simp), ih,
      pushUnits_ok, Text.allUnits_cons]

theorem quotedText_written (t : Text) (rest : List Char) :
    quotedText (writtenText t ++ rest) = .ok (t.rejoined, rest) := by
  have body : writtenText t ++ rest = '"' :: (t.flatMap writtenChar ++ '"' :: rest) := by
    simp [writtenText]
  rw [quotedText, body, List.drop_one, List.tail_cons, textBody_written]
  rfl

/-! ## Written texts stand on one line -/

theorem hexDigit_ne_return : ∀ n < 16, Text.hexDigit n ≠ '\r' := by
  decide +kernel

theorem return_notMem_unitEscape (unit : Nat) : '\r' ∉ unitEscape unit := by
  have digit (n : Nat) : '\r' ≠ Text.hexDigit (n % 16) :=
    (hexDigit_ne_return _ (Nat.mod_lt _ (by omega))).symm
  have written : unitEscape unit = ['\\', 'u', Text.hexDigit (unit / 16 / 16 / 16 % 16),
      Text.hexDigit (unit / 16 / 16 % 16), Text.hexDigit (unit / 16 % 16),
      Text.hexDigit (unit % 16)] := rfl
  rw [written]
  simp [digit]

theorem return_notMem_writtenChar (c : CodePoint) : '\r' ∉ writtenChar c := by
  unfold writtenChar
  split
  · decide
  split
  · decide
  split
  · decide
  split
  · decide
  split
  · decide
  split
  · decide
  split
  · decide
  split
  · next h =>
    obtain ⟨ch, rfl⟩ := CodePoint.exists_ofChar (.inl (by omega) : c.val.isValidChar)
    have e : Char.ofNat (CodePoint.ofChar ch).val = ch := Char.ofNat_toNat ch
    rw [e, List.mem_singleton]
    rintro rfl
    exact absurd h.1 (by decide)
  · intro h
    obtain ⟨unit, -, h⟩ := List.mem_flatMap.1 h
    exact return_notMem_unitEscape unit h

theorem return_notMem_writtenText (t : Text) : '\r' ∉ writtenText t := by
  intro h
  rcases List.mem_cons.1 h with h | h
  · cases h
  · rcases List.mem_append.1 h with h | h
    · obtain ⟨c, -, h⟩ := List.mem_flatMap.1 h
      exact return_notMem_writtenChar c h
    · cases List.mem_singleton.1 h

end Json
end IteratedDilemma
