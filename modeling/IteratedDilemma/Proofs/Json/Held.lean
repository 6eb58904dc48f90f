import Mathlib.Data.List.Nodup
import IteratedDilemma.Proofs.Json.Floats
import IteratedDilemma.Proofs.Json.RoundTrip
import IteratedDilemma.Proofs.Number.Numerals

/-! What documents hold. A value is read from some document if and only if its whole numbers are
short enough, its other numbers are floating-point numbers, no text has two halves of a pair side by
side and no name is there twice (`isHeld_iff`). Such a value is always written, and read from its
own document (`IsHeld.read_write`). -/
namespace IteratedDilemma
set_option autoImplicit false

namespace Json

/-- A value that a document can hold, in which so many collections may lie in each other. -/
inductive IsHeld : Nat → Json → Prop where
  | null (room : Nat) : IsHeld room null
  | bool (room : Nat) (b : Bool) : IsHeld room (bool b)
  | int (room : Nat) {n : Int} (short : IntegerText.isWritable n = true) : IsHeld room (int n)
  | float (room : Nat) {x : Binary64} (proper : x.IsProper) : IsHeld room (float x)
  | text (room : Nat) {t : Text} (joined : t.IsJoined) : IsHeld room (text t)
  | list {room : Nat} {items : List Json} (each : ∀ item ∈ items, IsHeld room item) :
      IsHeld (room + 1) (list items)
  | object {room : Nat} {fields : Fields} (each : ∀ f ∈ fields, IsHeld room f.2)
      (joined : ∀ f ∈ fields, f.1.IsJoined) (apart : (fields.map Prod.fst).Nodup) :
      IsHeld (room + 1) (object fields)

/-! ## Writing and reading what is held -/

theorem IsHeld.isWritable {room : Nat} {v : Json} (held : IsHeld room v) :
    v.isWritable = true := by
  induction held with
  | null | bool | float | text => rfl
  | int room short => exact short
  | list _ ih => exact isWritable_list.2 ih
  | object _ _ _ ih => exact isWritable_object.2 ih

theorem IsHeld.rejoined {room : Nat} {v : Json} (held : IsHeld room v) : v.rejoined = v := by
  induction held with
  | null | bool | float | int => rfl
  | text room joined => exact isJoined_text joined
  | @list room items _ ih =>
    rw [Json.rejoined, rejoinedItems_eq, List.map_congr_left ih, List.map_id']
  | @object room fields _ joined _ ih =>
    have same : ∀ f ∈ fields, (f.1.rejoined, f.2.rejoined) = f := fun f h => by
      rw [Text.rejoined_of_isJoined (joined f h), ih f h]
    rw [Json.rejoined, rejoinedFields_eq, List.map_congr_left same, List.map_id']

theorem IsHeld.mono {room more : Nat} {v : Json} (held : IsHeld room v) (le : room ≤ more) :
    IsHeld more v := by
  induction held generalizing more with
  | null => exact .null more
  | bool _ b => exact .bool more b
  | int _ short => exact .int more short
  | float _ proper => exact .float more proper
  | text _ joined => exact .text more joined
  | list _ ih =>
    obtain ⟨more, rfl⟩ : ∃ n, more = n + 1 := Nat.exists_eq_add_one.2 (by omega)
    exact .list fun item h => ih item h (Nat.le_of_succ_le_succ le)
  | object _ joined apart ih =>
    obtain ⟨more, rfl⟩ : ∃ n, more = n + 1 := Nat.exists_eq_add_one.2 (by omega)
    exact .object (fun f h => ih f h (Nat.le_of_succ_le_succ le)) joined apart

/-- A number that is not finite is written as a word. -/
theorem reads_proper (room : Nat) {x : Binary64} (proper : x.IsProper) : Reads room (float x) := by
  cases x with
  | finite negative m e => exact reads_float room (readsBack_finite proper negative)
  | infinite negative =>
    cases negative with
    | false => exact fun _ fuel _ _ _ => value_scalar (by decide) fuel room _
    | true => exact fun _ fuel _ _ _ => value_scalar (by decide) fuel room _
  | notANumber => exact fun _ fuel _ _ _ => value_scalar (by decide) fuel room _

theorem IsHeld.reads {room : Nat} {v : Json} (held : IsHeld room v) : Reads room v := by
  induction held with
  | null room => exact reads_null room
  | bool room b => exact reads_bool room b
  | @int room n short => exact reads_int room short
  | float room proper => exact reads_proper room proper
  | text room joined => exact reads_text room _
  | list _ ih => exact reads_list ih
  | @object room fields _ joined apart ih =>
    have names : (fields.map fun f => f.1.rejoined) = fields.map Prod.fst :=
      List.map_congr_left fun f h => Text.rejoined_of_isJoined (joined f h)
    exact reads_object ih (by rwa [names])

/-- What is held is read from its own document. -/
theorem IsHeld.read_write {room : Nat} {v : Json} (held : IsHeld room v) :
    read room v.write = .ok v := by
  rw [read_of_reads held.reads, held.rejoined]

end Json

/-! ## What reading gives -/

namespace Text

theorem ofNat_val_cases (n : Nat) :
    (CodePoint.ofNat n).val = n ∨ (CodePoint.ofNat n).val = 0xfffd := by
  unfold CodePoint.ofNat
  split
  · exact .inl rfl
  · exact .inr rfl

theorem isHigh_of_ofNat {n : Nat} (h : isHigh (CodePoint.ofNat n).val = true) :
    isHigh n = true := by
  rcases ofNat_val_cases n with e | e <;> rw [e] at h
  · exact h
  · exact absurd h (by decide)

theorem isLow_of_ofNat {n : Nat} (h : isLow (CodePoint.ofNat n).val = true) : isLow n = true := by
  rcases ofNat_val_cases n with e | e <;> rw [e] at h
  · exact h
  · exact absurd h (by decide)

theorem ofHalves_noHalf (high low : Nat) :
    isHigh (ofHalves high low).val = false ∧ isLow (ofHalves high low).val = false := by
  have large : 0xe000 ≤ (ofHalves high low).val := by
    rcases ofNat_val_cases (0x10000 + (high - 0xd800) * 0x400 + (low - 0xdc00)) with e | e <;>
    · rw [ofHalves, e]
      omega
  simp only [isHigh, isLow, Bool.and_eq_false_iff, decide_eq_false_iff_not]
  omega

/-- The first code point is a low half only if the first unit is one. -/
theorem isLow_head_ofUnits {unit : Nat} {rest : List Nat} {c : CodePoint}
    (h : (ofUnits (unit :: rest)).head? = some c) (low : isLow c.val = true) :
    isLow unit = true := by
  cases rest with
  | nil =>
    rw [ofUnits, List.head?_cons, Option.some.injEq] at h
    exact isLow_of_ofNat (h ▸ low)
  | cons next rest =>
    rw [ofUnits] at h
    split at h <;> rw [List.head?_cons, Option.some.injEq] at h
    · rw [← h, (ofHalves_noHalf unit next).2] at low
      cases low
    · exact isLow_of_ofNat (h ▸ low)

theorem isJoined_cons {c : CodePoint} {t : Text}
    (apart : ∀ d ∈ t.head?, ¬(isHigh c.val = true ∧ isLow d.val = true)) (joined : t.IsJoined) :
    IsJoined (c :: t) := by
  cases t with
  | nil => trivial
  | cons d t => exact ⟨apart d rfl, joined⟩

theorem isJoined_ofUnits (units : List Nat) : (ofUnits units).IsJoined := by
  induction units using ofUnits.induct with
  | case1 => trivial
  | case2 unit => trivial
  | case3 unit next rest pair ih =>
    rw [ofUnits, if_pos pair]
    refine isJoined_cons (fun d _ both => ?_) ih
    rw [(ofHalves_noHalf unit next).1] at both
    exact Bool.false_ne_true both.1
  | case4 unit next rest apart ih =>
    rw [ofUnits, if_neg apart]
    refine isJoined_cons (fun d h both => apart ?_) ih
    rw [isHigh_of_ofNat both.1, isLow_head_ofUnits h both.2]
    rfl

end Text

namespace Json

open Grammar

/-- What a reader gives has a property. -/
def Gives {α : Type} (reading : Reading α) (P : α → Prop) : Prop :=
  ∀ a rest, reading = .ok (a, rest) → P a

theorem gives_error {α : Type} {P : α → Prop} (f : Failure) : Gives (.error f) P :=
  fun _ _ e => by cases e

theorem gives_ok {α : Type} {P : α → Prop} {a : α} (h : P a) (rest : List Char) :
    Gives (.ok (a, rest)) P := fun _ _ e => by
  cases e
  exact h

theorem Gives.map {α β : Type} {reading : Reading α} {P : α → Prop} {Q : β → Prop}
    (gives : Gives reading P) {f : α → β} (h : ∀ a, P a → Q (f a)) :
    Gives (reading.map fun p => (f p.1, p.2)) Q := by
  rintro b rest e
  rcases reading with fault | ⟨a, behind⟩
  · cases e
  · cases e
    exact h a (gives a behind rfl)

theorem gives_quotedText (cs : List Char) : Gives (quotedText cs) Text.IsJoined :=
  Gives.map (P := fun _ => True) (fun _ _ _ => trivial) fun units _ => Text.isJoined_ofUnits units

theorem digitsValue_lt {ds : List Char} (digit : ∀ c ∈ ds, c.isDigit = true) :
    digitsValue ds < 10 ^ ds.length := by
  induction ds with
  | nil => decide
  | cons d ds ih =>
    have later := ih fun c h => digit c (List.mem_cons_of_mem _ h)
    have first : d.toNat - 48 ≤ 9 := by
      have := digit d List.mem_cons_self
      rw [Char.isDigit, Bool.and_eq_true, decide_eq_true_eq, decide_eq_true_eq] at this
      have : d.toNat ≤ 57 := this.2
      omega
    rw [digitsValue_cons, List.length_cons, Nat.pow_succ]
    have := Nat.mul_le_mul_right (10 ^ ds.length) first
    omega

theorem digitsValue_lt_of_length_le {ds : List Char} (digit : ∀ c ∈ ds, c.isDigit = true)
    {limit : Nat} (short : ds.length ≤ limit) : digitsValue ds < Nat.pow 10 limit :=
  Nat.lt_of_lt_of_le (digitsValue_lt digit) (Nat.pow_le_pow_right (by omega) short)

theorem isDigit_of_wholePart? {cs ds rest : List Char} (h : wholePart? cs = some (ds, rest)) :
    ∀ c ∈ ds, c.isDigit = true := by
  rcases cs with _ | ⟨c, cs⟩
  · cases h
  · by_cases zero : c = '0'
    · subst zero
      cases h
      exact List.forall_mem_singleton.2 rfl
    · rw [wholePart?.eq_2 c cs zero] at h
      split at h
      · cases h
        exact fun d hd => List.all_eq_true.1 List.all_takeWhile d hd
      · cases h

theorem isHeld_wholeNumber {negative : Bool} {ds : List Char}
    (digit : ∀ c ∈ ds, c.isDigit = true) {v : Json} (h : wholeNumber negative ds = .ok v)
    (room : Nat) : IsHeld room v := by
  unfold wholeNumber at h
  split at h
  · cases h
  · next short =>
    cases h
    have small := digitsValue_lt_of_length_le digit (not_lt.1 short)
    refine .int room ?_
    cases negative with
    | false => exact IntegerText.isWritable_natCast.2 small
    | true => exact (IntegerText.isWritable_neg _).trans (IntegerText.isWritable_natCast.2 small)

theorem gives_unsigned? {negative : Bool} {cs : List Char} {r : Reading Json}
    (h : unsigned? negative cs = some r) (room : Nat) : Gives r (IsHeld room) := by
  unfold unsigned? at h
  rcases part : wholePart? cs with _ | ⟨whole, left⟩
  · rw [part] at h
    cases h
  · rw [part, Option.bind_eq_bind, Option.bind_some] at h
    dsimp only at h
    split at h <;> cases h
    · intro v rest e
      rcases number : wholeNumber negative whole with fault | n <;> rw [number] at e <;> cases e
      exact isHeld_wholeNumber (isDigit_of_wholePart? part) number room
    all_goals exact gives_ok (.float room (Binary64.ofDecimal_isProper _ _ _)) _

theorem gives_scalar (room : Nat) (cs : List Char) : Gives (scalar cs) (IsHeld room) := by
  unfold scalar
  split
  · exact gives_ok (.null room) _
  · exact gives_ok (.bool room true) _
  · exact gives_ok (.bool room false) _
  · exact gives_ok (.float room trivial) _
  · exact gives_ok (.float room trivial) _
  · exact gives_ok (.float room trivial) _
  · split
    · next reading number =>
      unfold number? at number
      split at number <;> exact gives_unsigned? number room
    · exact gives_error _

namespace Fields

theorem names_put (fields : Fields) (name : Text) (value : Json) :
    (fields.put name value).map Prod.fst =
      if name ∈ fields.map Prod.fst then fields.map Prod.fst
      else fields.map Prod.fst ++ [name] := by
  by_cases there : name ∈ fields.map Prod.fst
  · rw [if_pos there]
    induction fields with
    | nil => cases there
    | cons field rest ih =>
      obtain ⟨n, v⟩ := field
      rw [put]
      split
      · rfl
      · next differs =>
        rw [List.map_cons, List.mem_cons] at there
        rw [List.map_cons, List.map_cons, ih (there.resolve_left fun e => differs e.symm)]
  · rw [if_neg there, put_of_notMem there, List.map_append]
    rfl

theorem mem_put {fields : Fields} {name : Text} {value : Json} {f : Text × Json}
    (h : f ∈ fields.put name value) : f = (name, value) ∨ f ∈ fields := by
  induction fields with
  | nil => exact .inl (List.mem_singleton.1 h)
  | cons field rest ih =>
    obtain ⟨n, v⟩ := field
    rw [put] at h
    split at h
    · next same =>
      rcases List.mem_cons.1 h with e | later
      · exact .inl (same ▸ e)
      · exact .inr (List.mem_cons_of_mem _ later)
    · rcases List.mem_cons.1 h with e | later
      · exact .inr (e ▸ List.mem_cons_self)
      · exact (ih later).imp_right (List.mem_cons_of_mem _)

theorem nodup_ofPairs (pairs : Fields) : ((ofPairs pairs).map Prod.fst).Nodup := by
  have all (pairs : Fields) : ∀ fields : Fields, (fields.map Prod.fst).Nodup →
      ((pairs.foldl (fun fields pair => fields.put pair.1 pair.2) fields).map
        Prod.fst).Nodup := by
    induction pairs with
    | nil => exact fun fields apart => apart
    | cons pair rest ih =>
      intro fields apart
      refine ih _ ?_
      rw [names_put]
      split
      · exact apart
      · next absent =>
        refine List.nodup_append.2 ⟨apart, List.nodup_singleton _, fun n h m hm e => ?_⟩
        rw [List.mem_singleton.1 hm] at e
        exact absent (e ▸ h)
  exact all pairs [] List.nodup_nil

theorem mem_of_mem_ofPairs {pairs : Fields} {f : Text × Json} (h : f ∈ ofPairs pairs) :
    f ∈ pairs := by
  have all (pairs : Fields) : ∀ fields : Fields,
      f ∈ pairs.foldl (fun fields pair => fields.put pair.1 pair.2) fields →
        f ∈ fields ∨ f ∈ pairs := by
    induction pairs with
    | nil => exact fun fields h => .inl h
    | cons pair rest ih =>
      intro fields h
      rcases ih _ h with early | later
      · rcases mem_put early with e | there
        · exact .inr (e ▸ List.mem_cons_self)
        · exact .inl there
      · exact .inr (List.mem_cons_of_mem _ later)
  exact (all pairs [] h).resolve_left List.not_mem_nil

end Fields

theorem gives_fieldName (cs : List Char) : Gives (fieldName cs) Text.IsJoined := by
  unfold fieldName
  split
  · split
    · exact gives_error _
    · next name behind quoted =>
      split
      · exact gives_ok (gives_quotedText _ _ _ quoted) _
      · exact gives_error _
  · exact gives_error _

theorem isHeld_object {room : Nat} {pairs : Fields}
    (each : ∀ f ∈ pairs, f.1.IsJoined ∧ IsHeld room f.2) :
    IsHeld (room + 1) (object (Fields.ofPairs pairs)) :=
  .object (fun f h => (each f (Fields.mem_of_mem_ofPairs h)).2)
    (fun f h => (each f (Fields.mem_of_mem_ofPairs h)).1) (Fields.nodup_ofPairs pairs)

/-- Values, items and fields that are read are held. -/
theorem gives_held (fuel : Nat) : ∀ (room : Nat) (cs : List Char),
    Gives (value fuel room cs) (IsHeld room) ∧
    Gives (items fuel room cs) (fun read => ∀ item ∈ read, IsHeld room item) ∧
    Gives (pairs fuel room cs) fun read => ∀ f ∈ read, f.1.IsJoined ∧ IsHeld room f.2 := by
  induction fuel with
  | zero => exact fun room cs => ⟨gives_error _, gives_error _, gives_error _⟩
  | succ fuel ih =>
    intro room cs
    refine ⟨?_, ?_, ?_⟩
    · unfold value
      split
      · exact (gives_quotedText _).map fun t joined => .text room joined
      · split
        · exact gives_error _
        · next some =>
          obtain ⟨room, rfl⟩ := Nat.exists_eq_add_one.2 (Nat.pos_of_ne_zero some)
          rw [Nat.add_sub_cancel]
          split
          · exact gives_ok (.list fun _ h => absurd h List.not_mem_nil) _
          · exact (ih room _).2.1.map fun read held => .list held
      · split
        · exact gives_error _
        · next some =>
          obtain ⟨room, rfl⟩ := Nat.exists_eq_add_one.2 (Nat.pos_of_ne_zero some)
          rw [Nat.add_sub_cancel]
          split
          · have held : IsHeld (room + 1) (object (Fields.ofPairs [])) :=
              isHeld_object fun _ h => absurd h List.not_mem_nil
            exact gives_ok held _
          · exact (ih room _).2.2.map fun read held => isHeld_object held
      · exact gives_scalar room _
    · unfold items
      rcases first : value fuel room cs with fault | ⟨item, rest⟩
      · exact gives_error _
      · have held := (ih room cs).1 item rest first
        dsimp only
        split
        · exact gives_ok (fun v h => List.mem_singleton.1 h ▸ held) _
        · exact (ih room _).2.1.map fun read later v h =>
            (List.mem_cons.1 h).elim (fun e => e ▸ held) (later v)
        · exact gives_error _
    · unfold pairs
      rcases named : fieldName cs with fault | ⟨name, rest⟩
      · exact gives_error _
      · have joined := gives_fieldName cs name rest named
        dsimp only
        rcases first : value fuel room rest with fault | ⟨field, behind⟩
        · exact gives_error _
        · have held := (ih room rest).1 field behind first
          dsimp only
          split
          · exact gives_ok (fun f h => List.mem_singleton.1 h ▸ ⟨joined, held⟩) _
          · exact (ih room _).2.2.map fun read later f h =>
              (List.mem_cons.1 h).elim (fun e => e ▸ ⟨joined, held⟩) (later f)
          · exact gives_error _

theorem exists_value_of_read {room : Nat} {s : String} {v : Json} (h : read room s = .ok v) :
    ∃ fuel rest, value fuel room (skipSpace s.toList) = .ok (v, rest) := by
  unfold read document at h
  split at h
  · cases h
  · rcases reading : value (2 * s.toList.length + 2) room (skipSpace s.toList) with f | ⟨w, rest⟩
    · rw [reading] at h
      cases h
    · rw [reading] at h
      dsimp only at h
      split at h
      · cases h
        exact ⟨_, rest, reading⟩
      · cases h

theorem isHeld_of_read {room : Nat} {s : String} {v : Json} (h : read room s = .ok v) :
    IsHeld room v := by
  obtain ⟨fuel, rest, reading⟩ := exists_value_of_read h
  exact (gives_held fuel room _).1 v rest reading

/-- A value is read from some document. -/
def HasDocument (room : Nat) (v : Json) : Prop := ∃ s, read room s = .ok v

theorem isHeld_iff {room : Nat} {v : Json} : v.IsHeld room ↔ v.HasDocument room :=
  ⟨fun held => ⟨v.write, held.read_write⟩, fun ⟨_, h⟩ => isHeld_of_read h⟩

end Json
end IteratedDilemma
