import IteratedDilemma.Proofs.Json.Floats
import IteratedDilemma.Proofs.Json.Texts

/-! Documents that are written and read again. What is read is the value that was written with all
of its texts rejoined (`read_write`), if its whole numbers can be written, its other numbers are
read back from their texts, its names of fields stay apart and its collections do not lie too deep
in each other (`IsReadable`). -/
namespace IteratedDilemma.Json
set_option autoImplicit false

open Grammar

/-! ## What comes back -/

mutual

/-- A value with all of its texts rejoined. -/
def rejoined : Json → Json
  | text t => text t.rejoined
  | list items => list (rejoinedItems items)
  | object fields => object (rejoinedFields fields)
  | value => value

def rejoinedItems : List Json → List Json
  | [] => []
  | item :: rest => rejoined item :: rejoinedItems rest

def rejoinedFields : List (Text × Json) → List (Text × Json)
  | [] => []
  | (name, value) :: rest => (name.rejoined, rejoined value) :: rejoinedFields rest

end

theorem rejoinedItems_eq (items : List Json) : rejoinedItems items = items.map rejoined := by
  induction items with
  | nil => rfl
  | cons item rest ih => rw [rejoinedItems, ih, List.map_cons]

theorem rejoinedFields_eq (fields : List (Text × Json)) :
    rejoinedFields fields = fields.map fun f => (f.1.rejoined, f.2.rejoined) := by
  induction fields with
  | nil => rfl
  | cons field rest ih => rw [rejoinedFields, ih, List.map_cons]

/-- No text in a value has two halves of a pair side by side. -/
def IsJoined (v : Json) : Prop := v.rejoined = v

theorem isJoined_text {t : Text} (h : t.IsJoined) : (text t).IsJoined := by
  unfold IsJoined
  rw [rejoined, Text.rejoined_of_isJoined h]

/-- A value without floating-point numbers, whose names of fields stay apart when they are rejoined.
So many collections may lie in each other. -/
inductive IsRegular : Nat → Json → Prop where
  | null (room : Nat) : IsRegular room null
  | bool (room : Nat) (b : Bool) : IsRegular room (bool b)
  | int (room : Nat) (n : Int) : IsRegular room (int n)
  | text (room : Nat) (t : Text) : IsRegular room (text t)
  | list {room : Nat} {items : List Json} (each : ∀ item ∈ items, IsRegular room item) :
      IsRegular (room + 1) (list items)
  | object {room : Nat} {fields : List (Text × Json)} (each : ∀ f ∈ fields, IsRegular room f.2)
      (apart : (fields.map fun f => f.1.rejoined).Nodup) : IsRegular (room + 1) (object fields)

/-- A value that can be read back: its floating-point numbers are read from their texts, and its
names of fields stay apart when they are rejoined. So many collections may lie in each other. -/
inductive IsReadable : Nat → Json → Prop where
  | null (room : Nat) : IsReadable room null
  | bool (room : Nat) (b : Bool) : IsReadable room (bool b)
  | int (room : Nat) (n : Int) : IsReadable room (int n)
  | float (room : Nat) {x : Binary64} (back : ReadsBack x) : IsReadable room (float x)
  | text (room : Nat) (t : Text) : IsReadable room (text t)
  | list {room : Nat} {items : List Json} (each : ∀ item ∈ items, IsReadable room item) :
      IsReadable (room + 1) (list items)
  | object {room : Nat} {fields : List (Text × Json)} (each : ∀ f ∈ fields, IsReadable room f.2)
      (apart : (fields.map fun f => f.1.rejoined).Nodup) : IsReadable (room + 1) (object fields)

theorem IsRegular.isReadable {room : Nat} {v : Json} (h : IsRegular room v) :
    IsReadable room v := by
  induction h with
  | null room => exact .null room
  | bool room b => exact .bool room b
  | int room n => exact .int room n
  | text room t => exact .text room t
  | list _ ih => exact .list ih
  | object _ apart ih => exact .object ih apart

/-! ## Values -/

/-- A character that starts a value: of ASCII, no blank and no bracket that closes. -/
def IsStart (c : Char) : Prop :=
  isSpace c = false ∧ c ≠ ']' ∧ c ≠ '\x7d' ∧ c.toNat < 0x80

instance (c : Char) : Decidable (IsStart c) := inferInstanceAs (Decidable (_ ∧ _ ∧ _ ∧ _))

theorem isStart_digit {c : Char} (digit : c.isDigit = true) : IsStart c := by
  refine ⟨?_, ?_, ?_, ?_⟩
  · rw [isSpace, Bool.or_eq_false_iff, Bool.or_eq_false_iff, Bool.or_eq_false_iff]
    refine ⟨⟨⟨?_, ?_⟩, ?_⟩, ?_⟩ <;>
    · rw [beq_eq_false_iff_ne]
      rintro rfl
      exact absurd digit (by decide)
  · rintro rfl
    exact absurd digit (by decide)
  · rintro rfl
    exact absurd digit (by decide)
  · rw [Char.isDigit, Bool.and_eq_true, decide_eq_true_eq, decide_eq_true_eq] at digit
    exact Nat.lt_of_le_of_lt digit.2 (by decide)

theorem isStart_number {cs : List Char}
    (h : ∃ c ds, cs = c :: ds ∧ (c = '-' ∨ c.isDigit = true)) :
    ∃ c ds, cs = c :: ds ∧ IsStart c := by
  obtain ⟨c, ds, e, minus | digit⟩ := h
  · exact ⟨c, ds, e, minus ▸ by decide⟩
  · exact ⟨c, ds, e, isStart_digit digit⟩

theorem exists_start_float (x : Binary64) :
    ∃ c cs, (x.text documentNames).toList = c :: cs ∧ IsStart c := by
  cases x with
  | finite negative m e =>
    obtain ⟨_, read⟩ := exists_number?_finite negative m e
    exact isStart_number (exists_start_of_number? read)
  | infinite negative =>
    cases negative with
    | false => exact ⟨'I', _, rfl, by decide⟩
    | true => exact ⟨'-', _, rfl, by decide⟩
  | notANumber => exact ⟨'N', _, rfl, by decide⟩

/-- What is written for a value starts as a value does. -/
theorem exists_start (v : Json) (depth : Nat) :
    ∃ c cs, written depth v = c :: cs ∧ IsStart c := by
  cases v with
  | null => exact ⟨'n', _, rfl, by decide⟩
  | bool b =>
    cases b with
    | false => exact ⟨'f', _, rfl, by decide⟩
    | true => exact ⟨'t', _, rfl, by decide⟩
  | int n => exact isStart_number (toString_head n)
  | float x => exact exists_start_float x
  | text t => exact ⟨'"', _, rfl, by decide⟩
  | list items =>
    cases items with
    | nil => exact ⟨'[', _, rfl, by decide⟩
    | cons item rest => exact ⟨'[', _, by rw [written]; rfl, by decide⟩
  | object fields =>
    cases fields with
    | nil => exact ⟨'\x7b', _, rfl, by decide⟩
    | cons field rest => exact ⟨'\x7b', _, by rw [written]; rfl, by decide⟩

theorem exists_start_append (v : Json) (depth : Nat) (rest : List Char) :
    ∃ c cs, written depth v ++ rest = c :: cs ∧ IsStart c := by
  obtain ⟨c, cs, e, start⟩ := exists_start v depth
  exact ⟨c, cs ++ rest, by rw [e, List.cons_append], start⟩

theorem skipSpace_start {c : Char} (start : isSpace c = false) (rest : List Char) :
    skipSpace (c :: rest) = c :: rest :=
  List.dropWhile_cons_of_neg (by rw [start]; exact Bool.false_ne_true)

theorem skipSpace_lineBreak (depth : Nat) (rest : List Char) :
    skipSpace (lineBreak depth ++ rest) = skipSpace rest := by
  have blank : ∀ c ∈ lineBreak depth, isSpace c = true := by
    intro c h
    rcases List.mem_cons.1 h with rfl | h
    · rfl
    · rw [List.eq_of_mem_replicate h]
      rfl
  exact List.dropWhile_append_of_pos blank

/-- Whatever starts with none of the three characters of its own is a scalar. -/
theorem value_scalar {c : Char} (plain : c ≠ '"' ∧ c ≠ '[' ∧ c ≠ '\x7b') (fuel room : Nat)
    (rest : List Char) : value (fuel + 1) room (c :: rest) = scalar (c :: rest) := by
  rw [value]
  · intro _ e
    exact plain.1 (List.cons.inj e).1
  · intro _ e
    exact plain.2.1 (List.cons.inj e).1
  · intro _ e
    exact plain.2.2 (List.cons.inj e).1

/-- A value is read back wherever it stands. -/
def Reads (room : Nat) (v : Json) : Prop :=
  ∀ (depth fuel : Nat) (rest : List Char), EndsNumber rest →
    2 * (written depth v).length ≤ fuel + 1 →
      value (fuel + 1) room (written depth v ++ rest) = .ok (v.rejoined, rest)

theorem endsNumber_comma (rest : List Char) : EndsNumber (',' :: rest) := by
  intro c h
  cases h
  decide

theorem endsNumber_lineBreak (depth : Nat) (rest : List Char) :
    EndsNumber (lineBreak depth ++ rest) := by
  intro c h
  cases h
  decide

theorem reads_null (room : Nat) : Reads room null := by
  intro depth fuel rest _ _
  exact value_scalar (by decide) fuel room _

theorem reads_bool (room : Nat) (b : Bool) : Reads room (bool b) := by
  intro depth fuel rest _ _
  cases b with
  | false => exact value_scalar (by decide) fuel room _
  | true => exact value_scalar (by decide) fuel room _

/-- What starts as a number does is read as a scalar. -/
theorem value_number {cs : List Char} (start : ∃ c ds, cs = c :: ds ∧ (c = '-' ∨ c.isDigit = true))
    (fuel room : Nat) (rest : List Char) :
    value (fuel + 1) room (cs ++ rest) = scalar (cs ++ rest) := by
  obtain ⟨c, ds, rfl, start⟩ := start
  have plain : c ≠ '"' ∧ c ≠ '[' ∧ c ≠ '\x7b' := by
    refine ⟨?_, ?_, ?_⟩ <;>
    · rintro rfl
      exact absurd start (by decide)
  exact value_scalar plain fuel room (ds ++ rest)

theorem reads_int (room : Nat) {n : Int} (writable : IntegerText.isWritable n = true) :
    Reads room (int n) := fun _ fuel rest ends _ =>
  (value_number (toString_head n) fuel room rest).trans (scalar_int writable ends)

theorem reads_float (room : Nat) {x : Binary64} (back : ReadsBack x) : Reads room (float x) :=
  fun _ fuel rest ends _ =>
    (value_number (exists_start_of_number? back) fuel room rest).trans (scalar_number back ends)

theorem value_text (t : Text) (fuel room : Nat) (rest : List Char) :
    value (fuel + 1) room (writtenText t ++ rest) = .ok (text t.rejoined, rest) := by
  have quoted := quotedText_written t rest
  have body : writtenText t ++ rest = '"' :: (t.flatMap writtenChar ++ ['"'] ++ rest) := rfl
  rw [body] at quoted ⊢
  rw [value, quoted]
  rfl

theorem reads_text (room : Nat) (t : Text) : Reads room (text t) :=
  fun _ fuel rest _ _ => value_text t fuel room rest

/-! ## Lists -/

theorem written_list (depth : Nat) (item : Json) (others : List Json) (rest : List Char) :
    written depth (list (item :: others)) ++ rest =
      '[' :: (lineBreak (depth + 1) ++ (written (depth + 1) item ++
        (writtenItems (depth + 1) others ++ (lineBreak depth ++ ']' :: rest)))) := by
  rw [written]
  simp only [List.cons_append, List.append_assoc, List.nil_append]

theorem writtenItems_cons (depth : Nat) (next : Json) (rest : List Json) (after : List Char) :
    writtenItems depth (next :: rest) ++ after =
      ',' :: (lineBreak depth ++ (written depth next ++ (writtenItems depth rest ++ after))) := by
  rw [writtenItems]
  simp only [List.cons_append, List.append_assoc]

section Steps

variable {depth fuel room : Nat} {cs tail after : List Char} {v : Json}

theorem skipSpace_written (outer : Nat) (v : Json) (tail : List Char) :
    skipSpace (lineBreak outer ++ (written depth v ++ tail)) = written depth v ++ tail := by
  obtain ⟨c, cs, e, start⟩ := exists_start_append v depth tail
  rw [skipSpace_lineBreak, e, skipSpace_start start.1]

theorem value_list (outer : Nat) (item : Json) (tail : List Char) :
    value (fuel + 1) (room + 1) ('[' :: (lineBreak outer ++ (written depth item ++ tail))) =
      (items fuel room (written depth item ++ tail)).map fun p => (list p.1, p.2) := by
  obtain ⟨c, cs, e, start⟩ := exists_start_append item depth tail
  rw [value, if_neg (Nat.succ_ne_zero room), skipSpace_written, e]
  split
  · next closing => exact absurd (List.cons.inj closing).1 start.2.1
  · rw [Nat.add_sub_cancel]

theorem items_last {outer : Nat}
    (first : value fuel room cs = .ok (v, lineBreak outer ++ ']' :: after)) :
    items (fuel + 1) room cs = .ok ([v], after) := by
  rw [items, first]
  dsimp only
  rw [skipSpace_lineBreak, skipSpace_start (by decide)]
  rfl

theorem items_next {outer : Nat} {next : Json} (first :
      value fuel room cs = .ok (v, ',' :: (lineBreak outer ++ (written depth next ++ tail)))) :
    items (fuel + 1) room cs =
      (items fuel room (written depth next ++ tail)).map fun p => (v :: p.1, p.2) := by
  rw [items, first]
  dsimp only
  rw [skipSpace_start (by decide)]
  change Except.map _ (items fuel room (skipSpace (lineBreak outer ++ _))) = _
  rw [skipSpace_written]

end Steps

/-- The items of a list are read up to the bracket after them. -/
theorem items_written {room : Nat} (depth outer : Nat) (after : List Char) {rest : List Json} :
    ∀ {item : Json} {fuel : Nat}, (∀ v ∈ item :: rest, Reads room v) →
      2 * (written depth item ++ writtenItems depth rest).length ≤ fuel →
      items (fuel + 1) room
          (written depth item ++ (writtenItems depth rest ++ (lineBreak outer ++ ']' :: after))) =
        .ok (item.rejoined :: rejoinedItems rest, after) := by
  induction rest with
  | nil =>
    intro item fuel each enough
    obtain ⟨c, cs, e, -⟩ := exists_start item depth
    have nonempty : 0 < (written depth item).length := by rw [e]; exact Nat.succ_pos _
    rw [writtenItems, List.append_nil] at enough
    obtain ⟨fuel, rfl⟩ : ∃ n, fuel = n + 1 := Nat.exists_eq_add_one.2 (by omega)
    exact items_last
      (each item List.mem_cons_self depth fuel _ (endsNumber_lineBreak outer _) (by omega))
  | cons next rest ih =>
    intro item fuel each enough
    obtain ⟨c, cs, e, -⟩ := exists_start item depth
    have nonempty : 0 < (written depth item).length := by rw [e]; exact Nat.succ_pos _
    rw [writtenItems] at enough
    simp only [List.length_append, List.length_cons] at enough
    obtain ⟨fuel, rfl⟩ : ∃ n, fuel = n + 1 := Nat.exists_eq_add_one.2 (by omega)
    have later := @ih next fuel (fun v hv => each v (List.mem_cons_of_mem _ hv)) (by
      rw [List.length_append]
      omega)
    rw [writtenItems_cons]
    -- a number in the list ends at the comma, and one step of fuel is left for it
    refine (items_next (each item List.mem_cons_self depth fuel _ (endsNumber_comma _)
      (by omega))).trans ?_
    rw [later]
    rfl

theorem reads_list {room : Nat} {items : List Json}
    (each : ∀ v ∈ items, Reads room v) : Reads (room + 1) (list items) := by
  intro depth fuel rest _ enough
  cases items with
  | nil => rfl
  | cons item others =>
    rw [written] at enough
    simp only [List.length_append, List.length_cons] at enough
    obtain ⟨fuel, rfl⟩ : ∃ n, fuel = n + 1 := Nat.exists_eq_add_one.2 (by omega)
    have inside := @items_written room (depth + 1) depth rest others item fuel each (by
      rw [List.length_append]
      omega)
    rw [written_list, value_list, inside, rejoined, rejoinedItems]
    rfl

/-! ## Objects -/

theorem written_object (depth : Nat) (name : Text) (v : Json) (others : List (Text × Json))
    (rest : List Char) :
    written depth (object ((name, v) :: others)) ++ rest =
      '\x7b' :: (lineBreak (depth + 1) ++ (writtenText name ++ ':' :: ' ' ::
        (written (depth + 1) v ++ (writtenFields (depth + 1) others ++
          (lineBreak depth ++ '\x7d' :: rest))))) := by
  rw [written]
  simp only [List.cons_append, List.append_assoc, List.nil_append]

theorem writtenFields_cons (depth : Nat) (name : Text) (v : Json) (rest : List (Text × Json))
    (after : List Char) :
    writtenFields depth ((name, v) :: rest) ++ after =
      ',' :: (lineBreak depth ++ (writtenText name ++ ':' :: ' ' ::
        (written depth v ++ (writtenFields depth rest ++ after)))) := by
  rw [writtenFields]
  simp only [List.cons_append, List.append_assoc]

theorem fieldName_written (name : Text) (depth : Nat) (v : Json) (tail : List Char) :
    fieldName (writtenText name ++ ':' :: ' ' :: (written depth v ++ tail)) =
      .ok (name.rejoined, written depth v ++ tail) := by
  obtain ⟨c, cs, e, start⟩ := exists_start_append v depth tail
  rw [e]
  have quoted := quotedText_written name (':' :: ' ' :: c :: cs)
  have body : writtenText name ++ ':' :: ' ' :: c :: cs =
      '"' :: (name.flatMap writtenChar ++ ['"'] ++ ':' :: ' ' :: c :: cs) := rfl
  rw [body] at quoted ⊢
  rw [fieldName, quoted]
  dsimp only
  have blank : skipSpace (' ' :: c :: cs) = c :: cs :=
    (List.dropWhile_cons_of_pos rfl).trans (skipSpace_start start.1 cs)
  rw [skipSpace_start (by decide)]
  change Except.ok (name.rejoined, skipSpace (' ' :: c :: cs)) = _
  rw [blank]

section Steps

variable {fuel room outer : Nat} {cs rest tail after : List Char} {name : Text} {v : Json}

theorem skipSpace_writtenText (outer : Nat) (name : Text) (tail : List Char) :
    skipSpace (lineBreak outer ++ (writtenText name ++ tail)) = writtenText name ++ tail := by
  rw [skipSpace_lineBreak]
  exact skipSpace_start (by decide) _

theorem value_object (outer : Nat) (name : Text) (tail : List Char) :
    value (fuel + 1) (room + 1) ('\x7b' :: (lineBreak outer ++ (writtenText name ++ tail))) =
      (pairs fuel room (writtenText name ++ tail)).map
        fun p => (object (Fields.ofPairs p.1), p.2) := by
  rw [value, if_neg (Nat.succ_ne_zero room), skipSpace_writtenText]
  split
  · next closing => exact absurd (List.cons.inj closing).1 (by decide)
  · rw [Nat.add_sub_cancel]

theorem pairs_last (named : fieldName cs = .ok (name, rest))
    (first : value fuel room rest = .ok (v, lineBreak outer ++ '\x7d' :: after)) :
    pairs (fuel + 1) room cs = .ok ([(name, v)], after) := by
  rw [pairs, named]
  dsimp only
  rw [first]
  dsimp only
  rw [skipSpace_lineBreak, skipSpace_start (by decide)]
  rfl

theorem pairs_next {next : Text} (named : fieldName cs = .ok (name, rest)) (first :
      value fuel room rest = .ok (v, ',' :: (lineBreak outer ++ (writtenText next ++ tail)))) :
    pairs (fuel + 1) room cs =
      (pairs fuel room (writtenText next ++ tail)).map fun p => ((name, v) :: p.1, p.2) := by
  rw [pairs, named]
  dsimp only
  rw [first]
  dsimp only
  rw [skipSpace_start (by decide)]
  change Except.map _ (pairs fuel room (skipSpace (lineBreak outer ++ _))) = _
  rw [skipSpace_writtenText]

end Steps

theorem pairs_written {room : Nat} (depth outer : Nat) (after : List Char)
    {rest : List (Text × Json)} :
    ∀ {name : Text} {v : Json} {fuel : Nat},
      (∀ f ∈ (name, v) :: rest, Reads room f.2) →
      2 * (written depth v ++ writtenFields depth rest).length ≤ fuel →
      pairs (fuel + 1) room (writtenText name ++ ':' :: ' ' :: (written depth v ++
          (writtenFields depth rest ++ (lineBreak outer ++ '\x7d' :: after)))) =
        .ok ((name.rejoined, v.rejoined) :: rejoinedFields rest, after) := by
  induction rest with
  | nil =>
    intro name v fuel each enough
    obtain ⟨c, cs, e, -⟩ := exists_start v depth
    have nonempty : 0 < (written depth v).length := by rw [e]; exact Nat.succ_pos _
    rw [writtenFields, List.append_nil] at enough
    obtain ⟨fuel, rfl⟩ : ∃ n, fuel = n + 1 := Nat.exists_eq_add_one.2 (by omega)
    exact pairs_last (fieldName_written name depth v _)
      (each _ List.mem_cons_self depth fuel _ (endsNumber_lineBreak outer _) (by omega))
  | cons next rest ih =>
    obtain ⟨nextName, nextValue⟩ := next
    intro name v fuel each enough
    obtain ⟨c, cs, e, -⟩ := exists_start v depth
    have nonempty : 0 < (written depth v).length := by rw [e]; exact Nat.succ_pos _
    rw [writtenFields] at enough
    simp only [List.length_append, List.length_cons] at enough
    obtain ⟨fuel, rfl⟩ : ∃ n, fuel = n + 1 := Nat.exists_eq_add_one.2 (by omega)
    have later := @ih nextName nextValue fuel (fun f hf => each f (List.mem_cons_of_mem _ hf)) (by
      rw [List.length_append]
      omega)
    rw [writtenFields_cons]
    refine (pairs_next (fieldName_written name depth v _) (each _ List.mem_cons_self depth fuel _
      (endsNumber_comma _) (by dsimp only; omega))).trans ?_
    rw [later]
    rfl

namespace Fields

theorem put_of_notMem {fields : Fields} {name : Text} (h : name ∉ fields.map Prod.fst)
    (value : Json) : fields.put name value = fields ++ [(name, value)] := by
  induction fields with
  | nil => rfl
  | cons field rest ih =>
    obtain ⟨n, v⟩ := field
    rw [List.map_cons, List.mem_cons, not_or] at h
    have differs : ¬n = name := fun e => h.1 e.symm
    rw [put, if_neg differs, ih h.2, List.cons_append]

theorem foldl_put {before pairs : Fields} (apart : ((before ++ pairs).map Prod.fst).Nodup) :
    pairs.foldl (fun fields pair => fields.put pair.1 pair.2) before = before ++ pairs := by
  induction pairs generalizing before with
  | nil => rw [List.foldl_nil, List.append_nil]
  | cons pair rest ih =>
    have absent : pair.1 ∉ before.map Prod.fst := by
      intro h
      rw [List.map_append, List.map_cons] at apart
      exact (List.nodup_append.1 apart).2.2 _ h _ List.mem_cons_self rfl
    have shifted : before ++ [pair] ++ rest = before ++ pair :: rest := by
      rw [List.append_assoc, List.singleton_append]
    rw [List.foldl_cons, put_of_notMem absent, ih (by rw [shifted]; exact apart), shifted]

theorem ofPairs_eq {pairs : Fields} (apart : (pairs.map Prod.fst).Nodup) :
    ofPairs pairs = pairs := @foldl_put [] pairs apart

end Fields

theorem reads_object {room : Nat} {fields : List (Text × Json)}
    (each : ∀ f ∈ fields, Reads room f.2)
    (apart : (fields.map fun f => f.1.rejoined).Nodup) : Reads (room + 1) (object fields) := by
  intro depth fuel rest _ enough
  cases fields with
  | nil => rfl
  | cons field others =>
    obtain ⟨name, v⟩ := field
    rw [written] at enough
    simp only [List.length_append, List.length_cons] at enough
    obtain ⟨fuel, rfl⟩ : ∃ n, fuel = n + 1 := Nat.exists_eq_add_one.2 (by omega)
    have inside := @pairs_written room (depth + 1) depth rest others name v fuel each (by
      rw [List.length_append]
      omega)
    have distinct : Fields.ofPairs (rejoinedFields ((name, v) :: others)) =
        rejoinedFields ((name, v) :: others) := by
      refine Fields.ofPairs_eq ?_
      rw [rejoinedFields_eq, List.map_map]
      exact apart
    rw [written_object, value_object, inside, rejoined, ← distinct]
    rfl

theorem areWritable_eq (items : List Json) : areWritable items = items.all isWritable := by
  induction items with
  | nil => rfl
  | cons item rest ih => rw [areWritable, ih, List.all_cons]

theorem haveWritable_eq (fields : List (Text × Json)) :
    haveWritable fields = fields.all fun f => f.2.isWritable := by
  induction fields with
  | nil => rfl
  | cons field rest ih => rw [haveWritable, ih, List.all_cons]

theorem isWritable_list {items : List Json} :
    (list items).isWritable = true ↔ ∀ item ∈ items, item.isWritable = true := by
  rw [isWritable, areWritable_eq, List.all_eq_true]

theorem isWritable_object {fields : List (Text × Json)} :
    (object fields).isWritable = true ↔ ∀ f ∈ fields, f.2.isWritable = true := by
  rw [isWritable, haveWritable_eq, List.all_eq_true]

/-- Such values are read back, if they can be written. -/
theorem IsReadable.reads {room : Nat} {v : Json} (readable : IsReadable room v)
    (writable : v.isWritable = true) : Reads room v := by
  induction readable with
  | null room => exact reads_null room
  | bool room b => exact reads_bool room b
  | int room n => exact reads_int room writable
  | float room back => exact reads_float room back
  | text room t => exact reads_text room t
  | list _ ih =>
    have items := isWritable_list.1 writable
    exact reads_list fun v hv => ih v hv (items v hv)
  | object _ apart ih =>
    have fields := isWritable_object.1 writable
    exact reads_object (fun f hf => ih f hf (fields f hf)) apart

/-! ## Documents -/

theorem document_written {room : Nat} {v : Json} (reads : Reads room v) :
    document room (written 0 v) = .ok v.rejoined := by
  obtain ⟨c, cs, e, start⟩ := exists_start v 0
  have noMark : c ≠ '\ufeff' := by
    rintro rfl
    exact absurd start.2.2.2 (by decide)
  have whole := reads 0 (2 * (written 0 v).length + 1) [] (by intro c h; cases h) (by omega)
  rw [List.append_nil] at whole
  rw [e] at whole ⊢
  rw [document]
  · rw [skipSpace_start start.1, whole]
    rfl
  · intro rest h
    exact noMark (List.cons.inj h).1

theorem read_of_reads {room : Nat} {v : Json} (reads : Reads room v) :
    read room v.write = .ok v.rejoined := by
  rw [read, write, String.toList_ofList, document_written reads]
  rfl

theorem read_write {room : Nat} {v : Json} (readable : IsReadable room v)
    (writable : v.isWritable = true) : read room v.write = .ok v.rejoined :=
  read_of_reads (readable.reads writable)

/-! ## Carriage returns -/

theorem return_notMem_lineBreak (depth : Nat) : '\r' ∉ lineBreak depth := by
  intro h
  rcases List.mem_cons.1 h with h | h
  · cases h
  · cases List.eq_of_mem_replicate h

theorem return_notMem_int (n : Int) : '\r' ∉ (toString n).toList := by
  rw [toString_eq]
  intro h
  rcases List.mem_append.1 h with h | h
  · split at h
    · cases List.mem_singleton.1 h
    · cases h
  · exact absurd (isDigit_of_mem_toDigits h) (by decide)

theorem return_notMem_behindComma (depth : Nat) : '\r' ∉ ',' :: lineBreak depth :=
  List.not_mem_cons_of_ne_of_not_mem (by decide) (return_notMem_lineBreak depth)

theorem return_notMem_behindColon {cs : List Char} (h : '\r' ∉ cs) : '\r' ∉ ':' :: ' ' :: cs :=
  List.not_mem_cons_of_ne_of_not_mem (by decide)
    (List.not_mem_cons_of_ne_of_not_mem (by decide) h)

mutual

/-- What is written has no carriage return, which would be read as a line feed. -/
theorem return_notMem_written : ∀ (v : Json) (depth : Nat), '\r' ∉ written depth v
  | null, _ => by rw [written]; decide
  | bool b, _ => by cases b <;> rw [written] <;> decide
  | int n, _ => return_notMem_int n
  | float x, _ => return_notMem_float x
  | text t, _ => return_notMem_writtenText t
  | list [], _ => by rw [written]; decide
  | list (item :: rest), depth => by
    have opened := List.not_mem_cons_of_ne_of_not_mem (by decide : '\r' ≠ '[')
      (return_notMem_lineBreak (depth + 1))
    have first := List.not_mem_append opened (return_notMem_written item (depth + 1))
    have later := List.not_mem_append first (return_notMem_writtenItems rest (depth + 1))
    rw [written]
    exact List.not_mem_append (List.not_mem_append later (return_notMem_lineBreak depth))
      (by decide)
  | object [], _ => by rw [written]; decide
  | object ((name, v) :: rest), depth => by
    have opened := List.not_mem_cons_of_ne_of_not_mem (by decide : '\r' ≠ '\x7b')
      (return_notMem_lineBreak (depth + 1))
    have named := List.not_mem_append opened (return_notMem_writtenText name)
    have first := List.not_mem_append named
      (return_notMem_behindColon (return_notMem_written v (depth + 1)))
    have later := List.not_mem_append first (return_notMem_writtenFields rest (depth + 1))
    rw [written]
    exact List.not_mem_append (List.not_mem_append later (return_notMem_lineBreak depth))
      (by decide)

theorem return_notMem_writtenItems :
    ∀ (items : List Json) (depth : Nat), '\r' ∉ writtenItems depth items
  | [], _ => List.not_mem_nil
  | item :: rest, depth => by
    have first := List.not_mem_append (return_notMem_behindComma depth)
      (return_notMem_written item depth)
    rw [writtenItems]
    exact List.not_mem_append first (return_notMem_writtenItems rest depth)

theorem return_notMem_writtenFields :
    ∀ (fields : List (Text × Json)) (depth : Nat), '\r' ∉ writtenFields depth fields
  | [], _ => List.not_mem_nil
  | (name, v) :: rest, depth => by
    have named := List.not_mem_append (return_notMem_behindComma depth)
      (return_notMem_writtenText name)
    have first := List.not_mem_append named
      (return_notMem_behindColon (return_notMem_written v depth))
    rw [writtenFields]
    exact List.not_mem_append first (return_notMem_writtenFields rest depth)

end

end IteratedDilemma.Json
