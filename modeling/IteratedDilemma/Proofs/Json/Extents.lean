import IteratedDilemma.Proofs.Json.Held

/-! What is read of a value that was written, whatever is in it: its numbers may be too long, or read
as others, and its collections may lie too deep. If a value is read at all, reading stops where it
ends (`stopsAtEnd`), and so an object gives no other names than its own (`names_of_read`). -/
namespace IteratedDilemma.Json
set_option autoImplicit false

open Grammar

/-- Wherever a value stands, what is left when it has been read is what stands behind it. -/
def StopsAtEnd (v : Json) : Prop :=
  ∀ {depth fuel room : Nat} {rest left : List Char} {w : Json}, EndsNumber rest →
    value fuel room (written depth v ++ rest) = .ok (w, left) → left = rest

section Reading

variable {depth outer fuel room : Nat} {cs rest after left : List Char} {v w : Json}

theorem left_of_ok (h : (Except.ok (v, rest) : Reading Json) = .ok (w, left)) : left = rest :=
  (Prod.mk.inj (Except.ok.inj h)).2.symm

theorem left_of_map {α β : Type} {reading : Reading α} {f : α → β} {b : β}
    (stops : ∀ {a}, reading = .ok (a, left) → left = rest)
    (h : (reading.map fun p => (f p.1, p.2)) = .ok (b, left)) : left = rest := by
  rcases reading with fault | ⟨a, behind⟩
  · cases h
  · cases h
    exact stops rfl

/-- Without fuel nothing is read. -/
theorem exists_fuel (h : value fuel room cs = .ok (w, left)) : ∃ n, fuel = n + 1 := by
  cases fuel with
  | zero => cases h
  | succ n => exact ⟨n, rfl⟩

/-- A word is read to its end. -/
theorem stopsAtEnd_word {word : List Char} (same : ∀ depth, written depth v = word)
    (first : ∀ rest, ∃ c ds, word ++ rest = c :: ds ∧ c ≠ '"' ∧ c ≠ '[' ∧ c ≠ '\x7b')
    (read : ∀ rest, ∃ w, scalar (word ++ rest) = .ok (w, rest)) : StopsAtEnd v := by
  intro depth fuel room rest left w _ h
  obtain ⟨fuel, rfl⟩ := exists_fuel h
  obtain ⟨c, ds, e, plain⟩ := first rest
  obtain ⟨u, read⟩ := read rest
  rw [same, e, value_scalar plain, ← e, read] at h
  exact left_of_ok h

/-- Too many digits are not read, and all others are read to their end. -/
theorem stopsAtEnd_int (n : Int) : StopsAtEnd (int n) := by
  intro depth fuel room rest left w ends h
  obtain ⟨fuel, rfl⟩ := exists_fuel h
  rw [written, value_number (toString_head n), scalar_toString n ends] at h
  rcases read : wholeNumber (n < 0) (Nat.toDigits 10 n.natAbs) with fault | whole <;> rw [read] at h
  · cases h
  · exact left_of_ok h

theorem stopsAtEnd_float (x : Binary64) : StopsAtEnd (float x) := by
  cases x with
  | finite negative m e =>
    intro depth fuel room rest left w ends h
    obtain ⟨fuel, rfl⟩ := exists_fuel h
    obtain ⟨v, read⟩ := exists_number?_finite negative m e
    rw [written, value_number (exists_start_of_number? read), scalar_number read ends] at h
    exact left_of_ok h
  | infinite negative =>
    cases negative with
    | false =>
      exact stopsAtEnd_word (fun _ => rfl) (fun _ => ⟨'I', _, rfl, by decide⟩) fun _ => ⟨_, rfl⟩
    | true =>
      exact stopsAtEnd_word (fun _ => rfl) (fun _ => ⟨'-', _, rfl, by decide⟩) fun _ => ⟨_, rfl⟩
  | notANumber =>
    exact stopsAtEnd_word (fun _ => rfl) (fun _ => ⟨'N', _, rfl, by decide⟩) fun _ => ⟨_, rfl⟩

theorem stopsAtEnd_bool (b : Bool) : StopsAtEnd (bool b) := by
  cases b with
  | false =>
    exact stopsAtEnd_word (fun _ => rfl) (fun _ => ⟨'f', _, rfl, by decide⟩) fun _ => ⟨_, rfl⟩
  | true =>
    exact stopsAtEnd_word (fun _ => rfl) (fun _ => ⟨'t', _, rfl, by decide⟩) fun _ => ⟨_, rfl⟩

theorem stopsAtEnd_text (t : Text) : StopsAtEnd (text t) := by
  intro depth fuel room rest left w _ h
  obtain ⟨fuel, rfl⟩ := exists_fuel h
  rw [written, value_text] at h
  exact left_of_ok h

/-! ## Collections -/

theorem exists_first_item {read : List Json} (h : items fuel room cs = .ok (read, left)) :
    ∃ n w behind, fuel = n + 1 ∧ value n room cs = .ok (w, behind) := by
  cases fuel with
  | zero => cases h
  | succ n =>
    rcases first : value n room cs with fault | ⟨w, behind⟩
    · rw [items, first] at h
      cases h
    · exact ⟨n, w, behind, rfl, first⟩

theorem items_left {others : List Json} : ∀ {item : Json} {fuel : Nat} {read : List Json},
    (∀ v ∈ item :: others, StopsAtEnd v) →
    items fuel room
        (written depth item ++ (writtenItems depth others ++ (lineBreak outer ++ ']' :: after))) =
      .ok (read, left) →
    left = after := by
  induction others with
  | nil =>
    intro item fuel read each h
    obtain ⟨fuel, v, behind, rfl, first⟩ := exists_first_item h
    obtain rfl := each item List.mem_cons_self (endsNumber_lineBreak outer _) first
    rw [items_last first] at h
    exact (Prod.mk.inj (Except.ok.inj h)).2.symm
  | cons next others ih =>
    intro item fuel read each h
    rw [writtenItems_cons] at h
    obtain ⟨fuel, v, behind, rfl, first⟩ := exists_first_item h
    obtain rfl := each item List.mem_cons_self (endsNumber_comma _) first
    rw [items_next first] at h
    exact left_of_map (ih fun v hv => each v (List.mem_cons_of_mem _ hv)) h

theorem stopsAtEnd_list {items : List Json} (each : ∀ v ∈ items, StopsAtEnd v) :
    StopsAtEnd (list items) := by
  intro depth fuel room rest left w _ h
  obtain ⟨fuel, rfl⟩ := exists_fuel h
  cases room with
  | zero => cases items <;> cases h
  | succ room =>
    cases items with
    | nil => exact left_of_ok h
    | cons item others =>
      rw [written_list, value_list] at h
      exact left_of_map (items_left each) h

theorem exists_first_field {name : Text} {read : List (Text × Json)}
    (named : fieldName cs = .ok (name, rest)) (h : pairs fuel room cs = .ok (read, left)) :
    ∃ n w behind, fuel = n + 1 ∧ value n room rest = .ok (w, behind) := by
  cases fuel with
  | zero => cases h
  | succ n =>
    rcases first : value n room rest with fault | ⟨w, behind⟩
    · rw [pairs, named] at h
      dsimp only at h
      rw [first] at h
      cases h
    · exact ⟨n, w, behind, rfl, first⟩

/-- Fields that are read have the names that were written. -/
theorem pairs_left {others : List (Text × Json)} :
    ∀ {name : Text} {v : Json} {fuel : Nat} {read : List (Text × Json)} {left : List Char},
      (∀ f ∈ (name, v) :: others, StopsAtEnd f.2) →
      pairs fuel room (writtenText name ++ ':' :: ' ' :: (written depth v ++
          (writtenFields depth others ++ (lineBreak outer ++ '\x7d' :: after)))) =
        .ok (read, left) →
      left = after ∧
        read.map Prod.fst = ((name, v) :: others).map fun f => f.1.rejoined := by
  induction others with
  | nil =>
    intro name v fuel read left each h
    have named := fieldName_written name depth v (lineBreak outer ++ '\x7d' :: after)
    obtain ⟨fuel, w, behind, rfl, first⟩ := exists_first_field named h
    obtain rfl := each _ List.mem_cons_self (endsNumber_lineBreak outer _) first
    rw [writtenFields, List.nil_append, pairs_last named first] at h
    cases h
    exact ⟨rfl, rfl⟩
  | cons next others ih =>
    obtain ⟨nextName, nextValue⟩ := next
    intro name v fuel read left each h
    rw [writtenFields_cons] at h
    obtain ⟨fuel, w, behind, rfl, first⟩ := exists_first_field (fieldName_written name depth v _) h
    obtain rfl := each _ List.mem_cons_self (endsNumber_comma _) first
    rw [pairs_next (fieldName_written name depth v _) first] at h
    rcases more : pairs fuel room _ with fault | ⟨later, behind⟩ <;> rw [more] at h
    · cases h
    · obtain ⟨rfl, names⟩ := ih (fun f hf => each f (List.mem_cons_of_mem _ hf)) more
      cases h
      exact ⟨rfl, congrArg (name.rejoined :: ·) names⟩

/-- The fields of an object that is read have the names that were written, where it starts. -/
theorem names_of_value {fields : List (Text × Json)} (each : ∀ f ∈ fields, StopsAtEnd f.2)
    (h : value fuel room (written depth (object fields) ++ rest) = .ok (w, left)) :
    left = rest ∧ ∃ read, w = object (Fields.ofPairs read) ∧
      read.map Prod.fst = fields.map fun f => f.1.rejoined := by
  obtain ⟨fuel, rfl⟩ := exists_fuel h
  cases room with
  | zero => cases fields <;> cases h
  | succ room =>
    cases fields with
    | nil =>
      cases h
      exact ⟨rfl, [], rfl, rfl⟩
    | cons field others =>
      rw [written_object, value_object] at h
      rcases inside : pairs fuel room _ with fault | ⟨read, behind⟩ <;> rw [inside] at h
      · cases h
      · obtain ⟨rfl, names⟩ := pairs_left each inside
        cases h
        exact ⟨rfl, read, rfl, names⟩

end Reading

mutual

theorem stopsAtEnd : ∀ v : Json, StopsAtEnd v
  | null => stopsAtEnd_word (fun _ => rfl) (fun _ => ⟨'n', _, rfl, by decide⟩) fun _ => ⟨_, rfl⟩
  | bool b => stopsAtEnd_bool b
  | int n => stopsAtEnd_int n
  | float x => stopsAtEnd_float x
  | text t => stopsAtEnd_text t
  | list items => stopsAtEnd_list (stopsAtEnd_items items)
  | object fields => fun _ h => (names_of_value (stopsAtEnd_fields fields) h).1

theorem stopsAtEnd_items : ∀ items : List Json, ∀ v ∈ items, StopsAtEnd v
  | [] => fun _ h => by cases h
  | item :: rest => List.forall_mem_cons.2 ⟨stopsAtEnd item, stopsAtEnd_items rest⟩

theorem stopsAtEnd_fields : ∀ fields : List (Text × Json), ∀ f ∈ fields, StopsAtEnd f.2
  | [] => fun _ h => by cases h
  | (_, v) :: rest => List.forall_mem_cons.2 ⟨stopsAtEnd v, stopsAtEnd_fields rest⟩

end

/-- Whatever is read from the document of an object is an object without any other names. -/
theorem names_of_read {room : Nat} {fields : Fields} {v : Json}
    (h : Json.read room (object fields).write = .ok v) :
    ∃ read, v = object read ∧
      ∀ name ∈ read.map Prod.fst, ∃ f ∈ fields, name = f.1.rejoined := by
  obtain ⟨fuel, rest, reading⟩ := exists_value_of_read h
  obtain ⟨c, cs, e, start⟩ := exists_start (object fields) 0
  have blanks : skipSpace (object fields).write.toList = written 0 (object fields) ++ [] := by
    rw [write, String.toList_ofList, List.append_nil, e, skipSpace_start start.1]
  rw [blanks] at reading
  obtain ⟨-, read, rfl, names⟩ := names_of_value (stopsAtEnd_fields fields) reading
  refine ⟨_, rfl, fun name there => ?_⟩
  obtain ⟨f, hf, rfl⟩ := List.mem_map.1 there
  have given := List.mem_map_of_mem (f := Prod.fst) (Fields.mem_of_mem_ofPairs hf)
  rw [names] at given
  obtain ⟨g, hg, e⟩ := List.mem_map.1 given
  exact ⟨g, hg, e.symm⟩

end IteratedDilemma.Json
