import Mathlib.Data.List.Nodup
import IteratedDilemma.Json.Decoding
import IteratedDilemma.Proofs.Work

/-! The members of documents: what stands under a name that no other field has is found there
(`get?_of_mem`, `firstOf_of_mem`, `required_of_mem`), in whichever order the fields are
(`get?_perm`), and a list is read by reading each of its items (`mapM_ok`), up to the first that
cannot be read (`mapM_eq_error`). -/
namespace IteratedDilemma
set_option autoImplicit false

theorem mapM_ok {α β γ : Type} {f : α → β} {read : β → Except Fault γ} {g : α → γ} {items : List α}
    (each : ∀ a ∈ items, read (f a) = .ok (g a)) :
    (items.map f).mapM read = .ok (items.map g) := by
  induction items with
  | nil => rfl
  | cons a rest ih =>
    have later := ih fun b hb => each b (List.mem_cons_of_mem _ hb)
    rw [List.map_cons, List.mapM_cons, each a List.mem_cons_self, later]
    rfl

theorem exists_of_bind_ok {α β : Type} {x : Except Fault α} {f : α → Except Fault β} {b : β}
    (h : (x >>= f) = .ok b) : ∃ a, x = .ok a ∧ f a = .ok b := by
  cases x with
  | error fault => cases h
  | ok a => exact ⟨a, rfl, h⟩

theorem bind_eq_error {α β : Type} {x : Except Fault α} {f : α → Except Fault β} {fault : Fault}
    (h : (x >>= f) = .error fault) : x = .error fault ∨ ∃ a, x = .ok a ∧ f a = .error fault := by
  cases x with
  | error fault =>
    cases h
    exact .inl rfl
  | ok a => exact .inr ⟨a, rfl, h⟩

/-- Reading items one after another comes to an item: all before it can be read. -/
def ComesTo {α β : Type} (read : α → Except Fault β) (items : List α) (item : α) : Prop :=
  ∃ before after bs, items = before ++ item :: after ∧ before.mapM read = .ok bs

/-- Items cannot be read for the reason for which the first of them that cannot be read cannot. -/
theorem mapM_eq_error {α β : Type} {read : α → Except Fault β} {items : List α} {fault : Fault} :
    items.mapM read = .error fault ↔
      ∃ item, ComesTo read items item ∧ read item = .error fault := by
  constructor
  · intro h
    induction items with
    | nil => cases h
    | cons a rest ih =>
      rw [List.mapM_cons] at h
      rcases bind_eq_error h with first | ⟨b, first, h⟩
      · exact ⟨a, ⟨[], rest, [], rfl, rfl⟩, first⟩
      rcases bind_eq_error h with later | ⟨bs, -, h⟩
      · obtain ⟨item, ⟨before, after, bs, rfl, read⟩, unreadable⟩ := ih later
        refine ⟨item, ⟨a :: before, after, b :: bs, rfl, ?_⟩, unreadable⟩
        rw [List.mapM_cons, first, ok_bind, read]
        rfl
      · cases h
  · rintro ⟨item, ⟨before, after, bs, rfl, read⟩, unreadable⟩
    rw [List.mapM_append, read, ok_bind, List.mapM_cons, unreadable]
    rfl

namespace Json
namespace Fields

theorem get?_of_mem {fields : Fields} (apart : (fields.map Prod.fst).Nodup) {name : Text}
    {value : Json} (h : (name, value) ∈ fields) : fields.get? name = some value := by
  induction fields with
  | nil => cases h
  | cons field rest ih =>
    obtain ⟨n, v⟩ := field
    rw [List.map_cons, List.nodup_cons] at apart
    rw [get?, lookup_cons]
    rcases List.mem_cons.1 h with e | later
    · cases e
      rw [if_pos rfl]
    · have differs : ¬name = n := by
        rintro rfl
        exact apart.1 (List.mem_map.2 ⟨_, later, rfl⟩)
      rw [if_neg differs]
      exact ih apart.2 later

theorem mem_of_get? {fields : Fields} {name : Text} {v : Json} (h : fields.get? name = some v) :
    (name, v) ∈ fields := by
  obtain ⟨before, after, rfl, -⟩ := List.lookup_eq_some_iff.1 h
  exact List.mem_append_right _ List.mem_cons_self

/-- The order of fields of different names does not matter. -/
theorem get?_perm {fields fields' : Fields} (same : fields.Perm fields')
    (apart : (fields'.map Prod.fst).Nodup) (name : Text) :
    fields.get? name = fields'.get? name := by
  have apart' : (fields.map Prod.fst).Nodup := (same.map Prod.fst).nodup_iff.2 apart
  ext v
  exact ⟨fun h => get?_of_mem apart (same.mem_iff.1 (mem_of_get? h)),
    fun h => get?_of_mem apart' (same.mem_iff.2 (mem_of_get? h))⟩

theorem firstOf_single (fields : Fields) (name : Text) (default : Json) :
    fields.firstOf [name] default = (fields.get? name).getD default := by
  rw [firstOf, firstOf?, List.findSome?_cons]
  rcases fields.get? name with _ | v <;> rfl

theorem firstOf_of_mem {fields : Fields} (apart : (fields.map Prod.fst).Nodup) {name : Text}
    {value : Json} (h : (name, value) ∈ fields) (others : List Text) (default : Json) :
    fields.firstOf (name :: others) default = value := by
  rw [firstOf, firstOf?, List.findSome?_cons, get?_of_mem apart h]
  rfl

end Fields

theorem required_of_mem {fields : Fields} (apart : (fields.map Prod.fst).Nodup) {name : Text}
    {value : Json} (h : (name, value) ∈ fields) :
    (object fields).required name = .ok value := by
  rw [required, Fields.get?_of_mem apart h]

theorem object_of_fields {v : Json} {fields : Fields} (h : v.fields = .ok fields) :
    v = object fields := by
  cases v with
  | object fields' =>
    cases h
    rfl
  | _ => cases h

theorem mem_of_member? {name : Text} {fields : Fields} {v : Json}
    (h : (object fields).member? name = .ok (some v)) : (name, v) ∈ fields := by
  rw [member?, hasMember, ok_bind] at h
  rcases found : fields.get? name with _ | w
  · rw [found] at h
    cases h
  · rw [found, Option.isSome_some, if_pos rfl, required, found] at h
    cases h
    exact Fields.mem_of_get? found

end Json
end IteratedDilemma
