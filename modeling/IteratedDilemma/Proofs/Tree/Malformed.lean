import IteratedDilemma.Proofs.Json.Members
import IteratedDilemma.Proofs.Tree.Grammar

/-! Documents that are no trees. The readers report faults of a type or a value as faults of a tree.
Two others get past them: a clause or condition that is no object is asked for its fields, and an
infinite number of rounds is asked for a whole one (`Condition.Escapes`, `Clause.Escapes`,
`Chain.Escapes`). Main statement: a document is a tree that keeps the rules, or it is reported as a
fault of a tree, unless reading it comes to one of these (`LogicTree.malformed_is_reported`). -/
namespace IteratedDilemma
set_option autoImplicit false

namespace Fault

/-! ## Faults that are reported, and others -/

/-- A fault that the readers of trees report as one of a tree. -/
def IsReported (f : Fault) : Prop := f.family = .type ∨ f.family.isValue

/-- A fault that gets past the readers of trees. -/
def Slips (f : Fault) : Prop := f.family = .attribute ∨ f.family = .overflow

theorem Slips.not_isReported {f : Fault} (h : f.Slips) : ¬f.IsReported := by
  rw [IsReported]
  rcases h with h | h <;> rw [h] <;> decide

theorem Slips.not_tree {f : Fault} (h : f.Slips) : f.family ≠ .tree := by
  intro tree
  exact h.not_isReported (.inr (by rw [tree]; rfl))

variable {wrap : Fault → Fault}

theorem wrapped_of_isReported {f : Fault} (h : f.IsReported) : f.wrapped wrap = wrap f := if_pos h

theorem wrapped_of_slips {f : Fault} (h : f.Slips) : f.wrapped wrap = f := if_neg h.not_isReported

end Fault

namespace Json

theorem word_error {α : Type} {find? : Text → Option α} {fault : Json → Fault} {value : Json}
    {f : Fault} (h : value.word find? fault = .error f) : f = fault value := by
  unfold word at h
  split at h
  · split at h
    · cases h
    · cases h
      rfl
  · cases h
    rfl

theorem items_error {value : Json} {f : Fault} (h : value.items = .error f) : f.IsReported := by
  cases value <;> cases h <;> exact .inl rfl

/-- Infinity has no whole number, and is told from all else that has none. -/
theorem whole_error {value : Json} {f : Fault} (h : value.whole = .error f) :
    f.IsReported ∨ f = .wholeOfInfinity ∧ ∃ negative, value = .float (.infinite negative) := by
  cases value with
  | float x =>
    cases x with
    | infinite negative =>
      cases h
      exact .inr ⟨rfl, negative, rfl⟩
    | _ =>
      simp only [whole] at h
      split at h
      · cases h
      · cases h
        exact .inl (.inr rfl)
  | text t =>
    simp only [whole] at h
    cases read : IntegerText.read t with
    | ok n =>
      rw [read] at h
      cases h
    | error failure =>
      rw [read] at h
      cases h
      exact .inl (.inr rfl)
  | bool b => cases h
  | int n => cases h
  | _ =>
    cases h
    exact .inl (.inl rfl)

theorem fields_error {data : Json} (h : ∀ fields, data ≠ .object fields) :
    data.fields = .error (.lacks data.typeName "get") := by
  cases data with
  | object fields => exact absurd rfl (h fields)
  | _ => rfl

end Json

/-! ## Conditions -/

namespace Condition

/-- What gets past the reader of a condition: that it is no object, and, once its target is read,
that its number of rounds is infinite. -/
inductive Escapes : Json → Fault → Prop where
  | noObject {data : Json} (h : ∀ fields, data ≠ .object fields) :
    Escapes data (.lacks data.typeName "get")
  | endless {fields : Json.Fields} {target : Move} {negative : Bool}
    (read : Move.ofJson (parts fields).2.1 = .ok target)
    (n : (parts fields).2.2 = .float (.infinite negative)) :
    Escapes (.object fields) .wholeOfInfinity

theorem Escapes.slips {data : Json} {fault : Fault} (h : Escapes data fault) : fault.Slips := by
  cases h with
  | noObject => exact .inl rfl
  | endless => exact .inr rfl

theorem ofJson_object (fields : Json.Fields) :
    ofJson (.object fields) = (ofParts (parts fields).1 (parts fields).2.1
      (parts fields).2.2).mapError (.wrapped (.condition (Json.object fields).shown)) := rfl

theorem ofJson_of_escapes {data : Json} {fault : Fault} (h : Escapes data fault) :
    ofJson data = .error fault := by
  cases h with
  | noObject h =>
    rw [ofJson, Json.fields_error h]
    rfl
  | @endless fields target negative read n =>
    have made : ofParts (parts fields).1 (parts fields).2.1 (parts fields).2.2 =
        .error .wholeOfInfinity := by
      rw [ofParts, read, ok_bind, n]
      rfl
    rw [ofJson_object, made]
    rfl

theorem ofParts_error {kind target n : Json} {fault : Fault}
    (h : ofParts kind target n = .error fault) :
    fault.IsReported ∨ fault = .wholeOfInfinity ∧ (∃ m, Move.ofJson target = .ok m) ∧
      ∃ negative, n = .float (.infinite negative) := by
  unfold ofParts at h
  rcases bind_eq_error h with unread | ⟨m, read, h⟩
  · rw [Json.word_error unread]
    exact .inl (.inr rfl)
  rcases bind_eq_error h with notWhole | ⟨n, -, h⟩
  · rcases Json.whole_error notWhole with reported | ⟨rfl, endless⟩
    · exact .inl reported
    · exact .inr ⟨rfl, ⟨m, read⟩, endless⟩
  · cases h

theorem ofJson_error {data : Json} {fault : Fault} (h : ofJson data = .error fault) :
    fault.family = .tree ∨ Escapes data fault := by
  cases data with
  | object fields =>
    rw [ofJson_object] at h
    cases made : ofParts (parts fields).1 (parts fields).2.1 (parts fields).2.2 with
    | ok c =>
      rw [made] at h
      cases h
    | error cause =>
      rw [made] at h
      cases h
      rcases ofParts_error made with reported | ⟨rfl, ⟨m, read⟩, negative, n⟩
      · rw [Fault.wrapped_of_isReported reported]
        exact .inl rfl
      · exact .inr (.endless read n)
  | _ =>
    cases h
    exact .inr (.noObject nofun)

end Condition

/-! ## Clauses -/

namespace Clause

/-- What gets past the reader of a clause: that it is no object, and, once its role is read, what
gets past the reader of the first of its conditions that cannot be read. -/
inductive Escapes : Json → Fault → Prop where
  | noObject {data : Json} (h : ∀ fields, data ≠ .object fields) :
    Escapes data (.lacks data.typeName "get")
  | condition {fields : Json.Fields} {role : Role} {items : List Json} {item : Json} {fault : Fault}
    (read : Role.ofJson (parts fields).1 = .ok role) (listed : (parts fields).2.1.items = .ok items)
    (first : ComesTo Condition.ofJson items item) (escapes : Condition.Escapes item fault) :
    Escapes (.object fields) fault

theorem Escapes.slips {data : Json} {fault : Fault} (h : Escapes data fault) : fault.Slips := by
  cases h with
  | noObject => exact .inl rfl
  | condition _ _ _ escapes => exact escapes.slips

theorem ofJson_object (fields : Json.Fields) :
    ofJson (.object fields) = (ofParts (parts fields).1 (parts fields).2.1 (parts fields).2.2.1
      (parts fields).2.2.2).mapError fun f =>
        if f.family = .tree then f else f.wrapped (.clause (Json.object fields).shown) := rfl

theorem ofJson_of_escapes {data : Json} {fault : Fault} (h : Escapes data fault) :
    ofJson data = .error fault := by
  cases h with
  | noObject h =>
    rw [ofJson, Json.fields_error h]
    rfl
  | @condition fields role items item _ read listed first escapes =>
    have unreadable : items.mapM Condition.ofJson = .error fault :=
      mapM_eq_error.2 ⟨item, first, Condition.ofJson_of_escapes escapes⟩
    have made : ofParts (parts fields).1 (parts fields).2.1 (parts fields).2.2.1
        (parts fields).2.2.2 = .error fault := by
      rw [ofParts, read, ok_bind, listed, ok_bind, unreadable]
      rfl
    rw [ofJson_object, made, Except.mapError, if_neg escapes.slips.not_tree,
      Fault.wrapped_of_slips escapes.slips]

theorem ofParts_error {role conditions mode action : Json} {fault : Fault}
    (h : ofParts role conditions mode action = .error fault) :
    fault.IsReported ∨ ∃ r items item, Role.ofJson role = .ok r ∧ conditions.items = .ok items ∧
      ComesTo Condition.ofJson items item ∧ Condition.Escapes item fault := by
  unfold ofParts at h
  rcases bind_eq_error h with unread | ⟨r, read, h⟩
  · rw [Json.word_error unread]
    exact .inl (.inr rfl)
  rcases bind_eq_error h with unlisted | ⟨items, listed, h⟩
  · exact .inl (Json.items_error unlisted)
  rcases bind_eq_error h with unread | ⟨conditions, -, h⟩
  · obtain ⟨item, first, unreadable⟩ := mapM_eq_error.1 unread
    rcases Condition.ofJson_error unreadable with tree | escapes
    · exact .inl (.inr (by rw [tree]; rfl))
    · exact .inr ⟨r, items, item, read, listed, first, escapes⟩
  rcases bind_eq_error h with unread | ⟨mode, -, h⟩
  · unfold MatchMode.ofJson at unread
    split at unread
    · cases unread
    · cases unread
      exact .inl (.inr rfl)
  rcases bind_eq_error h with unread | ⟨action, -, h⟩
  · rw [Json.word_error unread]
    exact .inl (.inr rfl)
  · cases h

theorem ofJson_error {data : Json} {fault : Fault} (h : ofJson data = .error fault) :
    fault.family = .tree ∨ Escapes data fault := by
  cases data with
  | object fields =>
    rw [ofJson_object] at h
    cases made : ofParts (parts fields).1 (parts fields).2.1 (parts fields).2.2.1
        (parts fields).2.2.2 with
    | ok c =>
      rw [made] at h
      cases h
    | error cause =>
      rw [made, Except.mapError] at h
      cases h
      split
      · next tree => exact .inl tree
      · rcases ofParts_error made with reported | ⟨r, items, item, read, listed, first, escapes⟩
        · rw [Fault.wrapped_of_isReported reported]
          exact .inl rfl
        · rw [Fault.wrapped_of_slips escapes.slips]
          exact .inr (.condition read listed first escapes)
  | _ =>
    cases h
    exact .inr (.noObject nofun)

end Clause

/-! ## Chains -/

namespace Chain

/-- Where the clauses of a document are listed. -/
inductive Lists : Json → List Json → Prop where
  | itself (items : List Json) : Lists (.list items) items
  | field {fields : Json.Fields} {items : List Json}
    (h : Json.Fields.firstOf fields ["clauses"] .null = .list items) : Lists (.object fields) items

theorem Lists.ofJson {data : Json} {items : List Json} (h : Lists data items) :
    ofJson data = items.mapM Clause.ofJson := by
  cases h with
  | itself => rfl
  | field h =>
    unfold Chain.ofJson
    dsimp only
    rw [h]

/-- What gets past the reader of clauses: what gets past that of the first which cannot be read. -/
inductive Escapes : Json → Fault → Prop where
  | clause {data item : Json} {items : List Json} {fault : Fault} (listed : Lists data items)
    (first : ComesTo Clause.ofJson items item) (escapes : Clause.Escapes item fault) :
    Escapes data fault

theorem Escapes.slips {data : Json} {fault : Fault} (h : Escapes data fault) : fault.Slips := by
  obtain ⟨-, -, escapes⟩ := h
  exact escapes.slips

theorem ofJson_of_escapes {data : Json} {fault : Fault} (h : Escapes data fault) :
    ofJson data = .error fault := by
  obtain ⟨listed, first, escapes⟩ := h
  rw [listed.ofJson]
  exact mapM_eq_error.2 ⟨_, first, Clause.ofJson_of_escapes escapes⟩

theorem lists_or (data : Json) :
    (∃ items, Lists data items) ∨ ∃ type, ofJson data = .error (.notClauses type) := by
  cases data with
  | list items => exact .inl ⟨items, .itself items⟩
  | object fields =>
    cases listed : Json.Fields.firstOf fields ["clauses"] .null with
    | list items => exact .inl ⟨items, .field listed⟩
    | _ =>
      right
      unfold ofJson
      dsimp only
      rw [listed]
      exact ⟨_, rfl⟩
  | _ => exact .inr ⟨_, rfl⟩

theorem ofJson_error {data : Json} {fault : Fault} (h : ofJson data = .error fault) :
    fault.family = .tree ∨ Escapes data fault := by
  rcases lists_or data with ⟨items, listed⟩ | ⟨type, unlisted⟩
  · rw [listed.ofJson] at h
    obtain ⟨item, first, unreadable⟩ := mapM_eq_error.1 h
    exact (Clause.ofJson_error unreadable).imp_right (.clause listed first)
  · rw [unlisted] at h
    cases h
    exact .inl rfl

end Chain

/-! ## Trees -/

namespace LogicTree

theorem ofJson_of_escapes {data : Json} {fault : Fault} (h : Chain.Escapes data fault)
    (strict : Bool) : ofJson strict data = .error fault := by
  rw [ofJson, Chain.ofJson_of_escapes h]
  rfl

theorem ofJson_error {strict : Bool} {data : Json} {fault : Fault}
    (h : ofJson strict data = .error fault) : fault.family = .tree ∨ Chain.Escapes data fault := by
  rcases bind_eq_error h with unread | ⟨cs, -, broken⟩
  · exact Chain.ofJson_error unread
  · unfold ofClauses at broken
    split at broken
    · cases broken
    · cases broken
      exact .inl rfl

/-- An opening clause with a condition that looks back an infinite number of rounds. -/
def endless : Json :=
  .object [("role", .text "IF"), ("conditions", .list [.object
    [("kind", .text "opponent_last_move"), ("n", .float (.infinite false))]])]

end LogicTree
end IteratedDilemma
