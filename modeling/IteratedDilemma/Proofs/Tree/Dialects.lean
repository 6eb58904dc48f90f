import Mathlib.Data.List.Forall2
import Mathlib.Logic.Relation
import IteratedDilemma.Proofs.Json.Members
import IteratedDilemma.Proofs.Tree.Malformed

/-! Trees in two dialects. Clauses and conditions may be respelled one field at a time: a field
comes under the other of its two names, a word for the mode is replaced by the other one, and what
stands under the second name of a field that is there under the first may be anything. The readers
see the same parts before and after (`Condition.parts_respelled`, `Clause.parts_respelled`), so a
respelled document gives the same tree or a fault of the same family
(`LogicTree.dialects_load_alike`). -/
namespace IteratedDilemma
set_option autoImplicit false

open Json (Fields)

/-! ## Results alike -/

/-- Two results are one value, or faults of one family. -/
inductive Alike {α : Type} : Except Fault α → Except Fault α → Prop where
  | value (a : α) : Alike (.ok a) (.ok a)
  | fault {f f' : Fault} (same : f.family = f'.family) : Alike (.error f) (.error f')

namespace Alike

variable {α β : Type} {r r' : Except Fault α}

theorem refl (r : Except Fault α) : Alike r r := by
  cases r with
  | error _ => exact .fault rfl
  | ok a => exact .value a

theorem trans {r'' : Except Fault α} (h : Alike r r') (h' : Alike r' r'') : Alike r r'' := by
  cases h with
  | value a => exact h'
  | fault same =>
    cases h' with
    | fault same' => exact .fault (same.trans same')

theorem bind {f g : α → Except Fault β} (h : Alike r r') (later : ∀ a, Alike (f a) (g a)) :
    Alike (r >>= f) (r' >>= g) := by
  cases h with
  | value a => exact later a
  | fault same => exact .fault same

/-- Faults of one family that are wrapped alike stay of one family. -/
theorem mapError {wrap wrap' : Fault → Fault} (h : Alike r r')
    (same : ∀ f f', f.family = f'.family → (wrap f).family = (wrap' f').family) :
    Alike (r.mapError wrap) (r'.mapError wrap') := by
  cases h with
  | value a => exact .value a
  | fault families => exact .fault (same _ _ families)

theorem mapM {γ : Type} {read : γ → Except Fault α} {items items' : List γ}
    (h : List.Forall₂ (fun c c' => Alike (read c) (read c')) items items') :
    Alike (items.mapM read) (items'.mapM read) := by
  induction h with
  | nil => exact refl _
  | cons first _ later =>
    rw [List.mapM_cons, List.mapM_cons]
    exact first.bind fun a => later.bind fun as => refl _

end Alike

/-- The wrapped fault is one of a tree or as before, which its family decides. -/
theorem Fault.family_wrapped {wrap wrap' : Fault → Fault} {f f' : Fault}
    (tree : ∀ g, (wrap g).family = .tree) (tree' : ∀ g, (wrap' g).family = .tree)
    (same : f.family = f'.family) : (f.wrapped wrap).family = (f'.wrapped wrap').family := by
  unfold Fault.wrapped
  rw [same]
  split
  · rw [tree, tree']
  · exact same

/-! ## Fields under two names -/

namespace Json.Fields

/-- Fields that differ at one name only. -/
def IsBut (name : Text) (fields fields' : Fields) : Prop :=
  ∀ other, other ≠ name → fields'.get? other = fields.get? other

/-- A field is respelled: it comes under its second name, where there was nothing, or it stays under
its first name and the value under the second may change. -/
inductive Respelled (first second : Text) (fields fields' : Fields) : Prop where
  | renamed (free : fields.get? second = none) (gone : fields'.get? first = none)
    (moved : fields'.get? second = fields.get? first)
    (others : ∀ name, name ≠ first → name ≠ second → fields'.get? name = fields.get? name)
  | hidden (there : (fields.get? first).isSome) (others : IsBut second fields fields')

variable {first second : Text} {fields fields' : Fields}

theorem firstOf_pair (fields : Fields) (first second : Text) (default : Json) :
    fields.firstOf [first, second] default =
      ((fields.get? first).or (fields.get? second)).getD default := by
  unfold firstOf firstOf?
  rw [List.findSome?_cons]
  cases fields.get? first with
  | some value => rfl
  | none =>
    rw [List.findSome?_cons]
    cases fields.get? second <;> rfl

/-- Under its two names, the field is found as before. -/
theorem Respelled.firstOf (h : Respelled first second fields fields') (apart : first ≠ second)
    (default : Json) :
    fields'.firstOf [first, second] default = fields.firstOf [first, second] default := by
  rw [firstOf_pair, firstOf_pair]
  cases h with
  | renamed free gone moved others => rw [free, gone, moved, Option.or_none, Option.none_or]
  | hidden there others =>
    obtain ⟨value, e⟩ := Option.isSome_iff_exists.1 there
    rw [others first apart, e, Option.some_or, Option.some_or]

theorem firstOf_congr {names : List Text}
    (same : ∀ name ∈ names, fields'.get? name = fields.get? name) (default : Json) :
    fields'.firstOf names default = fields.firstOf names default := by
  have found : names.findSome? fields'.get? = names.findSome? fields.get? := by
    induction names with
    | nil => rfl
    | cons name rest ih =>
      rw [List.findSome?_cons, List.findSome?_cons, same name List.mem_cons_self,
        ih fun other h => same other (List.mem_cons_of_mem _ h)]
  rw [Fields.firstOf, Fields.firstOf, firstOf?, firstOf?, found]

/-- No other field is touched. -/
theorem Respelled.firstOf_others (h : Respelled first second fields fields') {names : List Text}
    (apart : ∀ name ∈ names, name ≠ first ∧ name ≠ second) (default : Json) :
    fields'.firstOf names default = fields.firstOf names default := by
  refine firstOf_congr (fun name there => ?_) default
  obtain ⟨notFirst, notSecond⟩ := apart name there
  cases h with
  | renamed _ _ _ others => exact others name notFirst notSecond
  | hidden _ others => exact others name notSecond

theorem IsBut.firstOf {name : Text} (h : IsBut name fields fields') (names : List Text)
    (apart : name ∉ names) (default : Json) :
    fields'.firstOf names default = fields.firstOf names default :=
  firstOf_congr (fun other there => h other fun e => apart (e ▸ there)) default

/-- Fields with one of them under another name, in its place. -/
def renamed (fields : Fields) (first second : Text) : Fields :=
  fields.map fun field => if field.1 = first then (second, field.2) else field

theorem get?_cons (name other : Text) (value : Json) (rest : Fields) :
    get? ((name, value) :: rest) other = if other = name then some value else rest.get? other :=
  lookup_cons name other value rest

theorem respelled_renamed (apart : first ≠ second) (free : fields.get? second = none) :
    Respelled first second fields (fields.renamed first second) := by
  have found (name : Text) : (fields.renamed first second).get? name =
      if name = first then none else if name = second then fields.get? first
      else fields.get? name := by
    induction fields with
    | nil =>
      split
      · rfl
      · split <;> rfl
    | cons field rest ih =>
      obtain ⟨here, value⟩ := field
      rw [get?_cons] at free
      have unlike : second ≠ here := fun e => by rw [if_pos e] at free; cases free
      rw [if_neg unlike] at free
      have ih := ih free
      rw [renamed, List.map_cons]
      change get? (_ :: renamed rest first second) name = _
      by_cases moves : here = first
      · rw [if_pos moves, get?_cons, ih, get?_cons, get?_cons, if_pos moves.symm, moves]
        grind
      · rw [if_neg moves, get?_cons, ih, get?_cons, get?_cons, if_neg (Ne.symm moves)]
        grind
  refine .renamed free ?_ ?_ fun name notFirst notSecond => ?_
  · rw [found, if_pos rfl]
  · rw [found, if_neg apart.symm, if_pos rfl]
  · rw [found, if_neg notFirst, if_neg notSecond]

end Json.Fields

/-! ## Conditions -/

namespace Condition

/-- The two names of each field of a condition. -/
def dialects : List (Text × Text) := [("kind", "type"), ("target", "value"), ("n", "n_value")]

/-- One field of a condition is respelled. -/
inductive Respelled : Json → Json → Prop where
  | field {fields fields' : Fields} {names : Text × Text} (two : names ∈ dialects)
    (h : fields.Respelled names.1 names.2 fields') : Respelled (.object fields) (.object fields')

theorem parts_respelled {fields fields' : Fields} {names : Text × Text} (two : names ∈ dialects)
    (h : fields.Respelled names.1 names.2 fields') : parts fields' = parts fields := by
  simp only [dialects, List.mem_cons, List.not_mem_nil, or_false] at two
  unfold parts
  rcases two with rfl | rfl | rfl
  · rw [h.firstOf (by decide +kernel), h.firstOf_others (by decide +kernel),
      h.firstOf_others (by decide +kernel)]
  · rw [h.firstOf (by decide +kernel), h.firstOf_others (by decide +kernel),
      h.firstOf_others (by decide +kernel)]
  · rw [h.firstOf (by decide +kernel), h.firstOf_others (by decide +kernel),
      h.firstOf_others (by decide +kernel)]

/-- A field may take its second name if nothing stands there. -/
theorem respelled_renamed {fields : Fields} {names : Text × Text} (two : names ∈ dialects)
    (free : fields.get? names.2 = none) :
    Respelled (.object fields) (.object (fields.renamed names.1 names.2)) := by
  have apart : ∀ names ∈ dialects, names.1 ≠ names.2 := by decide +kernel
  exact .field two (Json.Fields.respelled_renamed (apart names two) free)

theorem Respelled.alike {data data' : Json} (h : Respelled data data') :
    Alike (ofJson data) (ofJson data') := by
  obtain ⟨two, h⟩ := h
  rw [ofJson_object, ofJson_object, parts_respelled two h]
  exact (Alike.refl _).mapError fun f f' same =>
    Fault.family_wrapped (fun _ => rfl) (fun _ => rfl) same

end Condition

/-! ## Clauses -/

/-- Another word for the same mode, each in letters of any case. -/
def MatchMode.Reworded (t t' : Text) : Prop :=
  capitals t = "ALL" ∧ capitals t' = "AND" ∨ capitals t = "ANY" ∧ capitals t' = "OR"

theorem MatchMode.ofJson_reworded {t t' : Text} (h : Reworded t t') :
    ofJson (.text t') = ofJson (.text t) := by
  have words : ofWord? t' = ofWord? t ∧ (ofWord? t).isSome := by
    unfold ofWord?
    rcases h with ⟨e, e'⟩ | ⟨e, e'⟩ <;> rw [e, e'] <;> decide +kernel
  obtain ⟨mode, known⟩ := Option.isSome_iff_exists.1 words.2
  unfold ofJson
  rw [Json.plain, Json.plain, words.1, known]

namespace Clause

/-- The two names of those fields of a clause that have two. -/
def dialects : List (Text × Text) := [("role", "type"), ("match_mode", "matchType")]

/-- One field of a clause is respelled, its mode is named by the other word, or its conditions are
respelled, each of them any number of times. -/
inductive Respelled : Json → Json → Prop where
  | field {fields fields' : Fields} {names : Text × Text} (two : names ∈ dialects)
    (h : fields.Respelled names.1 names.2 fields') : Respelled (.object fields) (.object fields')
  | mode {fields fields' : Fields} {name t t' : Text}
    (named : name = "match_mode" ∨ name = "matchType") (here : fields.get? name = some (.text t))
    (there : fields'.get? name = some (.text t')) (words : MatchMode.Reworded t t')
    (others : fields.IsBut name fields') : Respelled (.object fields) (.object fields')
  | conditions {fields fields' : Fields} {items items' : List Json}
    (here : fields.get? "conditions" = some (.list items))
    (there : fields'.get? "conditions" = some (.list items'))
    (others : fields.IsBut "conditions" fields')
    (each : List.Forall₂ (Relation.ReflTransGen Condition.Respelled) items items') :
    Respelled (.object fields) (.object fields')

theorem parts_respelled {fields fields' : Fields} {names : Text × Text} (two : names ∈ dialects)
    (h : fields.Respelled names.1 names.2 fields') : parts fields' = parts fields := by
  simp only [dialects, List.mem_cons, List.not_mem_nil, or_false] at two
  unfold parts
  rcases two with rfl | rfl
  · rw [h.firstOf (by decide +kernel), h.firstOf_others (by decide +kernel),
      h.firstOf_others (by decide +kernel), h.firstOf_others (by decide +kernel)]
  · rw [h.firstOf (by decide +kernel), h.firstOf_others (by decide +kernel),
      h.firstOf_others (by decide +kernel), h.firstOf_others (by decide +kernel)]

/-- A field may take its second name if nothing stands there. -/
theorem respelled_renamed {fields : Fields} {names : Text × Text} (two : names ∈ dialects)
    (free : fields.get? names.2 = none) :
    Respelled (.object fields) (.object (fields.renamed names.1 names.2)) := by
  have apart : ∀ names ∈ dialects, names.1 ≠ names.2 := by decide +kernel
  exact .field two (Json.Fields.respelled_renamed (apart names two) free)

/-- The parts of two clauses are read alike if they differ in the mode or the conditions only, and
these are. -/
theorem ofParts_alike {role conditions conditions' mode mode' action : Json}
    (modes : MatchMode.ofJson mode' = MatchMode.ofJson mode)
    (listed : Alike (conditions.items >>= fun items => items.mapM Condition.ofJson)
      (conditions'.items >>= fun items => items.mapM Condition.ofJson)) :
    Alike (ofParts role conditions mode action) (ofParts role conditions' mode' action) := by
  have parts (conditions mode : Json) : ofParts role conditions mode action = (do
      let role ← Role.ofJson role
      let conditions ← conditions.items >>= fun items => items.mapM Condition.ofJson
      let mode ← MatchMode.ofJson mode
      let action ← Action.ofJson action
      return ⟨role, conditions, mode, action⟩) := by
    unfold ofParts
    simp only [bind_assoc]
  rw [parts, parts, modes]
  exact (Alike.refl _).bind fun role => listed.bind fun conditions => .refl _

theorem ofJson_alike {fields fields' : Fields}
    (h : Alike (ofParts (parts fields).1 (parts fields).2.1 (parts fields).2.2.1
      (parts fields).2.2.2) (ofParts (parts fields').1 (parts fields').2.1 (parts fields').2.2.1
      (parts fields').2.2.2)) :
    Alike (ofJson (.object fields)) (ofJson (.object fields')) := by
  rw [ofJson_object, ofJson_object]
  refine h.mapError fun f f' same => ?_
  rw [same]
  split
  · exact same
  · exact Fault.family_wrapped (fun _ => rfl) (fun _ => rfl) same

theorem mode_reworded {fields fields' : Fields} {name t t' : Text}
    (named : name = "match_mode" ∨ name = "matchType") (here : fields.get? name = some (.text t))
    (there : fields'.get? name = some (.text t')) (words : MatchMode.Reworded t t')
    (others : fields.IsBut name fields') :
    MatchMode.ofJson (fields'.firstOf ["match_mode", "matchType"] (.text "ALL")) =
      MatchMode.ofJson (fields.firstOf ["match_mode", "matchType"] (.text "ALL")) := by
  rw [Json.Fields.firstOf_pair, Json.Fields.firstOf_pair]
  rcases named with rfl | rfl
  · rw [here, there]
    exact MatchMode.ofJson_reworded words
  · -- the word counts only where nothing stands under the first name
    rw [others "match_mode" (by decide +kernel), here, there]
    cases fields.get? "match_mode" with
    | some value => rfl
    | none => exact MatchMode.ofJson_reworded words

theorem firstOf_conditions {fields : Fields} {items : List Json}
    (h : fields.get? "conditions" = some (.list items)) :
    fields.firstOf ["conditions"] (.list []) = .list items := by
  rw [Json.Fields.firstOf, Json.Fields.firstOf?, List.findSome?_cons, h]
  rfl

theorem Respelled.alike {data data' : Json} (h : Respelled data data') :
    Alike (ofJson data) (ofJson data') := by
  cases h with
  | field two h =>
    refine ofJson_alike ?_
    rw [parts_respelled two h]
    exact .refl _
  | @mode fields fields' name t t' named here there words others =>
    have apart {names : List Text}
        (h : ("match_mode" : Text) ∉ names ∧ ("matchType" : Text) ∉ names) : name ∉ names := by
      rcases named with rfl | rfl
      · exact h.1
      · exact h.2
    refine ofJson_alike ?_
    unfold parts
    rw [others.firstOf ["role", "type"] (apart (by decide +kernel)),
      others.firstOf ["conditions"] (apart (by decide +kernel)),
      others.firstOf ["action"] (apart (by decide +kernel))]
    exact ofParts_alike (mode_reworded named here there words others) (.refl _)
  | conditions here there others each =>
    refine ofJson_alike ?_
    unfold parts
    rw [others.firstOf ["role", "type"] (by decide +kernel),
      others.firstOf ["match_mode", "matchType"] (by decide +kernel),
      others.firstOf ["action"] (by decide +kernel), firstOf_conditions here,
      firstOf_conditions there]
    refine ofParts_alike rfl (Alike.mapM (each.imp fun item item' steps => ?_))
    induction steps with
    | refl => exact .refl _
    | tail _ step ih => exact ih.trans step.alike

end Clause

/-! ## Trees -/

namespace LogicTree

/-- A document of clauses is respelled: each of them any number of times. -/
inductive Respelled : Json → Json → Prop where
  | itself {items items' : List Json}
    (each : List.Forall₂ (Relation.ReflTransGen Clause.Respelled) items items') :
    Respelled (.list items) (.list items')
  | field {fields fields' : Fields} {items items' : List Json}
    (here : fields.get? "clauses" = some (.list items))
    (there : fields'.get? "clauses" = some (.list items'))
    (each : List.Forall₂ (Relation.ReflTransGen Clause.Respelled) items items') :
    Respelled (.object fields) (.object fields')

/-- A document and one in which any of its clauses and conditions are respelled are read alike,
strictly or not: they give one tree or faults of one family. -/
theorem dialects_load_alike {data data' : Json} (h : Respelled data data') (strict : Bool) :
    Alike (ofJson strict data) (ofJson strict data') := by
  have clauses {items items' : List Json}
      (each : List.Forall₂ (Relation.ReflTransGen Clause.Respelled) items items') :
      Alike (items.mapM Clause.ofJson) (items'.mapM Clause.ofJson) := by
    refine Alike.mapM (each.imp fun item item' steps => ?_)
    induction steps with
    | refl => exact .refl _
    | tail _ step ih => exact ih.trans step.alike
  have chains : Alike (Chain.ofJson data) (Chain.ofJson data') := by
    have listed {fields : Fields} {items : List Json}
        (h : fields.get? "clauses" = some (.list items)) : Chain.Lists (.object fields) items := by
      refine .field ?_
      rw [Json.Fields.firstOf, Json.Fields.firstOf?, List.findSome?_cons, h]
      rfl
    cases h with
    | itself each => exact clauses each
    | field here there each =>
      rw [(listed here).ofJson, (listed there).ofJson]
      exact clauses each
  exact chains.bind fun cs => .refl _

/-- An opening clause whose role and mode come under the names given. -/
def openingFields (role mode word : Text) (conditions : List Json) : Fields :=
  [(role, .text "IF"), (mode, .text word), ("action", .text "Random"),
    ("conditions", .list conditions)]

/-- Conditions in native names. The last has both names for the number of rounds. -/
def nativeConditions : List Json :=
  [.object [("kind", .text "opponent_nth_last_move"), ("target", .text "Cooperate"),
      ("n", .int 2)],
    .object [("kind", .text "your_last_move"), ("n", .null), ("n_value", .int 7)]]

/-- These in the names of the editor, with another value where it does not count. -/
def editedConditions : List Json :=
  [.object [("type", .text "opponent_nth_last_move"), ("value", .text "Cooperate"),
      ("n_value", .int 2)],
    .object [("type", .text "your_last_move"), ("n", .null), ("n_value", .text "x")]]

def native : Json := .list [.object (openingFields "role" "match_mode" "any" nativeConditions)]

def edited : Json := .list [.object (openingFields "type" "matchType" "Or" editedConditions)]

theorem conditions_respelled :
    List.Forall₂ (Relation.ReflTransGen Condition.Respelled) nativeConditions editedConditions := by
  have value : Condition.Respelled
      (.object [("kind", .text "your_last_move"), ("n", .null), ("n_value", .int 7)])
      (.object [("kind", .text "your_last_move"), ("n", .null), ("n_value", .text "x")]) := by
    refine .field (.tail _ (.tail _ (.head _))) (.hidden rfl fun name other => ?_)
    simp only [Json.Fields.get?_cons, if_neg other]
  have kind {fields : Fields} (free : fields.get? "type" = none) :=
    Condition.respelled_renamed (.head _) free
  have target {fields : Fields} (free : fields.get? "value" = none) :=
    Condition.respelled_renamed (.tail _ (.head _)) free
  have n {fields : Fields} (free : fields.get? "n_value" = none) :=
    Condition.respelled_renamed (.tail _ (.tail _ (.head _))) free
  exact .cons (.tail (.tail (.single (kind rfl)) (target rfl)) (n rfl))
    (.cons (.tail (.single value) (kind rfl)) .nil)

theorem native_respelled : Respelled native edited := by
  have conditions : Clause.Respelled
      (.object (openingFields "role" "match_mode" "any" nativeConditions))
      (.object (openingFields "role" "match_mode" "any" editedConditions)) := by
    refine .conditions rfl rfl (fun name other => ?_) conditions_respelled
    simp only [openingFields, Json.Fields.get?_cons, if_neg other]
  have mode : Clause.Respelled
      (.object (openingFields "role" "match_mode" "any" editedConditions))
      (.object (openingFields "role" "match_mode" "Or" editedConditions)) := by
    refine .mode (.inl rfl) rfl rfl (.inr ⟨by decide +kernel, by decide +kernel⟩)
      fun name other => ?_
    simp only [openingFields, Json.Fields.get?_cons, if_neg other]
  have role : Clause.Respelled
      (.object (openingFields "role" "match_mode" "Or" editedConditions))
      (.object (openingFields "type" "match_mode" "Or" editedConditions)) :=
    Clause.respelled_renamed (.head _) rfl
  have modeName : Clause.Respelled
      (.object (openingFields "type" "match_mode" "Or" editedConditions))
      (.object (openingFields "type" "matchType" "Or" editedConditions)) :=
    Clause.respelled_renamed (.tail _ (.head _)) rfl
  exact .itself (.cons (.tail (.tail (.tail (.single conditions) mode) role) modeName) .nil)

theorem edited_loads_as_native :
    Respelled native edited ∧ ∀ strict, Alike (ofJson strict native) (ofJson strict edited) ∧
      (ofJson strict edited).map LogicTree.clauses = .ok [⟨.opening,
        [⟨.known ⟨.opponent, .nth⟩, 2, .cooperate⟩, ⟨.known ⟨.own, .last⟩, 1, .betray⟩],
        .any, .random⟩] :=
  ⟨native_respelled, fun strict =>
    ⟨dialects_load_alike native_respelled strict, by cases strict <;> rfl⟩⟩

end LogicTree
end IteratedDilemma
