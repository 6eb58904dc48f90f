import IteratedDilemma.Proofs.Json.Members
import IteratedDilemma.Proofs.Json.RoundTrip
import IteratedDilemma.Tree.Document

/-! Logic trees as values and back (`LogicTree.ofJson_toJson`). In a document the names of unknown
kinds of condition are rejoined, so that what is read from it is the tree with those names
(`LogicTree.rejoined_toJson`), which decides as the tree that was written does
(`LogicTree.action_rejoined`). -/
namespace IteratedDilemma
set_option autoImplicit false

/-! ## Words -/

@[simp] theorem Move.ofJson_toJson (m : Move) : ofJson m.toJson = .ok m := by
  rw [ofJson, toJson, Json.word, ofWord?_word]

@[simp] theorem Action.ofJson_toJson (a : Action) : ofJson a.toJson = .ok a := by
  rw [ofJson, toJson, Json.word, ofWord?_word]

@[simp] theorem Role.ofJson_word (r : Role) : ofJson (.text r.word) = .ok r := by
  rw [ofJson, Json.word, ofWord?_word]

@[simp] theorem MatchMode.ofJson_word (m : MatchMode) : ofJson (.text m.word) = .ok m := by
  rw [ofJson, Json.plain, ofWord?_word]

@[simp] theorem Move.rejoined_toJson (m : Move) : m.toJson.rejoined = m.toJson := by
  rw [toJson, Json.rejoined, Text.rejoined_ofString]

@[simp] theorem Action.rejoined_toJson (a : Action) : a.toJson.rejoined = a.toJson := by
  rw [toJson, Json.rejoined, Text.rejoined_ofString]

/-! ## Kinds of condition -/

namespace Kind

/-- The kind of the rejoined name. -/
def rejoined (kind : Kind) : Kind := ofName kind.name.rejoined

theorem name_rejoined (kind : Kind) : kind.rejoined.name = kind.name.rejoined := name_ofName _

theorem rejoined_known (kind : KnownKind) : (known kind).rejoined = known kind := by
  rw [rejoined, name, Text.rejoined_ofString]
  exact ofName_name (known kind)

theorem plain_name (kind : KnownKind) : ∀ c ∈ Text.ofString kind.name, c.val < 0xd800 := by
  obtain ⟨s, l⟩ := kind
  cases s <;> cases l <;> decide +kernel

/-- No name becomes that of a kind which is known. -/
theorem rejoined_unknown {text : Text} (unlisted : KnownKind.ofName? text = none) :
    ∃ h, (unknown text unlisted).rejoined = unknown text.rejoined h := by
  have still : KnownKind.ofName? text.rejoined = none := by
    rcases e : KnownKind.ofName? text.rejoined with _ | kind
    · rfl
    · have found := List.find?_some e
      rw [decide_eq_true_eq] at found
      have same := Text.eq_of_rejoined (plain_name kind) found.symm
      rw [same, KnownKind.ofName?_name] at unlisted
      cases unlisted
  refine ⟨still, ?_⟩
  have whole := ofName_name (unknown text.rejoined still)
  exact whole

end Kind

namespace Condition

def rejoined (c : Condition) : Condition := { c with kind := c.kind.rejoined }

@[simp] theorem n_rejoined (c : Condition) : c.rejoined.n = c.n := rfl

theorem holds_rejoined (c : Condition) (own opponent : History) :
    c.rejoined.holds own opponent = c.holds own opponent := by
  obtain ⟨kind, n, target⟩ := c
  cases kind with
  | known kind => rw [rejoined, Kind.rejoined_known]
  | unknown text unlisted =>
    obtain ⟨h, e⟩ := Kind.rejoined_unknown unlisted
    rw [rejoined, e]
    rfl

theorem ofJson_toJson (c : Condition) : ofJson c.toJson = .ok c := by
  have apart : (List.map Prod.fst [(("kind" : Text), Json.text c.kind.name), ("n", .int c.n),
      ("target", c.target.toJson)]).Nodup := by
    simp only [List.map_cons, List.map_nil]
    decide +kernel
  have kind := Json.Fields.firstOf_of_mem apart (.head _) ["type"] .null
  have n := Json.Fields.firstOf_of_mem apart (.tail _ (.head _)) ["n_value"] (.int 1)
  have target := Json.Fields.firstOf_of_mem apart (.tail _ (.tail _ (.head _))) ["value"]
    (.text "Betray")
  have parts : parts [("kind", .text c.kind.name), ("n", .int c.n), ("target", c.target.toJson)] =
      (.text c.kind.name, c.target.toJson, .int c.n) := by
    rw [parts, kind, n, target]
  have whole : ofParts (.text c.kind.name) c.target.toJson (.int c.n) = .ok c := by
    rw [ofParts, Move.ofJson_toJson, ok_bind, Json.whole, ok_bind, Kind.ofJson, Json.plain,
      Kind.ofName_name]
    rfl
  rw [toJson, ofJson, Json.fields, ok_bind, parts]
  dsimp only
  rw [whole]
  rfl

theorem rejoined_toJson (c : Condition) : c.toJson.rejoined = c.rejoined.toJson := by
  simp only [toJson, rejoined, Json.rejoined, Json.rejoinedFields, Text.rejoined_ofString,
    Move.rejoined_toJson, Kind.name_rejoined]

theorem isRegular_toJson (room : Nat) (c : Condition) : c.toJson.IsRegular (room + 1) := by
  refine .object ?_ ?_
  · intro f h
    simp only [List.mem_cons, List.not_mem_nil, or_false] at h
    rcases h with rfl | rfl | rfl
    · exact .text room _
    · exact .int room _
    · exact .text room _
  · simp only [List.map_cons, List.map_nil, Text.rejoined_ofString]
    decide +kernel

end Condition

namespace Clause

def rejoined (c : Clause) : Clause := { c with conditions := c.conditions.map Condition.rejoined }

theorem isMet_rejoined (c : Clause) (own opponent : History) :
    c.rejoined.isMet own opponent = c.isMet own opponent := by
  have same : (fun d : Condition => d.rejoined.holds own opponent) =
      fun d => d.holds own opponent := funext fun d => d.holds_rejoined own opponent
  simp only [isMet, rejoined, List.isEmpty_map, List.all_map, List.any_map, Function.comp_def, same]

theorem ofJson_toJson (c : Clause) : ofJson c.toJson = .ok c := by
  have apart : (List.map Prod.fst [(("role" : Text), Json.text c.role.word),
      ("conditions", .list (c.conditions.map Condition.toJson)), ("match_mode", .text c.mode.word),
      ("action", c.action.toJson)]).Nodup := by
    simp only [List.map_cons, List.map_nil]
    decide +kernel
  have role := Json.Fields.firstOf_of_mem apart (.head _) ["type"] .null
  have conditions := Json.Fields.firstOf_of_mem apart (.tail _ (.head _)) [] (.list [])
  have mode := Json.Fields.firstOf_of_mem apart (.tail _ (.tail _ (.head _))) ["matchType"]
    (.text "ALL")
  have action := Json.Fields.firstOf_of_mem apart (.tail _ (.tail _ (.tail _ (.head _)))) []
    (.text "Cooperate")
  have each : (c.conditions.map Condition.toJson).mapM Condition.ofJson = .ok c.conditions := by
    have h := mapM_ok (g := fun d => d) fun d (_ : d ∈ c.conditions) => d.ofJson_toJson
    rwa [List.map_id'] at h
  have whole : ofParts (.text c.role.word) (.list (c.conditions.map Condition.toJson))
      (.text c.mode.word) c.action.toJson = .ok c := by
    rw [ofParts, Role.ofJson_word, ok_bind, Json.items, ok_bind, each, ok_bind,
      MatchMode.ofJson_word, ok_bind, Action.ofJson_toJson, ok_bind]
    rfl
  rw [toJson, ofJson, Json.fields, ok_bind, parts, role, conditions, mode, action]
  dsimp only
  rw [whole]
  rfl

theorem rejoined_toJson (c : Clause) : c.toJson.rejoined = c.rejoined.toJson := by
  simp only [toJson, rejoined, Json.rejoined, Json.rejoinedFields, Json.rejoinedItems_eq,
    Text.rejoined_ofString, Action.rejoined_toJson, List.map_map, Function.comp_def,
    Condition.rejoined_toJson]

theorem isRegular_toJson (room : Nat) (c : Clause) : c.toJson.IsRegular (room + 3) := by
  refine .object ?_ ?_
  · intro f h
    simp only [List.mem_cons, List.not_mem_nil, or_false] at h
    rcases h with rfl | rfl | rfl | rfl
    · exact .text _ _
    · refine .list fun item h => ?_
      obtain ⟨d, -, rfl⟩ := List.mem_map.1 h
      exact d.isRegular_toJson room
    · exact .text _ _
    · exact .text _ _
  · simp only [List.map_cons, List.map_nil, Text.rejoined_ofString]
    decide +kernel

end Clause

/-! ## Chains -/

namespace Chain

theorem openingsFrom_rejoined (position : Nat) (cs : List Clause) :
    openingsFrom position (cs.map Clause.rejoined) = openingsFrom position cs := by
  induction cs generalizing position with
  | nil => rfl
  | cons c rest ih =>
    rw [List.map_cons, openingsFrom, openingsFrom, ih]
    rfl

theorem smallNsFrom_rejoined (position : Nat) (cs : List Clause) :
    smallNsFrom position (cs.map Clause.rejoined) = smallNsFrom position cs := by
  induction cs generalizing position with
  | nil => rfl
  | cons c rest ih =>
    have same : (c.rejoined.conditions.filter fun d => d.n < 1).map
        (fun d => TreeViolation.smallN position d.n) =
        (c.conditions.filter fun d => d.n < 1).map fun d => .smallN position d.n := by
      simp only [Clause.rejoined, List.filter_map, List.map_map, Function.comp_def,
        Condition.n_rejoined]
      rfl
    rw [List.map_cons, smallNsFrom, smallNsFrom, ih, same]

theorem firstFallback?_rejoined (cs : List Clause) :
    firstFallback? (cs.map Clause.rejoined) = firstFallback? cs :=
  List.findIdx?_map

theorem violations_rejoined (cs : List Clause) :
    violations (cs.map Clause.rejoined) = violations cs := by
  cases cs with
  | nil => rfl
  | cons first rest =>
    have whole : first.rejoined :: rest.map Clause.rejoined =
        (first :: rest).map Clause.rejoined := rfl
    have fallbacks : ((first :: rest).map Clause.rejoined).countP (·.role = .fallback) =
        (first :: rest).countP (·.role = .fallback) := List.countP_map
    rw [List.map_cons, violations, violations, openingsFrom_rejoined, whole, fallbacks,
      firstFallback?_rejoined, smallNsFrom_rejoined, List.length_map]
    rfl

theorem action_rejoined (cs : List Clause) (own opponent : History) :
    action (cs.map Clause.rejoined) own opponent = action cs own opponent := by
  have same : (fun c : Clause => c.rejoined.isMet own opponent) = fun c => c.isMet own opponent :=
    funext fun c => c.isMet_rejoined own opponent
  rw [action, action, List.find?_map, Function.comp_def, same]
  cases cs.find? fun c => c.isMet own opponent <;> rfl

/-- The first fallback, if there is one, is the last clause. -/
def FallsBackLast (cs : List Clause) : Prop :=
  ∀ i, firstFallback? cs = some i → i + 1 = cs.length

theorem firstFallback?_of_fallback {c : Clause} (rest : List Clause)
    (fallback : c.role = .fallback) : firstFallback? (c :: rest) = some 0 := by
  rw [firstFallback?, List.findIdx?_cons, if_pos (decide_eq_true fallback)]

theorem firstFallback?_of_other {c : Clause} (rest : List Clause) (other : c.role ≠ .fallback) :
    firstFallback? (c :: rest) = (firstFallback? rest).map (· + 1) := by
  rw [firstFallback?, List.findIdx?_cons, if_neg (by rw [decide_eq_true_eq]; exact other)]
  rfl

theorem fallsBackLast_of_fallback {c : Clause} {rest : List Clause}
    (fallback : c.role = .fallback) : FallsBackLast (c :: rest) ↔ rest = [] := by
  rw [FallsBackLast, firstFallback?_of_fallback rest fallback]
  constructor
  · intro last
    have alone := last 0 rfl
    rw [List.length_cons] at alone
    exact List.length_eq_zero_iff.1 (by omega)
  · rintro rfl i first
    cases first
    rfl

theorem fallsBackLast_of_other {c : Clause} {rest : List Clause} (other : c.role ≠ .fallback) :
    FallsBackLast (c :: rest) ↔ FallsBackLast rest := by
  rw [FallsBackLast, FallsBackLast, firstFallback?_of_other rest other, List.length_cons]
  constructor
  · intro last i first
    have whole := last (i + 1) (by rw [first]; rfl)
    omega
  · intro last i first
    obtain ⟨j, later, rfl⟩ := Option.map_eq_some_iff.1 first
    rw [last j later]

/-- Where only the last clause may be a fallback, every clause is reached. -/
theorem reachable_eq {cs : List Clause} (last : FallsBackLast cs) : reachable cs = cs := by
  induction cs with
  | nil => rfl
  | cons c rest ih =>
    by_cases fallback : c.role = .fallback
    · rw [reachable, if_pos fallback, (fallsBackLast_of_fallback fallback).1 last]
    · rw [reachable, if_neg fallback, ih ((fallsBackLast_of_other fallback).1 last)]

theorem reachable_of_sound {cs : List Clause} (sound : violations cs = []) :
    reachable cs = cs := by
  cases cs with
  | nil => rfl
  | cons first rest =>
    refine reachable_eq fun i h => ?_
    rw [violations, h] at sound
    simp only [List.append_eq_nil_iff] at sound
    by_contra early
    rw [if_neg early] at sound
    cases sound.1.2

end Chain

/-! ## Trees -/

namespace LogicTree

/-- The tree with the names of its unknown kinds of condition rejoined. -/
def rejoined (t : LogicTree) : LogicTree where
  clauses := t.clauses.map Clause.rejoined
  sound := by rw [Chain.violations_rejoined]; exact t.sound

theorem action_rejoined (t : LogicTree) (own opponent : History) :
    Chain.action t.rejoined.clauses own opponent = Chain.action t.clauses own opponent :=
  Chain.action_rejoined t.clauses own opponent

theorem ofClauses_clauses (t : LogicTree) : ofClauses t.clauses = .ok t := by
  unfold ofClauses
  split
  · rfl
  · next broken => exact absurd t.sound broken

theorem chain_toJson (t : LogicTree) : Chain.ofJson t.toJson = .ok t.clauses := by
  have apart : (List.map Prod.fst [(("clauses" : Text),
      Json.list (t.clauses.map Clause.toJson))]).Nodup := List.nodup_singleton _
  have listed := Json.Fields.firstOf_of_mem apart (.head _) [] .null
  have each := mapM_ok (g := fun c => c) fun c (_ : c ∈ t.clauses) => c.ofJson_toJson
  rw [List.map_id'] at each
  rw [toJson, Chain.ofJson, listed]
  exact each

theorem reachable_clauses (t : LogicTree) : Chain.reachable t.clauses = t.clauses :=
  Chain.reachable_of_sound t.sound

theorem ofJson_toJson (strict : Bool) (t : LogicTree) : ofJson strict t.toJson = .ok t := by
  rw [ofJson, chain_toJson, ok_bind, reachable_clauses, ite_self, ofClauses_clauses]

/-- Nothing is dropped from what a tree has written. -/
theorem notices_toJson (strict : Bool) (t : LogicTree) : notices strict t.toJson = [] := by
  rw [notices, chain_toJson]
  dsimp only
  rw [reachable_clauses, Nat.sub_self, if_pos (.inr rfl)]

theorem rejoined_toJson (t : LogicTree) : t.toJson.rejoined = t.rejoined.toJson := by
  simp only [toJson, rejoined, Json.rejoined, Json.rejoinedFields, Json.rejoinedItems_eq,
    Text.rejoined_ofString, List.map_map, Function.comp_def, Clause.rejoined_toJson]

theorem isRegular_toJson (room : Nat) (t : LogicTree) : t.toJson.IsRegular (room + 5) := by
  refine .object ?_ ?_
  · intro f h
    rw [List.mem_singleton] at h
    cases h
    refine .list fun item h => ?_
    obtain ⟨c, -, rfl⟩ := List.mem_map.1 h
    exact c.isRegular_toJson room
  · exact List.nodup_singleton _

/-- No name of a kind of condition has two halves of a pair side by side. -/
def IsJoined (t : LogicTree) : Prop :=
  ∀ c ∈ t.clauses, ∀ d ∈ c.conditions, d.kind.name.IsJoined

theorem rejoined_of_isJoined {t : LogicTree} (h : t.IsJoined) : t.rejoined = t := by
  have condition {d : Condition} (hd : d.kind.name.IsJoined) : d.rejoined = d := by
    rw [Condition.rejoined, Kind.rejoined, Text.rejoined_of_isJoined hd, Kind.ofName_name]
  have clause {c : Clause} (hc : ∀ d ∈ c.conditions, d.kind.name.IsJoined) : c.rejoined = c := by
    rw [Clause.rejoined, List.map_congr_left fun d hd => condition (hc d hd), List.map_id']
  obtain ⟨clauses, sound⟩ := t
  have whole : clauses.map Clause.rejoined = clauses := by
    rw [List.map_congr_left fun c hc => clause (h c hc), List.map_id']
  simp only [rejoined, whole]

end LogicTree
end IteratedDilemma
