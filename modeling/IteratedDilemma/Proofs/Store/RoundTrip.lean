import IteratedDilemma.Proofs.Time.RoundTrip
import IteratedDilemma.Proofs.Tournament.Points
import IteratedDilemma.Proofs.Tree.RoundTrip

/-! Stores that are written and read again. Strategies and records come back with their texts
rejoined (`Strategy.ofJson_toJson`, `MatchRecord.ofJson_toJson`), in the order in which they were
(`Store.strategies_rejoined`), if texts stand where texts are meant to be and whole numbers where
numbers are. -/
namespace IteratedDilemma
set_option autoImplicit false

namespace Json

def IsText (v : Json) : Prop := ∃ t, v = text t

/-- Null, a truth value, a whole number or a text. -/
def IsScalar (v : Json) : Prop := ∀ room, v.IsRegular room

theorem IsText.isScalar {v : Json} (h : v.IsText) : v.IsScalar := by
  obtain ⟨t, rfl⟩ := h
  exact fun room => .text room t

theorem IsText.rejoined {v : Json} (h : v.IsText) : v.rejoined.IsText := by
  obtain ⟨t, rfl⟩ := h
  exact ⟨t.rejoined, rfl⟩

theorem IsScalar.rejoined {v : Json} (h : v.IsScalar) : v.rejoined.IsScalar := by
  cases h 0 with
  | null => exact fun room => .null room
  | bool _ b => exact fun room => .bool room b
  | int _ n => exact fun room => .int room n
  | text _ t => exact fun room => .text room t.rejoined

end Json

namespace Timestamp

theorem toJson_some (t : Timestamp) : toJson (some t) = .text (Text.ofString t.isoText) := by
  rw [toJson, Option.map_some, Json.ofOption]

theorem rejoined_toJson (t : Option Timestamp) : (toJson t).rejoined = toJson t := by
  cases t with
  | none => rfl
  | some t => rw [toJson_some, Json.rejoined, Text.rejoined_ofString]

theorem ofJson_toJson {t : Option Timestamp} (survives : ∀ u ∈ t, u.Survives) :
    ofJson (toJson t) = .ok t := by
  cases t with
  | none => rfl
  | some t =>
    rw [toJson_some, ofJson, Json.plain, read_isoText (survives t rfl)]
    · rfl
    · intro h
      cases h

end Timestamp

/-! ## Strategies -/

namespace Strategy

/-- A strategy that a document can hold as it is. -/
structure IsStorable (s : Strategy) : Prop where
  id : s.id.IsText
  name : s.name.IsScalar
  author : s.author.IsScalar
  authorId : s.authorId.IsScalar
  score : ∃ n, s.score = .int n
  createdAt : ∀ t ∈ s.createdAt, t.Survives

/-- The strategy with all of its texts rejoined. -/
def rejoined (s : Strategy) : Strategy where
  id := s.id.rejoined
  name := s.name.rejoined
  tree := s.tree.rejoined
  author := s.author.rejoined
  authorId := s.authorId.rejoined
  score := s.score
  createdAt := s.createdAt

theorem IsStorable.rejoined {s : Strategy} (h : s.IsStorable) : s.rejoined.IsStorable where
  id := h.id.rejoined
  name := h.name.rejoined
  author := h.author.rejoined
  authorId := h.authorId.rejoined
  score := h.score
  createdAt := h.createdAt

theorem ofJson_toJson {s : Strategy} (storable : s.IsStorable) :
    ofJson false s.toJson.rejoined = .ok s.rejoined := by
  obtain ⟨t, id⟩ := storable.id
  obtain ⟨n, score⟩ := storable.score
  have fields : s.toJson.rejoined = .object [("id", .text t.rejoined), ("name", s.name.rejoined),
      ("author_display_name", s.author.rejoined), ("author_id", s.authorId.rejoined),
      ("logic_tree", s.tree.rejoined.toJson), ("score", .int n),
      ("created_at", Timestamp.toJson s.createdAt)] := by
    simp only [toJson, Json.rejoined, Json.rejoinedFields, Text.rejoined_ofString, id, score,
      Timestamp.rejoined_toJson, LogicTree.rejoined_toJson]
  have apart : (List.map Prod.fst [(("id" : Text), Json.text t.rejoined), ("name", s.name.rejoined),
      ("author_display_name", s.author.rejoined), ("author_id", s.authorId.rejoined),
      ("logic_tree", s.tree.rejoined.toJson), ("score", .int n),
      ("created_at", Timestamp.toJson s.createdAt)]).Nodup := by
    simp only [List.map_cons, List.map_nil]
    decide +kernel
  have required := Json.required_of_mem apart (List.mem_of_getElem? (i := 0) rfl)
  have name := Json.Fields.firstOf_of_mem apart (List.mem_of_getElem? (i := 1) rfl) [] (.text "")
  have author := Json.Fields.firstOf_of_mem apart (List.mem_of_getElem? (i := 2) rfl)
    ["authorDisplayName"] (.text "")
  have authorId := Json.Fields.firstOf_of_mem apart (List.mem_of_getElem? (i := 3) rfl)
    ["authorId"] .null
  have tree := Json.Fields.firstOf_of_mem apart (List.mem_of_getElem? (i := 4) rfl)
    ["clauses"] (.list [])
  have whole := Json.Fields.firstOf_of_mem apart (List.mem_of_getElem? (i := 5) rfl) [] (.int 0)
  have createdAt := Json.Fields.firstOf_of_mem apart (List.mem_of_getElem? (i := 6) rfl)
    ["createdAt"] .null
  rw [fields, ofJson, Json.fields, ok_bind, required, ok_bind, treePart, tree,
    LogicTree.ofJson_toJson, ok_bind, whole, Json.whole, ok_bind, createdAt,
    Timestamp.ofJson_toJson storable.createdAt, ok_bind, name, author, authorId]
  rw [rejoined, id, score]
  rfl

theorem isRegular_toJson {s : Strategy} (storable : s.IsStorable) (room : Nat) :
    s.toJson.IsRegular (room + 6) := by
  obtain ⟨n, score⟩ := storable.score
  refine .object ?_ ?_
  · intro f h
    simp only [List.mem_cons, List.not_mem_nil, or_false] at h
    rcases h with rfl | rfl | rfl | rfl | rfl | rfl | rfl
    · exact storable.id.isScalar _
    · exact storable.name _
    · exact storable.author _
    · exact storable.authorId _
    · exact s.tree.isRegular_toJson room
    · dsimp only
      rw [score]
      exact .int _ n
    · dsimp only
      cases s.createdAt with
      | none => exact .null _
      | some t => rw [Timestamp.toJson_some]; exact .text _ _
  · simp only [List.map_cons, List.map_nil, Text.rejoined_ofString]
    decide +kernel

end Strategy

/-! ## Records -/

structure RecordSide.IsStorable (side : RecordSide) : Prop where
  id : side.id.IsText
  name : side.name.IsScalar
  author : side.author.IsScalar

def RecordSide.rejoined (side : RecordSide) : RecordSide :=
  { side with id := side.id.rejoined, name := side.name.rejoined, author := side.author.rejoined }

theorem RecordSide.rejoined_eq {side : RecordSide} (id : side.id.IsJoined)
    (name : side.name.IsJoined) (author : side.author.IsJoined) : side.rejoined = side := by
  rw [rejoined, id, name, author]

namespace MatchRecord

/-- A record that a document can hold as it is. -/
structure IsStorable (r : MatchRecord) : Prop where
  first : r.first.IsStorable
  second : r.second.IsStorable
  playedAt : r.playedAt.Survives

/-- The record with all of its texts rejoined. -/
def rejoined (r : MatchRecord) : MatchRecord where
  id := r.id.rejoined
  first := r.first.rejoined
  second := r.second.rejoined
  playedAt := r.playedAt

theorem IsStorable.rejoined {r : MatchRecord} (h : r.IsStorable) : r.rejoined.IsStorable where
  first := ⟨h.first.id.rejoined, h.first.name.rejoined, h.first.author.rejoined⟩
  second := ⟨h.second.id.rejoined, h.second.name.rejoined, h.second.author.rejoined⟩
  playedAt := h.playedAt

/-- The fields of a record with all of its texts rejoined. -/
def rejoinedFields (r : MatchRecord) : Json.Fields :=
  [("id", .text r.id.rejoined),
    ("strategy1_id", r.first.id.rejoined), ("strategy1_name", r.first.name.rejoined),
    ("strategy1_author", r.first.author.rejoined),
    ("strategy2_id", r.second.id.rejoined), ("strategy2_name", r.second.name.rejoined),
    ("strategy2_author", r.second.author.rejoined),
    ("moves1", .list (r.first.moves.map Move.toJson)),
    ("moves2", .list (r.second.moves.map Move.toJson)),
    ("score1", .int r.first.score), ("score2", .int r.second.score),
    ("played_at", .text r.playedAt.isoText)]

theorem rejoined_toJson (r : MatchRecord) : r.toJson.rejoined = .object r.rejoinedFields := by
  simp only [toJson, rejoinedFields, Json.rejoined, Json.rejoinedFields, Text.rejoined_ofString,
    Json.rejoinedItems_eq, List.map_map, Function.comp_def, Move.rejoined_toJson]

theorem nodup_rejoinedFields (r : MatchRecord) : (r.rejoinedFields.map Prod.fst).Nodup := by
  simp only [rejoinedFields, List.map_cons, List.map_nil]
  decide +kernel

theorem readMoves (moves : List Move) : (moves.map Move.toJson).mapM Move.ofJson = .ok moves := by
  have h := @mapM_ok _ _ _ Move.toJson Move.ofJson (fun m => m) moves fun m _ => m.ofJson_toJson
  rwa [List.map_id'] at h

theorem ofJson_toJson {r : MatchRecord} (storable : r.IsStorable) (now : Timestamp) :
    ofJson now r.toJson.rejoined = .ok r.rejoined := by
  obtain ⟨t1, id1⟩ := storable.first.id
  obtain ⟨t2, id2⟩ := storable.second.id
  have apart := r.nodup_rejoinedFields
  have id := Json.required_of_mem apart (List.mem_of_getElem? (i := 0) rfl)
  have strategy1 := Json.required_of_mem apart (List.mem_of_getElem? (i := 1) rfl)
  have name1 := Json.Fields.firstOf_of_mem apart (List.mem_of_getElem? (i := 2) rfl) [] (.text "")
  have author1 := Json.Fields.firstOf_of_mem apart (List.mem_of_getElem? (i := 3) rfl) []
    (.text "")
  have strategy2 := Json.required_of_mem apart (List.mem_of_getElem? (i := 4) rfl)
  have name2 := Json.Fields.firstOf_of_mem apart (List.mem_of_getElem? (i := 5) rfl) [] (.text "")
  have author2 := Json.Fields.firstOf_of_mem apart (List.mem_of_getElem? (i := 6) rfl) []
    (.text "")
  have moves1 := Json.Fields.firstOf_of_mem apart (List.mem_of_getElem? (i := 7) rfl) []
    (.list [])
  have moves2 := Json.Fields.firstOf_of_mem apart (List.mem_of_getElem? (i := 8) rfl) []
    (.list [])
  have score1 := Json.Fields.firstOf_of_mem apart (List.mem_of_getElem? (i := 9) rfl) [] (.int 0)
  have score2 := Json.Fields.firstOf_of_mem apart (List.mem_of_getElem? (i := 10) rfl) [] (.int 0)
  have playedAt := Json.Fields.firstOf_of_mem apart (List.mem_of_getElem? (i := 11) rfl) [] .null
  have time : Timestamp.ofJson (.text (Text.ofString r.playedAt.isoText)) =
      .ok (some r.playedAt) := by
    rw [← Timestamp.toJson_some]
    refine Timestamp.ofJson_toJson fun u hu => ?_
    cases hu
    exact storable.playedAt
  rw [rejoined_toJson, ofJson, id, ok_bind, strategy1, ok_bind, strategy2, ok_bind, Json.fields,
    ok_bind, moves1, Json.items, ok_bind, readMoves, ok_bind, moves2, Json.items, ok_bind,
    readMoves, ok_bind, score1, Json.whole, ok_bind, score2, Json.whole, ok_bind, playedAt, time,
    ok_bind]
  dsimp only
  rw [name1, author1, name2, author2, rejoined, RecordSide.rejoined, RecordSide.rejoined, id1, id2]
  rfl

theorem isRegular_toJson {r : MatchRecord} (storable : r.IsStorable) (room : Nat) :
    r.toJson.IsRegular (room + 2) := by
  have moves (side : RecordSide) :
      (Json.list (side.moves.map Move.toJson)).IsRegular (room + 1) := by
    refine .list fun item h => ?_
    obtain ⟨m, -, rfl⟩ := List.mem_map.1 h
    exact .text _ _
  refine .object ?_ ?_
  · intro f h
    simp only [List.mem_cons, List.not_mem_nil, or_false] at h
    rcases h with rfl | rfl | rfl | rfl | rfl | rfl | rfl | rfl | rfl | rfl | rfl | rfl
    · exact .text _ _
    · exact storable.first.id.isScalar _
    · exact storable.first.name _
    · exact storable.first.author _
    · exact storable.second.id.isScalar _
    · exact storable.second.name _
    · exact storable.second.author _
    · exact moves r.first
    · exact moves r.second
    · exact .int _ _
    · exact .int _ _
    · exact .text _ _
  · simp only [List.map_cons, List.map_nil, Text.rejoined_ofString]
    decide +kernel

end MatchRecord

/-! ## Stores -/

namespace Store

/-- A store that a document can hold as it is. -/
structure IsStorable (s : Store) : Prop where
  strategies : ∀ t ∈ s.strategies, t.IsStorable
  records : ∀ r ∈ s.records, r.IsStorable

/-- The strategies and records that are read for those that are written. -/
def rejoined (s : Store) : Store :=
  ofLists (s.strategies.map Strategy.rejoined) (s.records.map MatchRecord.rejoined)

theorem foldl_place {strategies others : List Strategy}
    (apart : ((others ++ strategies).map Strategy.key).Nodup) :
    strategies.foldl (fun placed s => place s placed) others = others ++ strategies := by
  induction strategies generalizing others with
  | nil => rw [List.foldl_nil, List.append_nil]
  | cons t rest ih =>
    have absent : ∀ s ∈ others, s.key ≠ t.key := by
      intro s hs e
      rw [List.map_append, List.map_cons] at apart
      exact (List.nodup_append.1 apart).2.2 _ (List.mem_map_of_mem hs) _ List.mem_cons_self e
    have shifted : others ++ [t] ++ rest = others ++ t :: rest := by
      rw [List.append_assoc, List.singleton_append]
    rw [List.foldl_cons, place_of_absent absent, ih (by rw [shifted]; exact apart), shifted]

/-- Strategies that are apart stay in their order. -/
theorem strategies_ofLists {strategies : List Strategy}
    (apart : (strategies.map Strategy.key).Nodup) (records : List MatchRecord) :
    (ofLists strategies records).strategies = strategies :=
  @foldl_place strategies [] apart

theorem strategies_rejoined {s : Store} (ids : ∀ t ∈ s.strategies, t.id.rejoined = t.id) :
    s.rejoined.strategies = s.strategies.map Strategy.rejoined := by
  refine strategies_ofLists ?_ _
  have keys : (s.strategies.map Strategy.rejoined).map Strategy.key =
      s.strategies.map Strategy.key := by
    rw [List.map_map]
    exact List.map_congr_left fun t ht => congrArg Json.key (ids t ht)
  rw [keys]
  exact s.distinct

theorem isRegular_toJson {s : Store} (storable : s.IsStorable) (room : Nat) :
    s.toJson.IsRegular (room + 8) := by
  refine .object ?_ ?_
  · intro f h
    simp only [List.mem_cons, List.not_mem_nil, or_false] at h
    rcases h with rfl | rfl | rfl
    · exact .int _ _
    · refine .list fun item h => ?_
      obtain ⟨t, ht, rfl⟩ := List.mem_map.1 h
      exact Strategy.isRegular_toJson (storable.strategies t ht) room
    · refine .list fun item h => ?_
      obtain ⟨r, hr, rfl⟩ := List.mem_map.1 h
      exact MatchRecord.isRegular_toJson (storable.records r hr) (room + 4)
  · simp only [List.map_cons, List.map_nil, Text.rejoined_ofString]
    decide +kernel

end Store
end IteratedDilemma
