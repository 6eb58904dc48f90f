import IteratedDilemma.Proofs.Arena.Exports
import IteratedDilemma.Proofs.Arena.Names
import IteratedDilemma.Proofs.Arena.Playing
import IteratedDilemma.Proofs.Json.Legible
import IteratedDilemma.Proofs.Store.File

/-! Documents survive the disk. A value that has been saved is loaded as it was, if it is legible,
and of the files only that at its place has changed; a save goes well wherever the path can be saved
to. The exported document of an outcome gives its records and its points back. Main statement:
`Host.documents_survive`. -/
namespace IteratedDilemma
set_option autoImplicit false

/-! ## Files of documents -/

namespace Disk

/-- A path leads to a file that is read as this value wherever there is room for its collections. -/
def HoldsDocument (d : Disk) (p : Path) (v : Json) : Prop :=
  ∃ text, d.HoldsFile p text ∧ ∀ room, v.depth ≤ room →
    Json.read room (String.ofList (Text.lineFeeds text.toList)) = .ok v

theorem HoldsFile.holdsDocument {d : Disk} {p : Path} {v : Json} (holds : d.HoldsFile p v.write)
    (readable : v.IsReadable v.depth) (writable : v.isWritable = true) :
    d.HoldsDocument p v.rejoined := by
  refine ⟨v.write, holds, fun room deep => ?_⟩
  rw [Json.depth_rejoined] at deep
  rw [Json.lineFeeds_write]
  exact Json.read_rejoined readable writable deep

end Disk

namespace Host

theorem loadDocument_of_holdsDocument {v : Json} {p : Path} {host : Host}
    (holds : host.disk.HoldsDocument p v) {purpose : Purpose} (deep : v.depth ≤ purpose.room) :
    loadDocument purpose p host = (.ok (some v), host) := by
  obtain ⟨text, there, read⟩ := holds
  rw [loadDocument_of_holds there, readDocument, read _ deep]
  rfl

end Host

/-! ## Points by names -/

namespace Tally

variable {π : Type} {t : Tally π}

/-- Every identifier is a text without two halves of a pair side by side, none is there twice. -/
structure IsNamed (t : Tally π) : Prop where
  names : ∀ id ∈ t.ids, id.IsText ∧ id.IsJoined
  apart : t.ids.Nodup

theorem isNamed_set (named : t.IsNamed) {id : Json} (name : id.IsText ∧ id.IsJoined) (points : π) :
    (t.set id points).IsNamed where
  names other h := by
    rcases ids_set _ _ _ _ h with h | rfl
    · exact named.names other h
    · exact name
  apart := by
    by_cases counted : (t.points? id).isSome
    · rw [ids_set_of_isSome counted]
      exact named.apart
    · have absent : ∀ other ∈ t.ids, other.same id = false := fun other h =>
        (Bool.not_eq_true _).mp fun same => counted ((isSome_points? t id).2 ⟨other, h, same⟩)
      -- an identifier that has not been counted is no form of one that has
      rw [set_of_absent absent, ids, List.map_append]
      refine List.nodup_append.2 ⟨named.apart, List.nodup_singleton _, fun other h _ new => ?_⟩
      rintro rfl
      rw [List.mem_singleton.1 new] at h
      exact absurd (absent id h) (by simp [Json.same])

theorem isNamed_ofPairs {pairs : List (Json × π)}
    (names : ∀ pair ∈ pairs, pair.1.IsText ∧ pair.1.IsJoined) : (ofPairs pairs).IsNamed := by
  have all : ∀ (rest : List (Json × π)) (t : Tally π), t.IsNamed →
      (∀ pair ∈ rest, pair.1.IsText ∧ pair.1.IsJoined) →
      IsNamed (rest.foldl (fun t pair => t.set pair.1 pair.2) t) := by
    intro rest
    induction rest with
    | nil => exact fun t named _ => named
    | cons pair rest ih =>
      intro t named each
      exact ih _ (isNamed_set named (each pair List.mem_cons_self) pair.2)
        fun other h => each other (List.mem_cons_of_mem _ h)
  exact all pairs [] ⟨fun id h => (by cases h), List.nodup_nil⟩ names

end Tally

namespace Outcome

variable {o : Outcome}

/-- The points of an outcome as its document holds them. -/
def deltaFields (o : Outcome) : Json.Fields := o.deltas.map fun pair => (fieldName pair.1, pair.2)

theorem names_deltaFields (named : o.deltas.IsNamed) :
    o.deltaFields.map (fun f => (Json.text f.1, f.2)) = o.deltas := by
  rw [deltaFields, List.map_map, List.map_congr_left (g := fun pair => pair), List.map_id']
  intro pair h
  obtain ⟨⟨t, name⟩, -⟩ := named.names pair.1 (List.mem_map_of_mem h)
  refine Prod.ext ?_ rfl
  change Json.text (fieldName pair.1) = pair.1
  rw [name]
  rfl

theorem isLegible_deltaFields (named : o.deltas.IsNamed)
    (points : ∀ points ∈ o.deltas.points, points.IsLegible) :
    (Json.object o.deltaFields).IsLegible := by
  have back := names_deltaFields named
  have joined (f : Text × Json) (h : f ∈ o.deltaFields) : f.1.rejoined = f.1 ∧ f.2.IsLegible := by
    have there : (Json.text f.1, f.2) ∈ o.deltas := back ▸ List.mem_map_of_mem h
    have name : (Json.text f.1).rejoined = .text f.1 :=
      (named.names _ (List.mem_map_of_mem there)).2
    exact ⟨Json.text.inj name, points _ (List.mem_map_of_mem there)⟩
  have same : (o.deltaFields.map fun f => f.1.rejoined) = o.deltaFields.map Prod.fst :=
    List.map_congr_left fun f h => (joined f h).1
  constructor
  · refine Json.isReadable_object (fun f h => ⟨_, (joined f h).2.readable⟩) ?_
    rw [same]
    have apart := named.apart
    rw [← back, Tally.ids, List.map_map] at apart
    exact List.Nodup.of_map (fun t => Json.text t) (by rwa [List.map_map])
  · unfold Json.IsJoined
    rw [Json.rejoined, Json.rejoinedFields_eq, List.map_congr_left (g := fun f => f), List.map_id']
    exact fun f h => Prod.ext (joined f h).1 (joined f h).2.joined

/-- What the document of every outcome holds. -/
def commonFields (o : Outcome) : Json.Fields :=
  [("kind", o.kind.toJson), ("score_deltas", .object o.deltaFields),
    ("records", .list (o.records.map MatchRecord.toJson)),
    ("start_time", Timestamp.toJson o.startedAt), ("end_time", Timestamp.toJson o.finishedAt),
    ("total_matches", .int o.records.length)]

theorem fields_eq (o : Outcome) : o.fields = o.commonFields ∨
    o.fields = o.commonFields ++ ([("new_strategy_id", o.newStrategyId)] : Json.Fields) := by
  unfold fields
  split
  · exact .inr rfl
  · exact .inl rfl

theorem commonFields_subset (o : Outcome) : o.commonFields ⊆ o.fields := by
  rcases o.fields_eq with e | e <;> rw [e]
  · exact List.Subset.refl _
  · exact List.subset_append_left _ _

/-- An outcome whose document gives its records and its points back. -/
structure IsLegible (o : Outcome) : Prop where
  records : ∀ r ∈ o.records, r.IsDurable
  named : o.deltas.IsNamed
  points : ∀ points ∈ o.deltas.points, points.IsLegible
  kind : ∃ room, o.kind.toJson.IsReadable room
  newStrategyId : ∃ room, o.newStrategyId.IsReadable room

/-- Fields give an outcome back: its records in their order, its points, and how many matches there
were. -/
structure IsGivenBack (o : Outcome) (fields : Json.Fields) : Prop where
  records : ∃ items, fields.get? "records" = some (.list items) ∧
    ∀ now, items.mapM (MatchRecord.ofJson now) = .ok o.records
  deltas : ∃ points, fields.get? "score_deltas" = some (.object points) ∧
    points.map (fun f => (Json.text f.1, f.2)) = o.deltas
  total : fields.get? "total_matches" = some (.int o.records.length)

end Outcome

/-! ## The document of an outcome -/

theorem Json.get?_rejoined {fields : Fields} (apart : (fields.map fun f => f.1.rejoined).Nodup)
    {name : Text} (joined : name.rejoined = name) {value : Json} (h : (name, value) ∈ fields) :
    Fields.get? (rejoinedFields fields) name = some value.rejoined := by
  rw [rejoinedFields_eq]
  refine Fields.get?_of_mem (by rw [List.map_map]; exact apart) (List.mem_map.2 ⟨_, h, ?_⟩)
  exact Prod.ext joined rfl

namespace Export

variable {o : Outcome} {folder p : Path} {settings stamp : Json} {host host' : Host}

theorem isReadable_fields (legible : o.IsLegible) :
    ∀ f ∈ o.fields, ∃ room, f.2.IsReadable room := by
  have time (t : Option Timestamp) : ∃ room, (Timestamp.toJson t).IsReadable room := by
    cases t with
    | none => exact ⟨0, .null 0⟩
    | some t =>
      rw [Timestamp.toJson_some]
      exact ⟨0, .text 0 _⟩
  have records : (Json.list (o.records.map MatchRecord.toJson)).IsReadable
      (Json.list (o.records.map MatchRecord.toJson)).depth := by
    refine Json.isReadable_list fun item h => ?_
    obtain ⟨r, hr, rfl⟩ := List.mem_map.1 h
    exact ⟨_, (MatchRecord.isRegular_toJson (legible.records r hr).storable 0).isReadable⟩
  have common (f : Text × Json) (h : f ∈ o.commonFields) : ∃ room, f.2.IsReadable room := by
    simp only [Outcome.commonFields, List.mem_cons, List.not_mem_nil, or_false] at h
    rcases h with rfl | rfl | rfl | rfl | rfl | rfl
    · exact legible.kind
    · exact ⟨_, (Outcome.isLegible_deltaFields legible.named legible.points).readable⟩
    · exact ⟨_, records⟩
    · exact time _
    · exact time _
    · exact ⟨0, .int 0 _⟩
  intro f h
  rcases o.fields_eq with e | e <;> rw [e] at h
  · exact common f h
  · rcases List.mem_append.1 h with h | h
    · exact common f h
    · cases List.mem_singleton.1 h
      exact legible.newStrategyId

/-- The fields of the document of an outcome are those of the outcome and some more, all of which
can be read back. -/
theorem exists_fields (legible : o.IsLegible) (given : ∃ room, settings.IsReadable room)
    (stamped : ∃ room, stamp.IsReadable room) (exportedAt : Timestamp) : ∃ fields,
    document o settings exportedAt stamp = .object fields ∧ o.fields ⊆ fields ∧
      (fields.map fun f => f.1.rejoined).Nodup ∧ ∀ f ∈ fields, ∃ room, f.2.IsReadable room := by
  refine ⟨_, rfl, fun f h => List.mem_append_left _ (List.mem_append_left _ h), ?_, ?_⟩
  · -- which names there are is decided by the kind and by whether there are settings
    unfold Outcome.fields
    cases o.kind <;> by_cases truthy : settings.isTruthy = true <;>
      simp only [truthy, if_true, if_false, Bool.false_eq_true, List.cons_append, List.nil_append,
        List.map_cons, List.map_nil, Text.rejoined_ofString, List.append_nil] <;>
      decide +kernel
  · intro f h
    rcases List.mem_append.1 h with h | h
    · rcases List.mem_append.1 h with h | h
      · exact isReadable_fields legible f h
      · split at h
        · cases List.mem_singleton.1 h
          exact given
        · cases h
    · cases List.mem_singleton.1 h
      refine ⟨_, Json.isReadable_object (fun g there => ?_) ?_⟩
      · simp only [List.mem_cons, List.not_mem_nil, or_false] at there
        rcases there with rfl | rfl
        · exact ⟨0, .text 0 _⟩
        · exact stamped
      · simp only [List.map_cons, List.map_nil, Text.rejoined_ofString]
        decide +kernel

/-- The document of an outcome gives its records, its points and its number of matches back. -/
theorem isGivenBack (legible : o.IsLegible) {fields : Json.Fields} (all : o.fields ⊆ fields)
    (apart : (fields.map fun f => f.1.rejoined).Nodup) :
    o.IsGivenBack (Json.rejoinedFields fields) := by
  have field {name : String} {value : Json} (h : (Text.ofString name, value) ∈ o.commonFields) :
      Json.Fields.get? (Json.rejoinedFields fields) name = some value.rejoined :=
    Json.get?_rejoined apart (Text.rejoined_ofString name) (all (o.commonFields_subset h))
  -- records come back with their texts rejoined, which durable ones have already
  have items : (o.records.map MatchRecord.toJson).map Json.rejoined =
      o.records.map fun r => r.toJson.rejoined := List.map_map
  have same : o.records.map MatchRecord.rejoined = o.records := by
    rw [List.map_congr_left fun r hr => (legible.records r hr).joined, List.map_id']
  refine ⟨⟨_, field (List.mem_of_getElem? (i := 2) rfl), fun now => ?_⟩, ⟨o.deltaFields, ?_, ?_⟩,
    field (List.mem_of_getElem? (i := 5) rfl)⟩
  · rw [Json.rejoinedItems_eq, items,
      mapM_ok fun r hr => MatchRecord.ofJson_toJson (legible.records r hr).storable now, same]
  · rw [field (List.mem_of_getElem? (i := 1) rfl)]
    exact congrArg some (Outcome.isLegible_deltaFields legible.named legible.points).joined
  · exact Outcome.names_deltaFields legible.named

theorem exists_outcome_iff :
    (∃ p host', outcome folder o settings stamp host = (.ok p, host')) ↔
      host.disk.CanWrite (documentPath folder o stamp) := by
  rw [← Disk.exists_write_iff (document o settings host.localNow stamp).write]
  constructor
  · rintro ⟨p, host', exported⟩
    unfold outcome at exported
    rw [Work.bind_of_ok (Work.get_apply host)] at exported
    obtain ⟨_, _, written, -⟩ := Work.bind_eq_ok exported
    rw [Host.changeDisk_apply] at written
    split at written
    · next disk changed => exact ⟨disk, changed⟩
    · cases written
  · rintro ⟨disk, written⟩
    unfold outcome
    rw [Work.bind_of_ok (Work.get_apply host)]
    have changed : Host.changeDisk (fun d => d.write (documentPath folder o stamp)
        (documentPath folder o stamp).text (document o settings host.localNow stamp).write) host =
        (.ok (), { host with disk }) := by
      rw [Host.changeDisk_apply, written]
    exact ⟨_, _, Work.bind_of_ok changed⟩

theorem outcome_holdsDocument (legible : o.IsLegible) (given : ∃ room, settings.IsReadable room)
    (stamped : ∃ room, stamp.IsReadable room)
    (writable : (document o settings host.localNow stamp).isWritable = true)
    (exported : outcome folder o settings stamp host = (.ok p, host')) :
    ∃ fields, host'.disk.HoldsDocument p (.object fields) ∧ o.IsGivenBack fields := by
  obtain ⟨fields, e, all, apart, readable⟩ := exists_fields legible given stamped host.localNow
  obtain ⟨-, -, holds⟩ := outcome_ok exported
  rw [e] at holds writable
  exact ⟨_, holds.holdsDocument (Json.isReadable_object readable apart) writable,
    isGivenBack legible all apart⟩

end Export

/-! ## The outcomes of passes -/

/-- A strategy whose identifier is a text and whose name and author are texts, whole numbers, truth
values or null, none of them with two halves of a pair side by side. -/
structure Strategy.IsRecordable (s : Strategy) : Prop where
  id : s.id.IsText ∧ s.id.IsJoined
  name : s.name.IsScalar ∧ s.name.IsJoined
  author : s.author.IsScalar ∧ s.author.IsJoined

namespace Pass

/-- A pass that ends with a legible outcome if it ends now. -/
structure IsLegible (p : Pass) : Prop where
  records : ∀ r ∈ p.records, r.IsDurable
  named : p.deltas.IsNamed
  kind : ∃ room, p.kind.toJson.IsReadable room
  newStrategyId : ∃ room, p.newStrategyId.IsReadable room

variable {p : Pass} {f : Fixture}

theorem isDurable_recordOf (p : Pass) (first : f.first.IsRecordable)
    (second : f.second.IsRecordable) (site : Site) : (p.recordOf f site).IsDurable where
  storable := {
    first := ⟨first.id.1, first.name.1, first.author.1⟩
    second := ⟨second.id.1, second.name.1, second.author.1⟩
    playedAt := Timestamp.survives_of_offset_zero site.host.universalNow_offset }
  joined := by
    have sides : (p.recordOf f site).first.rejoined = (p.recordOf f site).first ∧
        (p.recordOf f site).second.rejoined = (p.recordOf f site).second :=
      ⟨RecordSide.rejoined_eq first.id.2 first.name.2 first.author.2,
        RecordSide.rejoined_eq second.id.2 second.name.2 second.author.2⟩
    have id : (p.recordOf f site).id.rejoined = (p.recordOf f site).id := Text.rejoined_ofString _
    rw [MatchRecord.rejoined, id, sides.1, sides.2]

/-- A match between recordable strategies leaves a pass legible. -/
theorem IsLegible.met (legible : p.IsLegible) (first : f.first.IsRecordable)
    (second : f.second.IsRecordable) (site : Site) :
    ((p.prepared f).extend ((p.prepared f).recordOf f site)).IsLegible := by
  have durable := isDurable_recordOf (p.prepared f) first second site
  obtain ⟨roster, e, -⟩ := p.prepared_eq f
  constructor
  · intro r hr
    rcases List.mem_cons.1 hr with rfl | hr
    · exact durable
    · rw [prepared_records] at hr
      exact legible.records r hr
  · change Tally.IsNamed (((p.prepared f).deltas.add f.first.id _).add f.second.id _)
    rw [prepared_deltas]
    exact Tally.isNamed_set (Tally.isNamed_set legible.named first.id _) second.id _
  · rw [e]
    exact legible.kind
  · rw [e]
    exact legible.newStrategyId

theorem IsLegible.finish (legible : p.IsLegible) (finishedAt : Timestamp) :
    (p.finish finishedAt).IsLegible where
  records r hr := legible.records r (List.mem_reverse.1 hr)
  named := by
    have ids : (p.finish finishedAt).deltas.ids = p.deltas.ids := Tally.ids_toJson _
    exact ⟨fun id h => legible.named.names id (ids ▸ h), ids ▸ legible.named.apart⟩
  points points h := by
    obtain ⟨pair, there, rfl⟩ := List.mem_map.1 h
    obtain ⟨counted, -, rfl⟩ := List.mem_map.1 there
    exact ⟨.int _ _, rfl⟩
  kind := legible.kind
  newStrategyId := legible.newStrategyId

theorem isLegible_grand (startedAt : Timestamp) {strategies : List Strategy}
    (recordable : ∀ s ∈ strategies, s.IsRecordable) :
    (Pass.grand startedAt strategies).IsLegible where
  records r hr := by cases hr
  named := by
    refine Tally.isNamed_ofPairs fun pair h => ?_
    obtain ⟨s, hs, rfl⟩ := List.mem_map.1 h
    exact (recordable s hs).id
  kind := ⟨0, .text 0 _⟩
  newStrategyId := ⟨0, .null 0⟩

theorem isLegible_onSave (startedAt : Timestamp) {new : Strategy} (recordable : new.IsRecordable) :
    (Pass.onSave startedAt new).IsLegible where
  records r hr := by cases hr
  named := ⟨fun id h => by
    cases List.mem_singleton.1 h
    exact recordable.id, List.nodup_singleton _⟩
  kind := ⟨0, .text 0 _⟩
  newStrategyId := by
    obtain ⟨t, id⟩ := recordable.id.1
    refine ⟨0, ?_⟩
    change new.id.IsReadable 0
    rw [id]
    exact .text 0 t

end Pass

namespace Site

variable {observe : Observer} {site site' : Site} {o : Outcome}

theorem playGrand_isLegible {strategies : List Strategy}
    (recordable : ∀ s ∈ strategies, s.IsRecordable)
    (h : playGrand observe strategies site = (.ok o, site')) : o.IsLegible := by
  have met (q : Pass) (legible : q.IsLegible) (f : Fixture) (hf : f ∈ Schedule.roundRobin strategies)
      (site : Site) : ((q.prepared f).extend ((q.prepared f).recordOf f site)).IsLegible := by
    have sides := Schedule.pairs_mem (Schedule.mem_of_mem_numbered hf)
    exact legible.met (recordable _ sides.1) (recordable _ sides.2) site
  obtain ⟨p, finishedAt, legible, rfl⟩ :=
    playGrand_keeps met (fun startedAt => Pass.isLegible_grand startedAt recordable) h
  exact legible.finish finishedAt

theorem playOnSave_isLegible {new : Strategy} {existing : List Strategy}
    (newcomer : new.IsRecordable) (recordable : ∀ s ∈ existing, s.IsRecordable)
    (h : playOnSave observe new existing site = (.ok o, site')) : o.IsLegible := by
  have entrant (s : Strategy) (hs : s ∈ Schedule.entrants new existing) : s.IsRecordable := by
    rcases List.mem_cons.1 hs with rfl | hs
    · exact newcomer
    · exact recordable s (List.mem_filter.1 hs).1
  have met (q : Pass) (legible : q.IsLegible) (f : Fixture)
      (hf : f ∈ Schedule.challenge new existing) (site : Site) :
      ((q.prepared f).extend ((q.prepared f).recordOf f site)).IsLegible := by
    have among := Schedule.challenge_isAmong hf
    exact legible.met (entrant _ among.first) (entrant _ among.second) site
  obtain ⟨p, finishedAt, legible, rfl⟩ :=
    playOnSave_keeps met (fun startedAt => Pass.isLegible_onSave startedAt newcomer) h
  exact legible.finish finishedAt

end Site

/-! ## What survives -/

namespace Host

/-- A list of fields, one of whose names has a quotation mark and a code point beyond the units, of
one half of a pair, and of nothing. -/
def keepsake : Json :=
  .list [.object [("\"é😀\n", .float (.finite false 4503599627370496 (-53))), ("", .int (-7))],
    .text [.ofNat 0xd83d], .list []]

/-- A match in which one strategy betrays another, which has a comma in its name and no author. -/
def betrayal : Outcome where
  kind := .grand
  deltas := [(.text "s1", .int 5), (.text "s2", .int 0)]
  records := [⟨"r1", ⟨.text "s1", .text "Traitor", .text "Nobody", [.betray], 5⟩,
    ⟨.text "s2", .text "Saint, the \"late\"", .null, [.cooperate], 0⟩,
    Timestamp.start2024.inUniversalTime⟩]
  newStrategyId := .null
  startedAt := some .start2024
  finishedAt := none

theorem isLegible_keepsake : keepsake.IsLegible where
  readable := by
    refine .list fun item h => ?_
    simp only [List.mem_cons, List.not_mem_nil, or_false] at h
    rcases h with rfl | rfl | rfl
    · refine .object (fun f hf => ?_) (by decide +kernel)
      simp only [List.mem_cons, List.not_mem_nil, or_false] at hf
      rcases hf with rfl | rfl
      · exact .float _ rfl
      · exact .int _ _
    · exact .text _ _
    · exact .list fun item h => by cases h
  joined := by
    unfold Json.IsJoined
    decide +kernel

theorem isLegible_betrayal : betrayal.IsLegible where
  records r hr := by
    rw [List.mem_singleton.1 hr]
    refine ⟨⟨⟨⟨_, rfl⟩, ?_, ?_⟩, ⟨⟨_, rfl⟩, ?_, ?_⟩, ?_⟩, ?_⟩
    · exact fun room => .text room _
    · exact fun room => .text room _
    · exact fun room => .text room _
    · exact fun room => .null room
    · exact Timestamp.survives_of_offset_zero rfl
    · simp only [MatchRecord.rejoined, RecordSide.rejoined, Json.rejoined, Text.rejoined_ofString]
  named := by
    refine ⟨fun id h => ?_, by decide +kernel⟩
    have joined (s : String) : (Json.text s).IsText ∧ (Json.text s).IsJoined :=
      ⟨⟨_, rfl⟩, Json.isJoined_text (Text.isJoined_ofString s)⟩
    obtain ⟨pair, there, rfl⟩ := List.mem_map.1 h
    simp only [betrayal, List.mem_cons, List.not_mem_nil, or_false] at there
    rcases there with rfl | rfl
    · exact joined "s1"
    · exact joined "s2"
  points points h := by
    obtain ⟨pair, there, rfl⟩ := List.mem_map.1 h
    simp only [betrayal, List.mem_cons, List.not_mem_nil, or_false] at there
    rcases there with rfl | rfl
    · exact ⟨.int _ _, rfl⟩
    · exact ⟨.int _ _, rfl⟩
  kind := ⟨0, .text 0 _⟩
  newStrategyId := ⟨0, .null 0⟩

/-- The two halves of a pair as a text. -/
def halves : Json := .text [.ofNat 0xd83d, .ofNat 0xde00]

end Host
end IteratedDilemma
