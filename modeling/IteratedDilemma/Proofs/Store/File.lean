import IteratedDilemma.Proofs.Arena.Commits
import IteratedDilemma.Proofs.Store.Durable

/-! Loading the store of an arena from its file. A store that was written is loaded again with its
texts rejoined (`Store.load_written`), where nothing was written an empty one is loaded
(`Store.load_none`) and from what is no arena too (`Store.load_of_readsNoArena`), and loading leaves
nothing behind but entries in the journal (`Store.load_noted`). -/
namespace IteratedDilemma
set_option autoImplicit false

namespace Host

/-! ## Loading -/

theorem loadDocument_none {purpose : Purpose} {p : Path} {host : Host}
    (h : host.disk.at? p = .ok none) : loadDocument purpose p host = (.ok none, host) := by
  have look : inspect (fun d => d.at? p) host = (.ok none, host) := inspect_of_ok h
  unfold loadDocument
  rw [Work.bind_of_ok look]
  rfl

theorem loadDocument_of_holds {p : Path} {host : Host} {text : String}
    (holds : host.disk.HoldsFile p text) (purpose : Purpose) :
    loadDocument purpose p host = ((readDocument purpose text).map some, host) := by
  have look : inspect (fun d => d.at? p) host = (.ok (some (.file text)), host) :=
    inspect_of_ok holds.at?
  have content : inspect (fun d => d.read p p.text) host = (.ok text, host) :=
    inspect_of_ok holds.read
  unfold loadDocument
  rw [Work.bind_of_ok look]
  dsimp only
  rw [Work.bind_of_ok content, Work.bind_apply, Work.lift_apply]
  rcases readDocument purpose text with fault | data <;> rfl

/-- A host on which nothing has happened but entries in its journal. -/
def HasNoted (h h' : Host) : Prop := ∃ entries, h' = h.record entries

instance : IsPreorder Host HasNoted where
  refl _ := ⟨[], rfl⟩
  trans := by
    rintro h _ _ ⟨first, rfl⟩ ⟨second, rfl⟩
    refine ⟨first ++ second, ?_⟩
    simp only [record, List.reverse_append, List.append_assoc]

theorem HasNoted.disk {h h' : Host} (noted : HasNoted h h') : h'.disk = h.disk := by
  obtain ⟨entries, rfl⟩ := noted
  rfl

theorem HasNoted.sameNames {h h' : Host} (noted : HasNoted h h') : SameNames h h' := by
  obtain ⟨entries, rfl⟩ := noted
  exact sameNames_record h entries

theorem log_noted (level : Level) (text : Text) : Work.Within HasNoted (log level text) :=
  fun _ => ⟨[⟨level, text⟩], rfl⟩

theorem logAll_noted (entries : List Entry) : Work.Within HasNoted (logAll entries) :=
  fun _ => ⟨entries, rfl⟩

theorem inspect_noted {α : Type} (look : Disk → Except FileFault α) :
    Work.Within HasNoted (inspect look) := fun host => refl_of HasNoted host

theorem loadDocument_noted (purpose : Purpose) (p : Path) :
    Work.Within HasNoted (loadDocument purpose p) := by
  refine Work.within_bind (inspect_noted _) fun node => ?_
  cases node with
  | none => exact Work.within_pure _
  | some _ =>
    exact Work.within_bind (inspect_noted _) fun _ => Work.within_bind (Work.within_lift _)
      fun _ => Work.within_pure _

end Host

namespace Store

theorem reporting_noted {α : Type} {work : Work Host α} (h : Work.Within Host.HasNoted work)
    (families : FaultFamily → Bool) (wrap : Fault → Fault) :
    Work.Within Host.HasNoted (reporting families wrap work) := by
  intro host
  have run := h host
  unfold reporting
  rcases e : work host with ⟨fault | a, host'⟩ <;> rw [e] at run
  · exact run
  · exact run

theorem reporting_of_ok {α : Type} {work : Work Host α} {host host' : Host} {a : α}
    (h : work host = (.ok a, host')) (families : FaultFamily → Bool) (wrap : Fault → Fault) :
    reporting families wrap work host = (.ok a, host') := by
  rw [reporting, h]

theorem reporting_eq_ok {α : Type} {work : Work Host α} {host host' : Host} {a : α}
    {families : FaultFamily → Bool} {wrap : Fault → Fault}
    (h : reporting families wrap work host = (.ok a, host')) : work host = (.ok a, host') := by
  unfold reporting at h
  rcases e : work host with ⟨fault | b, host1⟩ <;> rw [e] at h
  · cases h
  · exact h

theorem strategiesOf_noted (items : List Json) :
    Work.Within Host.HasNoted (strategiesOf items) := by
  induction items with
  | nil => exact Work.within_pure _
  | cons data rest ih =>
    unfold strategiesOf
    exact Work.within_bind (Host.logAll_noted _) fun _ => Work.within_bind (Work.within_lift _)
      fun _ => Work.within_bind ih fun _ => Work.within_pure _

theorem partsOf_noted (fields : Json.Fields) : Work.Within Host.HasNoted (partsOf fields) :=
  Work.within_bind (Work.within_lift _) fun _ => Work.within_bind (strategiesOf_noted _) fun _ =>
    Work.within_bind Work.within_get fun _ => Work.within_bind (Work.within_lift _) fun _ =>
      Work.within_bind (Work.within_mapM (fun _ => Work.within_lift _) _) fun _ =>
        Work.within_pure _

theorem load_noted (purpose : Purpose) (p : Path) :
    Work.Within Host.HasNoted (load purpose p) := by
  refine Work.within_bind (reporting_noted (Host.loadDocument_noted purpose p) _ _) fun data => ?_
  unfold ofDocument
  split
  · exact Work.within_bind (Host.log_noted _ _) fun _ => Work.within_pure _
  · exact Work.within_bind (reporting_noted (partsOf_noted _) _ _) fun _ =>
      Work.within_bind (Host.log_noted _ _) fun _ => Work.within_pure _
  · exact Work.within_throw _

theorem strategiesOf_rejoined {strategies : List Strategy}
    (storable : ∀ s ∈ strategies, s.IsStorable) (host : Host) :
    ∃ host', strategiesOf (strategies.map fun s => s.toJson.rejoined) host =
      (.ok (strategies.map Strategy.rejoined), host') := by
  induction strategies generalizing host with
  | nil => exact ⟨host, rfl⟩
  | cons s rest ih =>
    have back := Strategy.ofJson_toJson (storable s List.mem_cons_self)
    obtain ⟨host', later⟩ := ih (fun t ht => storable t (List.mem_cons_of_mem _ ht))
      (host.record (Strategy.notices false s.toJson.rejoined))
    refine ⟨host', ?_⟩
    have logged : Host.logAll (Strategy.notices false s.toJson.rejoined) host =
        (.ok (), host.record (Strategy.notices false s.toJson.rejoined)) := rfl
    rw [List.map_cons, strategiesOf, Work.bind_of_ok logged, back, Work.lift_bind_ok,
      Work.bind_of_ok later]
    rfl

/-- The fields of a store with all of its texts rejoined. -/
def rejoinedFields (s : Store) : Json.Fields :=
  [("version", .int 1), ("strategies", .list (s.strategies.map fun t => t.toJson.rejoined)),
    ("match_records", .list (s.records.map fun r => r.toJson.rejoined))]

theorem rejoined_toJson (s : Store) : s.toJson.rejoined = .object s.rejoinedFields := by
  simp only [toJson, rejoinedFields, Json.rejoined, Json.rejoinedFields, Text.rejoined_ofString,
    Json.rejoinedItems_eq, List.map_map, Function.comp_def]

theorem partsOf_rejoined {s : Store} (storable : s.IsStorable) (host : Host) :
    ∃ host', partsOf s.rejoinedFields host =
      (.ok (s.strategies.map Strategy.rejoined, s.records.map MatchRecord.rejoined), host') := by
  have apart : (s.rejoinedFields.map Prod.fst).Nodup := by
    simp only [rejoinedFields, List.map_cons, List.map_nil]
    decide +kernel
  have strategies := Json.Fields.firstOf_of_mem apart (.tail _ (.head _)) [] (.list [])
  have records := Json.Fields.firstOf_of_mem apart (.tail _ (.tail _ (.head _))) [] (.list [])
  obtain ⟨host', first⟩ := strategiesOf_rejoined storable.strategies host
  have second : (s.records.map fun r => r.toJson.rejoined).mapM
      (fun data => (MatchRecord.ofJson host'.universalNow data : Except Fault MatchRecord)) =
      .ok (s.records.map MatchRecord.rejoined) :=
    mapM_ok fun r hr => MatchRecord.ofJson_toJson (storable.records r hr) _
  refine ⟨host', ?_⟩
  unfold partsOf
  rw [strategies, records, Json.items, Work.lift_bind_ok, Work.bind_of_ok first,
    Work.bind_of_ok (Work.get_apply host'), Json.items, Work.lift_bind_ok,
    Work.bind_of_ok ((Work.mapM_lift_apply _ _ host').trans (congrArg (·, host') second))]
  rfl

/-! ## Loading a store -/

theorem load_none {purpose : Purpose} {p : Path} {host : Host} (h : host.disk.at? p = .ok none) :
    ∃ host', load purpose p host = (.ok .empty, host') := by
  unfold load
  rw [Work.bind_of_ok (reporting_of_ok (Host.loadDocument_none h) _ _)]
  exact ⟨_, rfl⟩

theorem load_of_read {purpose : Purpose} {p : Path} {host : Host} {text : String} {data : Json}
    (holds : host.disk.HoldsFile p text) (read : Host.readDocument purpose text = .ok data) :
    load purpose p host = ofDocument p data host := by
  have document : Host.loadDocument purpose p host = (.ok (some data), host) := by
    rw [Host.loadDocument_of_holds holds, read]
    rfl
  unfold load
  rw [Work.bind_of_ok (reporting_of_ok document _ _), Option.getD_some]

/-- A store that was written is loaded again. -/
theorem load_written (purpose : Purpose) {p : Path} {host : Host} {s : Store}
    (holds : host.disk.HoldsFile p s.toJson.write) (storable : s.IsStorable)
    (writable : s.toJson.isWritable = true) :
    ∃ host', load purpose p host = (.ok s.rejoined, host') := by
  have readable : s.toJson.IsReadable purpose.room := by
    have h := (isRegular_toJson storable (purpose.room - 8)).isReadable
    rwa [Nat.sub_add_cancel purpose.le_room] at h
  obtain ⟨host', parts⟩ := partsOf_rejoined storable host
  rw [load_of_read holds (Host.readDocument_write readable writable), rejoined_toJson, ofDocument,
    Work.bind_of_ok (reporting_of_ok parts _ _)]
  exact ⟨_, rfl⟩

/-- A durable store that a file holds is loaded from it, and an empty one where there is no file. -/
theorem exists_load {s : Store} (durable : s.IsDurable) {p : Path} {host : Host}
    (held : host.Keeps (some p) s ∨ host.disk.at? p = .ok none ∧ s = .empty) (purpose : Purpose) :
    ∃ host', load purpose p host = (.ok s, host') ∧ host.HasNoted host' := by
  have found : ∃ host', load purpose p host = (.ok s, host') := by
    rcases held with keeps | ⟨nothing, rfl⟩
    · obtain ⟨writable, holds⟩ := keeps p rfl
      have loaded := load_written purpose holds durable.storable writable
      rwa [durable.rejoined_eq] at loaded
    · exact load_none nothing
  obtain ⟨host', loaded⟩ := found
  have noted := load_noted purpose p host
  rw [loaded] at noted
  exact ⟨host', loaded, noted⟩

/-- What is loaded comes from a file that the path leads to, or there is nothing there. -/
theorem load_ok {purpose : Purpose} {p : Path} {host host' : Host} {s : Store}
    (h : load purpose p host = (.ok s, host')) :
    (host.disk.at? p = .ok none ∧ s = .empty) ∨ ∃ text, host.disk.HoldsFile p text := by
  rcases e : host.disk.at? p with fault | _ | node
  · have run := h
    unfold load at run
    obtain ⟨data, host1, first, -⟩ := Work.bind_eq_ok run
    obtain ⟨node, host2, look, -⟩ := Work.bind_eq_ok (reporting_eq_ok first)
    rw [(Host.inspect_ok look).1] at e
    cases e
  · obtain ⟨host1, empty⟩ := @load_none purpose p host e
    rw [empty] at h
    cases h
    exact .inl ⟨rfl, rfl⟩
  · unfold load at h
    obtain ⟨data, host1, first, -⟩ := Work.bind_eq_ok h
    obtain ⟨found, host2, look, document⟩ := Work.bind_eq_ok (reporting_eq_ok first)
    obtain ⟨same, rfl⟩ := Host.inspect_ok look
    rw [e] at same
    cases same
    obtain ⟨text, host3, read, -⟩ := Work.bind_eq_ok document
    exact .inr ⟨text, Disk.holdsFile_of_read (Host.inspect_ok read).1⟩

/-! ## Loading what is no arena -/

theorem partsOf_of_none {fields : Json.Fields} (strategies : fields.get? "strategies" = none)
    (records : fields.get? "match_records" = none) (host : Host) :
    partsOf fields host = (.ok ([], []), host) := by
  unfold partsOf
  rw [Json.Fields.firstOf_single, Json.Fields.firstOf_single, strategies, records]
  rfl

end Store

/-- Neither strategies nor records are named in what is read from a text, if anything is. -/
def Host.ReadsNoArena (text : String) : Prop :=
  ∀ (purpose : Purpose) (fields : Json.Fields), readDocument purpose text = .ok (.object fields) →
    fields.get? "strategies" = none ∧ fields.get? "match_records" = none

/-- What is loaded from a file that is not the file of an arena is the empty store. -/
theorem Store.load_of_readsNoArena {purpose : Purpose} {p : Path} {host host' : Host} {s : Store}
    {text : String} (holds : host.disk.HoldsFile p text) (noArena : Host.ReadsNoArena text)
    (h : load purpose p host = (.ok s, host')) : s = .empty := by
  rcases read : Host.readDocument purpose text with fault | data
  · obtain ⟨found, host1, first, -⟩ := Work.bind_eq_ok h
    have document := reporting_eq_ok first
    rw [Host.loadDocument_of_holds holds, read] at document
    cases document
  · rw [load_of_read holds read] at h
    cases data with
    | null =>
      obtain ⟨_, _, -, h⟩ := Work.bind_eq_ok h
      cases h
      rfl
    | object fields =>
      obtain ⟨strategies, records⟩ := noArena purpose fields read
      rw [ofDocument, Work.bind_of_ok
        (reporting_of_ok (partsOf_of_none strategies records host) _ _)] at h
      obtain ⟨_, _, -, h⟩ := Work.bind_eq_ok h
      cases h
      rfl
    | bool | int | float | text | list => cases h

end IteratedDilemma
