import IteratedDilemma.Proofs.Json.RoundTrip
import IteratedDilemma.Proofs.Store.File
import IteratedDilemma.Proofs.Tree.Malformed

/-! Files that are no arenas. What opening one comes to is known from its text
(`Store.load_of_read`, `Store.partsOf_fst`). Faults of the disk, of a type or a value, and fields
that are not there, are reported as faults of the store. What gets past the reader of a strategy or
a record gets past that of the arena (`Strategy.Escapes`, `MatchRecord.Escapes`), and a document
whose collections lie too deep in each other is not reported either. Main statement: opening a file
gives the store that its document describes, or a fault of the store, unless it comes to one of
these (`Store.opening_is_reported`). -/
namespace IteratedDilemma
set_option autoImplicit false

/-! ## Faults that are reported -/

/-- A fault that is reported when it is met in the document of an arena. -/
def Fault.IsMalformed (f : Fault) : Prop := f.family = .key ∨ f.IsReported

theorem Fault.isMalformed_iff {f : Fault} : f.IsMalformed ↔
    (f.family == .key || f.family == .type || f.family.isValue) = true := by
  rw [Bool.or_eq_true, Bool.or_eq_true, beq_iff_eq, beq_iff_eq, or_assoc]
  rfl

theorem Fault.Slips.not_isMalformed {f : Fault} (h : f.Slips) : ¬f.IsMalformed := by
  rintro (key | reported)
  · rcases h with h | h <;> rw [h] at key <;> cases key
  · exact h.not_isReported reported

theorem Fault.Slips.not_storage {f : Fault} (h : f.Slips) : f.family ≠ .storage := by
  rcases h with h | h <;> rw [h] <;> decide

theorem FileFault.isFile_or_isValue (f : FileFault) :
    (f.family.isFile || f.family.isValue) = true := by
  cases f <;> rfl

namespace Json

theorem required_error {name : Text} {value : Json} {f : Fault}
    (h : value.required name = .error f) : f.IsMalformed := by
  cases value with
  | object fields =>
    rcases found : Fields.get? fields name with _ | member
    · simp only [required, found] at h
      cases h
      exact .inl rfl
    · simp only [required, found] at h
      cases h
  | _ =>
    cases h
    exact .inr (.inl rfl)

theorem object_of_required {name : Text} {value member : Json}
    (h : value.required name = .ok member) : ∃ fields, value = .object fields := by
  cases value with
  | object fields => exact ⟨fields, rfl⟩
  | _ => cases h

end Json

theorem Timestamp.ofJson_error {value : Json} {f : Fault} (h : Timestamp.ofJson value = .error f) :
    f.IsReported := by
  unfold Timestamp.ofJson at h
  split at h
  · cases h
  · rcases read : Timestamp.read value.plain with fault | t <;> rw [read] at h <;> cases h
    exact .inr rfl

/-! ## Strategies -/

namespace Strategy

/-- What gets past the reader of a strategy: that it is no object, what gets past the reader of its
tree, and, once its tree is read, that its score is infinite. -/
inductive Escapes (strict : Bool) : Json → Fault → Prop where
  | noObject {data : Json} (h : ∀ fields, data ≠ .object fields) :
    Escapes strict data (.lacks data.typeName "get")
  | tree {fields : Json.Fields} {id : Json} {fault : Fault}
    (named : (Json.object fields).required "id" = .ok id)
    (escapes : Chain.Escapes (treePart fields) fault) : Escapes strict (.object fields) fault
  | endless {fields : Json.Fields} {id : Json} {t : LogicTree} {negative : Bool}
    (named : (Json.object fields).required "id" = .ok id)
    (read : LogicTree.ofJson strict (treePart fields) = .ok t)
    (score : fields.firstOf ["score"] (.int 0) = .float (.infinite negative)) :
    Escapes strict (.object fields) .wholeOfInfinity

variable {strict : Bool} {data : Json} {fault : Fault}

theorem Escapes.slips (h : Escapes strict data fault) : fault.Slips := by
  cases h with
  | noObject => exact .inl rfl
  | tree _ escapes => exact escapes.slips
  | endless => exact .inr rfl

theorem ofJson_of_escapes (h : Escapes strict data fault) : ofJson strict data = .error fault := by
  cases h with
  | noObject h =>
    rw [ofJson, Json.fields_error h]
    rfl
  | tree named escapes =>
    rw [ofJson, Json.fields, ok_bind, named, ok_bind, LogicTree.ofJson_of_escapes escapes]
    rfl
  | endless named read score =>
    rw [ofJson, Json.fields, ok_bind, named, ok_bind, read, ok_bind, score]
    rfl

theorem ofJson_error (h : ofJson strict data = .error fault) :
    fault.IsMalformed ∨ Escapes strict data fault := by
  cases data with
  | object fields =>
    rw [ofJson, Json.fields, ok_bind] at h
    rcases bind_eq_error h with lacking | ⟨id, named, h⟩
    · exact .inl (Json.required_error lacking)
    rcases bind_eq_error h with unread | ⟨t, read, h⟩
    · rcases LogicTree.ofJson_error unread with tree | escapes
      · exact .inl (.inr (.inr (by rw [tree]; rfl)))
      · exact .inr (.tree named escapes)
    rcases bind_eq_error h with notWhole | ⟨score, -, h⟩
    · rcases Json.whole_error notWhole with reported | ⟨rfl, negative, endless⟩
      · exact .inl (.inr reported)
      · exact .inr (.endless named read endless)
    rcases bind_eq_error h with unread | ⟨createdAt, -, h⟩
    · exact .inl (.inr (Timestamp.ofJson_error unread))
    · cases h
  | _ =>
    cases h
    exact .inr (.noObject fun _ e => by cases e)

end Strategy

/-! ## Records -/

namespace MatchRecord

/-- The fields of a record can be read as far as its scores. -/
structure ReadsMoves (fields : Json.Fields) : Prop where
  named : ∀ name ∈ ["id", "strategy1_id", "strategy2_id"],
    ∃ value, (Json.object fields).required (Text.ofString name) = .ok value
  moves : ∀ name ∈ ["moves1", "moves2"], ∃ items moves,
    (fields.firstOf [Text.ofString name] (.list [])).items = .ok items ∧
      items.mapM Move.ofJson = .ok moves

/-- What gets past the reader of a record: that one of its scores is infinite, if all before it can
be read. -/
inductive Escapes : Json → Fault → Prop where
  | first {fields : Json.Fields} {negative : Bool} (read : ReadsMoves fields)
    (endless : fields.firstOf ["score1"] (.int 0) = .float (.infinite negative)) :
    Escapes (.object fields) .wholeOfInfinity
  | second {fields : Json.Fields} {n : Int} {negative : Bool} (read : ReadsMoves fields)
    (whole : (fields.firstOf ["score1"] (.int 0)).whole = .ok n)
    (endless : fields.firstOf ["score2"] (.int 0) = .float (.infinite negative)) :
    Escapes (.object fields) .wholeOfInfinity

variable {now : Timestamp} {data : Json} {fault : Fault}

theorem Escapes.slips (h : Escapes data fault) : fault.Slips := by
  cases h with
  | first => exact .inr rfl
  | second => exact .inr rfl

theorem ofJson_of_readsMoves {fields : Json.Fields} (h : ReadsMoves fields)
    (unread : (fields.firstOf ["score1"] (.int 0)).whole = .error fault ∨
      ∃ n, (fields.firstOf ["score1"] (.int 0)).whole = .ok n ∧
        (fields.firstOf ["score2"] (.int 0)).whole = .error fault) (now : Timestamp) :
    ofJson now (.object fields) = .error fault := by
  obtain ⟨id, named⟩ := h.named "id" (by decide)
  obtain ⟨id1, named1⟩ := h.named "strategy1_id" (by decide)
  obtain ⟨id2, named2⟩ := h.named "strategy2_id" (by decide)
  obtain ⟨items1, moves1, listed1, read1⟩ := h.moves "moves1" (by decide)
  obtain ⟨items2, moves2, listed2, read2⟩ := h.moves "moves2" (by decide)
  rw [ofJson, named, ok_bind, named1, ok_bind, named2, ok_bind, Json.fields, ok_bind, listed1,
    ok_bind, read1, ok_bind, listed2, ok_bind, read2, ok_bind]
  rcases unread with first | ⟨n, whole, second⟩
  · rw [first]
    rfl
  · rw [whole, ok_bind, second]
    rfl

theorem ofJson_of_escapes (h : Escapes data fault) (now : Timestamp) :
    ofJson now data = .error fault := by
  cases h with
  | first read endless => exact ofJson_of_readsMoves read (.inl (by rw [endless]; rfl)) now
  | second read whole endless =>
    exact ofJson_of_readsMoves read (.inr ⟨_, whole, by rw [endless]; rfl⟩) now

theorem ofJson_error (h : ofJson now data = .error fault) :
    fault.IsMalformed ∨ Escapes data fault := by
  rcases bind_eq_error h with lacking | ⟨id, named, h⟩
  · exact .inl (Json.required_error lacking)
  obtain ⟨fields, rfl⟩ := Json.object_of_required named
  rcases bind_eq_error h with lacking | ⟨id1, named1, h⟩
  · exact .inl (Json.required_error lacking)
  rcases bind_eq_error h with lacking | ⟨id2, named2, h⟩
  · exact .inl (Json.required_error lacking)
  rw [Json.fields, ok_bind] at h
  rcases bind_eq_error h with unlisted | ⟨items1, listed1, h⟩
  · exact .inl (.inr (Json.items_error unlisted))
  rcases bind_eq_error h with unread | ⟨moves1, read1, h⟩
  · obtain ⟨move, -, unreadable⟩ := mapM_eq_error.1 unread
    exact .inl (.inr (by rw [Json.word_error unreadable]; exact .inr rfl))
  rcases bind_eq_error h with unlisted | ⟨items2, listed2, h⟩
  · exact .inl (.inr (Json.items_error unlisted))
  rcases bind_eq_error h with unread | ⟨moves2, read2, h⟩
  · obtain ⟨move, -, unreadable⟩ := mapM_eq_error.1 unread
    exact .inl (.inr (by rw [Json.word_error unreadable]; exact .inr rfl))
  have read : ReadsMoves fields := by
    refine ⟨fun name mem => ?_, fun name mem => ?_⟩
    · simp only [List.mem_cons, List.not_mem_nil, or_false] at mem
      rcases mem with rfl | rfl | rfl
      · exact ⟨id, named⟩
      · exact ⟨id1, named1⟩
      · exact ⟨id2, named2⟩
    · simp only [List.mem_cons, List.not_mem_nil, or_false] at mem
      rcases mem with rfl | rfl
      · exact ⟨items1, moves1, listed1, read1⟩
      · exact ⟨items2, moves2, listed2, read2⟩
  rcases bind_eq_error h with notWhole | ⟨score1, whole, h⟩
  · rcases Json.whole_error notWhole with reported | ⟨rfl, negative, endless⟩
    · exact .inl (.inr reported)
    · exact .inr (.first read endless)
  rcases bind_eq_error h with notWhole | ⟨score2, -, h⟩
  · rcases Json.whole_error notWhole with reported | ⟨rfl, negative, endless⟩
    · exact .inl (.inr reported)
    · exact .inr (.second read whole endless)
  rcases bind_eq_error h with unread | ⟨playedAt, -, h⟩
  · exact .inl (.inr (Timestamp.ofJson_error unread))
  · cases h

end MatchRecord

namespace Store

/-! ## Documents -/

/-- The strategies and records of the fields of a document, in which records without a time were
played `now`. -/
def partsIn (now : Timestamp) (fields : Json.Fields) :
    Except Fault (List Strategy × List MatchRecord) := do
  let strategies ← (← (fields.firstOf ["strategies"] (.list [])).items).mapM (Strategy.ofJson false)
  let records ←
    (← (fields.firstOf ["match_records"] (.list [])).items).mapM (MatchRecord.ofJson now)
  return (strategies, records)

/-- What gets past the reader of the fields of an arena: what gets past that of the first of its
strategies that cannot be read or, once they are read, of the first such record. -/
inductive Escapes (now : Timestamp) (fields : Json.Fields) : Fault → Prop where
  | strategy {items : List Json} {item : Json} {fault : Fault}
    (listed : (fields.firstOf ["strategies"] (.list [])).items = .ok items)
    (first : ComesTo (Strategy.ofJson false) items item)
    (escapes : Strategy.Escapes false item fault) : Escapes now fields fault
  | record {items : List Json} {strategies : List Strategy} {others : List Json} {item : Json}
    {fault : Fault} (listed : (fields.firstOf ["strategies"] (.list [])).items = .ok items)
    (read : items.mapM (Strategy.ofJson false) = .ok strategies)
    (logged : (fields.firstOf ["match_records"] (.list [])).items = .ok others)
    (first : ComesTo (MatchRecord.ofJson now) others item)
    (escapes : MatchRecord.Escapes item fault) : Escapes now fields fault

variable {now : Timestamp} {fields : Json.Fields} {fault : Fault}

theorem Escapes.slips (h : Escapes now fields fault) : fault.Slips := by
  cases h with
  | strategy _ _ escapes => exact escapes.slips
  | record _ _ _ _ escapes => exact escapes.slips

theorem partsIn_of_escapes (h : Escapes now fields fault) : partsIn now fields = .error fault := by
  cases h with
  | strategy listed first escapes =>
    have unread := mapM_eq_error.2 ⟨_, first, Strategy.ofJson_of_escapes escapes⟩
    rw [partsIn, listed, ok_bind, unread]
    rfl
  | record listed read logged first escapes =>
    have unread := mapM_eq_error.2 ⟨_, first, MatchRecord.ofJson_of_escapes escapes now⟩
    rw [partsIn, listed, ok_bind, read, ok_bind, logged, ok_bind, unread]
    rfl

theorem partsIn_error (h : partsIn now fields = .error fault) :
    fault.IsMalformed ∨ Escapes now fields fault := by
  rcases bind_eq_error h with unlisted | ⟨items, listed, h⟩
  · exact .inl (.inr (Json.items_error unlisted))
  rcases bind_eq_error h with unread | ⟨strategies, read, h⟩
  · obtain ⟨item, first, unreadable⟩ := mapM_eq_error.1 unread
    exact (Strategy.ofJson_error unreadable).imp_right (.strategy listed first)
  rcases bind_eq_error h with unlisted | ⟨others, logged, h⟩
  · exact .inl (.inr (Json.items_error unlisted))
  rcases bind_eq_error h with unread | ⟨records, -, h⟩
  · obtain ⟨item, first, unreadable⟩ := mapM_eq_error.1 unread
    exact (MatchRecord.ofJson_error unreadable).imp_right (.record listed read logged first)
  · cases h

/-! ## Reading them -/

theorem strategiesOf_fst (items : List Json) (host : Host) :
    (strategiesOf items host).1 = items.mapM (Strategy.ofJson false) := by
  induction items generalizing host with
  | nil => rfl
  | cons data rest ih =>
    have logged : Host.logAll (Strategy.notices false data) host =
        (.ok (), host.record (Strategy.notices false data)) := rfl
    have later := ih (host.record (Strategy.notices false data))
    rw [strategiesOf, Work.bind_of_ok logged, List.mapM_cons]
    rcases Strategy.ofJson false data with fault | strategy
    · rfl
    · rw [Work.lift_bind_ok, ok_bind, ← later, Work.bind_apply]
      rcases strategiesOf rest _ with ⟨fault | others, host'⟩ <;> rfl

theorem partsOf_fst (fields : Json.Fields) (host : Host) :
    (partsOf fields host).1 = partsIn host.universalNow fields := by
  unfold partsOf partsIn
  rcases (fields.firstOf ["strategies"] (.list [])).items with fault | items
  · rfl
  rw [Work.lift_bind_ok, ok_bind, ← strategiesOf_fst items host]
  have noted := strategiesOf_noted items host
  rw [Work.bind_apply]
  revert noted
  rcases strategiesOf items host with ⟨fault | strategies, host'⟩
  · exact fun _ => rfl
  rintro ⟨entries, rfl⟩
  -- nothing but entries in the journal has been left behind, so the clock shows the same time
  dsimp only
  rw [ok_bind, Work.bind_of_ok (Work.get_apply _)]
  rcases (fields.firstOf ["match_records"] (.list [])).items with fault | others
  · rfl
  rw [Work.lift_bind_ok, ok_bind, Work.bind_apply, Work.mapM_lift_apply]
  have now : (host.record entries).universalNow = host.universalNow := rfl
  rw [now]
  rcases others.mapM (MatchRecord.ofJson host.universalNow) with fault | records <;> rfl

theorem reporting_fst {α : Type} (families : FaultFamily → Bool) (wrap : Fault → Fault)
    (work : Work Host α) (host : Host) : (reporting families wrap work host).1 =
      (work host).1.mapError fun fault => if families fault.family then wrap fault else fault := by
  unfold reporting
  rcases work host with ⟨_ | _, _⟩ <;> rfl

/-! ## Opening a file -/

/-- The store that opening a file comes to: an empty one if there is no file, or null in it, else
that of the strategies and records in its document. -/
inductive Opens (purpose : Purpose) (p : Path) (host : Host) : Store → Prop where
  | nothing (h : host.disk.at? p = .ok none) : Opens purpose p host .empty
  | null {text : String} (holds : host.disk.HoldsFile p text)
    (read : Host.readDocument purpose text = .ok .null) : Opens purpose p host .empty
  | object {text : String} {fields : Json.Fields} {strategies : List Strategy}
    {records : List MatchRecord} (holds : host.disk.HoldsFile p text)
    (read : Host.readDocument purpose text = .ok (.object fields))
    (parts : partsIn host.universalNow fields = .ok (strategies, records)) :
    Opens purpose p host (.ofLists strategies records)

/-- What gets past the opening of a file: that collections lie too deep in each other in its
document, and what gets past the reader of its fields. -/
inductive GetsPast (purpose : Purpose) (p : Path) (host : Host) : Fault → Prop where
  | tooDeep {text : String} {collection : Json.Collection} (holds : host.disk.HoldsFile p text)
    (read : Host.readDocument purpose text = .error (.unreadableJson (.tooDeep collection))) :
    GetsPast purpose p host (.unreadableJson (.tooDeep collection))
  | fields {text : String} {fields : Json.Fields} {fault : Fault}
    (holds : host.disk.HoldsFile p text)
    (read : Host.readDocument purpose text = .ok (.object fields))
    (escapes : Escapes host.universalNow fields fault) : GetsPast purpose p host fault

variable {purpose : Purpose} {p : Path} {host : Host}

theorem GetsPast.family (h : GetsPast purpose p host fault) :
    fault.family = .recursion ∨ fault.Slips := by
  cases h with
  | tooDeep => exact .inl rfl
  | fields _ _ escapes => exact .inr escapes.slips

theorem not_storage_of_family (h : fault.family = .recursion ∨ fault.Slips) :
    fault.family ≠ .storage := by
  rcases h with deep | slips
  · rw [deep]
    decide
  · exact slips.not_storage

theorem GetsPast.not_storage (h : GetsPast purpose p host fault) : fault.family ≠ .storage :=
  not_storage_of_family h.family

theorem load_object {text : String} (holds : host.disk.HoldsFile p text)
    (read : Host.readDocument purpose text = .ok (.object fields)) :
    (load purpose p host).1 = match partsIn host.universalNow fields with
      | .ok (strategies, records) => .ok (.ofLists strategies records)
      | .error fault => .error (if fault.family == .key || fault.family == .type ||
          fault.family.isValue then .malformedArena p.text fault else fault) := by
  have parts := reporting_fst (fun f => f == .key || f == .type || f.isValue)
    (.malformedArena p.text) (partsOf fields) host
  rw [partsOf_fst] at parts
  rw [load_of_read holds read, ofDocument, Work.bind_apply]
  revert parts
  rcases reporting _ _ (partsOf fields) host with ⟨result, host'⟩
  rintro (rfl : result = _)
  rcases partsIn host.universalNow fields with fault | ⟨strategies, records⟩ <;> rfl

theorem load_other {text : String} {data : Json} (holds : host.disk.HoldsFile p text)
    (read : Host.readDocument purpose text = .ok data) (notNull : data ≠ .null)
    (notObject : ∀ fields, data ≠ .object fields) :
    (load purpose p host).1 = .error (.notAnArena p.text data.typeName) := by
  rw [load_of_read holds read]
  cases data with
  | null => exact absurd rfl notNull
  | object fields => exact absurd rfl (notObject fields)
  | _ => rfl

theorem load_of_error (h : Host.loadDocument purpose p host = (.error fault, host)) :
    (load purpose p host).1 = .error (if fault.family.isFile || fault.family.isValue then
      .unreadableArena p.text fault else fault) := by
  unfold load reporting
  rw [Work.bind_apply, h]

theorem load_refused {refused : FileFault}
    (h : Host.loadDocument purpose p host = (.error (.file refused), host)) :
    (load purpose p host).1 = .error (.unreadableArena p.text (.file refused)) :=
  (load_of_error h).trans (congrArg Except.error (if_pos refused.isFile_or_isValue))

theorem load_unread {text : String} (holds : host.disk.HoldsFile p text)
    (read : Host.readDocument purpose text = .error fault) :
    (load purpose p host).1 = .error (if fault.family.isFile || fault.family.isValue then
      .unreadableArena p.text fault else fault) := by
  refine load_of_error ?_
  rw [Host.loadDocument_of_holds holds, read]
  rfl

end Store

/-- At a path there is nothing, or the disk refuses, or there is a file. -/
theorem Host.loadDocument_cases (purpose : Purpose) (p : Path) (host : Host) :
    host.disk.at? p = .ok none ∨
      (∃ refused, loadDocument purpose p host = (.error (.file refused), host)) ∨
      ∃ text, host.disk.HoldsFile p text := by
  rcases found : host.disk.at? p with refused | _ | node
  · exact .inr (.inl ⟨refused, Work.bind_of_error (inspect_of_error found)⟩)
  · exact .inl rfl
  · rcases content : host.disk.read p p.text with refused | text
    · have look : inspect (fun d => d.at? p) host = (.ok (some node), host) := inspect_of_ok found
      have unread : inspect (fun d => d.read p p.text) host = (.error (.file refused), host) :=
        inspect_of_error content
      refine .inr (.inl ⟨refused, ?_⟩)
      unfold loadDocument
      rw [Work.bind_of_ok look]
      exact Work.bind_of_error unread
    · exact .inr (.inr ⟨text, Disk.holdsFile_of_read content⟩)

theorem Host.readDocument_error {purpose : Purpose} {text : String} {fault : Fault}
    (h : readDocument purpose text = .error fault) : ∃ error, fault = .unreadableJson error := by
  unfold readDocument at h
  rcases read : Json.read purpose.room (String.ofList (Text.lineFeeds text.toList)) with
    error | data
  · rw [read] at h
    cases h
    exact ⟨error, rfl⟩
  · rw [read] at h
    cases h

namespace Store

variable {purpose : Purpose} {p : Path} {host : Host} {fault : Fault}

theorem load_of_getsPast (h : GetsPast purpose p host fault) :
    (load purpose p host).1 = .error fault := by
  cases h with
  | tooDeep holds read => exact load_unread holds read
  | fields holds read escapes =>
    rw [load_object holds read, partsIn_of_escapes escapes]
    have unreported := escapes.slips.not_isMalformed
    dsimp only
    rw [if_neg (fun reported => unreported (Fault.isMalformed_iff.2 reported))]

/-- All that opening a file can come to. -/
theorem load_cases (purpose : Purpose) (p : Path) (host : Host) :
    (∃ s, (load purpose p host).1 = .ok s ∧ Opens purpose p host s) ∨
      ∃ fault, (load purpose p host).1 = .error fault ∧
        (fault.family = .storage ∨ GetsPast purpose p host fault) := by
  rcases Host.loadDocument_cases purpose p host with nothing | ⟨refused, h⟩ | ⟨text, holds⟩
  · obtain ⟨host', loaded⟩ := @load_none purpose p host nothing
    exact .inl ⟨.empty, by rw [loaded], .nothing nothing⟩
  · exact .inr ⟨_, load_refused h, .inl rfl⟩
  rcases read : Host.readDocument purpose text with fault | data
  · obtain ⟨error, rfl⟩ := Host.readDocument_error read
    refine .inr ⟨_, load_unread holds read, ?_⟩
    cases error with
    | tooDeep collection => exact .inr (.tooDeep holds read)
    | misplaced _ _ _ _ => exact .inl rfl
    | longNumeral _ => exact .inl rfl
  cases data with
  | null =>
    refine .inl ⟨.empty, ?_, .null holds read⟩
    rw [load_of_read holds read]
    rfl
  | object fields =>
    have loaded := load_object holds read
    rcases parts : partsIn host.universalNow fields with fault | ⟨strategies, records⟩
    · rw [parts] at loaded
      refine .inr ⟨_, loaded, ?_⟩
      split
      · exact .inl rfl
      · next unreported =>
        exact .inr (.fields holds read ((partsIn_error parts).resolve_left fun malformed =>
          unreported (Fault.isMalformed_iff.1 malformed)))
    · rw [parts] at loaded
      exact .inl ⟨_, loaded, .object holds read parts⟩
  | _ =>
    exact .inr ⟨_, load_other holds read nofun nofun, .inl rfl⟩

/-- Opening a file, for whatever purpose, gives the store that its document describes or a fault of
the store, unless it comes to what gets past the opening. Then that is raised: collections lie too
deep in each other, a value is asked for what it has not, or infinity for a whole number. -/
theorem opening_is_reported (purpose : Purpose) (p : Path) (host : Host) :
    (((∃ s, (load purpose p host).1 = .ok s ∧ Opens purpose p host s) ∨
      ∃ fault, (load purpose p host).1 = .error fault ∧ fault.family = .storage) ↔
        ∀ fault, ¬GetsPast purpose p host fault) ∧
    ∀ fault, GetsPast purpose p host fault ↔ (load purpose p host).1 = .error fault ∧
      (fault.family = .recursion ∨ fault.Slips) := by
  refine ⟨⟨fun met fault past => ?_, fun clean => ?_⟩, fun fault => ⟨fun past => ?_, ?_⟩⟩
  · have raised := load_of_getsPast past
    rcases met with ⟨s, opened, -⟩ | ⟨reported, h, storage⟩
    · rw [raised] at opened
      cases opened
    · rw [raised] at h
      cases h
      exact past.not_storage storage
  · exact (load_cases purpose p host).imp_right fun ⟨fault, loaded, cases⟩ =>
      ⟨fault, loaded, cases.resolve_right (clean fault)⟩
  · exact ⟨load_of_getsPast past, past.family⟩
  · rintro ⟨h, other⟩
    rcases load_cases purpose p host with ⟨s, loaded, -⟩ | ⟨fault', loaded, cases⟩
    · rw [loaded] at h
      cases h
    · rw [loaded] at h
      cases h
      exact cases.resolve_left (not_storage_of_family other)

end Store

/-! ## Files that are not reported -/

namespace Json.Grammar

/-- More lists begin in each other than there is room for. -/
theorem value_brackets (room fuel : Nat) (enough : 2 * room < fuel) :
    value fuel room (List.replicate (room + 1) '[') = .error (.tooDeep .array) := by
  -- a bracket takes one of the room, and two of the fuel with the list that it opens
  induction room generalizing fuel with
  | zero =>
    obtain ⟨fuel, rfl⟩ : ∃ k, fuel = k + 1 := ⟨fuel - 1, by omega⟩
    rfl
  | succ room ih =>
    obtain ⟨fuel, rfl⟩ : ∃ k, fuel = k + 2 := ⟨fuel - 2, by omega⟩
    have inner := ih fuel (by omega)
    rw [List.replicate_succ] at inner
    rw [List.replicate_succ, value, if_neg (Nat.succ_ne_zero room), List.replicate_succ,
      skipSpace_start rfl]
    change (items (fuel + 1) room ('[' :: List.replicate room '[')).map _ = _
    rw [items, inner]
    rfl

end Json.Grammar

/-- Brackets that open one more list than a document may have in each other. -/
def Purpose.brackets (purpose : Purpose) : String :=
  String.ofList (List.replicate (purpose.room + 1) '[')

theorem Host.readDocument_brackets (purpose : Purpose) :
    readDocument purpose purpose.brackets = .error (.unreadableJson (.tooDeep .array)) := by
  have lines : Text.lineFeeds (List.replicate (purpose.room + 1) '[') =
      List.replicate (purpose.room + 1) '[' := by
    refine Text.lineFeeds_eq_self fun mem => ?_
    cases (List.mem_replicate.1 mem).2
  have value := Json.Grammar.value_brackets purpose.room
    (2 * (List.replicate (purpose.room + 1) '[').length + 2)
    (by rw [List.length_replicate]; omega)
  have document : Json.Grammar.document purpose.room (List.replicate (purpose.room + 1) '[') =
      .error (.tooDeep .array) := by
    rw [List.replicate_succ] at value ⊢
    rw [Json.Grammar.document]
    · rw [Json.skipSpace_start rfl, value]
    · exact fun rest start => by cases start
  rw [readDocument, Purpose.brackets, String.toList_ofList, lines, Json.read, String.toList_ofList,
    document]
  rfl

namespace Store

/-- A host that has just started, with a file of this text. -/
def hostWith (text : String) : Host :=
  let host := Host.start .start2024
  { host with
    disk := (host.disk.write (.ofText "arena.json") "arena.json" text).toOption.getD host.disk }

theorem hostWith_holdsFile (text : String) :
    (hostWith text).disk.HoldsFile (.ofText "arena.json") text := ⟨rfl, rfl⟩

theorem readDocument_of_toOption {purpose : Purpose} {text : String} (data : Json)
    (h : (Host.readDocument purpose text).toOption = some data) :
    Host.readDocument purpose text = .ok data := by
  rcases e : Host.readDocument purpose text with fault | data' <;> rw [e] at h <;> cases h
  rfl

/-- A number for a strategy, infinity for a score, and brackets. -/
theorem opening_gets_past :
    (load .arena (.ofText "arena.json") (hostWith "\x7b\"strategies\": [5]\x7d")).1 =
        .error (.lacks "int" "get") ∧
      (load .arena (.ofText "arena.json") (hostWith
        ("\x7b\"strategies\": [\x7b\"id\": \"a\", " ++
        "\"clauses\": [\x7b\"role\": \"IF\"\x7d], \"score\": 1e400\x7d]\x7d"))).1 =
        .error .wholeOfInfinity ∧
      (load .arena (.ofText "arena.json") (hostWith Purpose.arena.brackets)).1 =
        .error (.unreadableJson (.tooDeep .array)) ∧
      (Fault.lacks "int" "get").family = .attribute ∧ Fault.wholeOfInfinity.family = .overflow ∧
      (Fault.unreadableJson (.tooDeep .array)).family = .recursion := by
  refine ⟨load_of_getsPast (.fields (hostWith_holdsFile _) (readDocument_of_toOption
      (.object [("strategies", .list [.int 5])]) (by decide +kernel)) ?_),
    load_of_getsPast (.fields (hostWith_holdsFile _) (readDocument_of_toOption
      (.object [("strategies", .list [.object [("id", .text "a"),
        ("clauses", .list [.object [("role", .text "IF")]]),
        ("score", .float (.infinite false))]])]) (by decide +kernel)) ?_),
    load_of_getsPast (.tooDeep (hostWith_holdsFile _) (Host.readDocument_brackets _)),
    rfl, rfl, rfl⟩
  · exact .strategy rfl ⟨[], [], [], rfl, rfl⟩ (.noObject nofun)
  · obtain ⟨t, read⟩ : ∃ t, LogicTree.ofJson false (.list [.object [("role", .text "IF")]]) =
      .ok t := ⟨_, rfl⟩
    exact .strategy rfl ⟨[], [], [], rfl, rfl⟩ (.endless rfl read rfl)

end Store
end IteratedDilemma
