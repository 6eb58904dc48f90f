import IteratedDilemma.Proofs.Arena.Exports
import IteratedDilemma.Proofs.Json.Extents
import IteratedDilemma.Proofs.Store.File

/-! Exports are no arenas. Wherever the files of an export go, even in the place of the arena's own
file, no strategies and no records are read from them: the document of an outcome names neither
(`Export.readsNoArena_document`), and a table is no document at all (`Export.readsNoArena_table`).
Main statement: `Site.exportOutcome_leavesNoArena`. -/
namespace IteratedDilemma
set_option autoImplicit false

/-! ## Documents of outcomes -/

namespace Export

/-- The names that fields of the document of an outcome can have. -/
def documentNames : List Text :=
  ["kind", "score_deltas", "records", "start_time", "end_time", "total_matches", "new_strategy_id",
    "config", "metadata"]

theorem names_fields (o : Outcome) : o.fields.map Prod.fst ⊆ documentNames := by
  unfold Outcome.fields
  cases o.kind with
  | onSave => exact List.take_subset 7 documentNames
  | grand | other => exact List.take_subset 6 documentNames

theorem document_names (o : Outcome) (settings : Json) (exportedAt : Timestamp) (stamp : Json) :
    ∃ fields : Json.Fields, document o settings exportedAt stamp = .object fields ∧
      ∀ f ∈ fields, f.1 ∈ documentNames := by
  refine ⟨_, rfl, fun f h => ?_⟩
  rcases List.mem_append.1 h with h | h
  · rcases List.mem_append.1 h with h | h
    · exact names_fields o (List.mem_map_of_mem h)
    · split at h
      · cases List.mem_singleton.1 h
        change Text.ofString "config" ∈ documentNames
        decide +kernel
      · cases h
  · cases List.mem_singleton.1 h
    change Text.ofString "metadata" ∈ documentNames
    decide +kernel

/-- Whatever the outcome and the settings, the document is read without the names of an arena. -/
theorem readsNoArena_document (o : Outcome) (settings : Json) (exportedAt : Timestamp)
    (stamp : Json) : Host.ReadsNoArena (document o settings exportedAt stamp).write := by
  obtain ⟨given, e, names⟩ := document_names o settings exportedAt stamp
  intro purpose fields read
  have apart : ∀ name ∈ documentNames, name.rejoined ≠ Text.ofString "strategies" ∧
      name.rejoined ≠ Text.ofString "match_records" := by decide +kernel
  rw [e, Host.readDocument, Json.lineFeeds_write] at read
  rcases got : Json.read purpose.room (Json.object given).write with fault | v <;>
    rw [got] at read <;> cases read
  obtain ⟨_, same, known⟩ := Json.names_of_read got
  cases same
  have absent (name : Text) (other : ∀ f ∈ given, f.1.rejoined ≠ name) :
      fields.get? name = none := by
    rcases found : fields.get? name with _ | v
    · rfl
    · obtain ⟨f, hf, e⟩ := known name (List.mem_map_of_mem (Json.Fields.mem_of_get? found))
      exact absurd e.symm (other f hf)
  exact ⟨absent _ fun f hf => (apart _ (names f hf)).1, absent _ fun f hf => (apart _ (names f hf)).2⟩

end Export

/-! ## Tables -/

/-- Nothing is read from a text that starts with one of two letters with which no value starts. -/
theorem Host.readsNoArena_of_head {text : String}
    (h : ∀ c ∈ text.toList.head?, c = 'r' ∨ c = 'p') : ReadsNoArena text := by
  have unread (purpose : Purpose) (v : Json) : readDocument purpose text ≠ .ok v := by
    intro read
    rw [readDocument] at read
    rcases got : Json.read purpose.room (String.ofList (Text.lineFeeds text.toList)) with
      fault | w <;> rw [got] at read <;> cases read
    obtain ⟨fuel, rest, reading⟩ := Json.exists_value_of_read got
    obtain ⟨fuel, rfl⟩ := Json.exists_fuel reading
    rw [String.toList_ofList] at reading
    rcases e : text.toList with _ | ⟨c, cs⟩ <;> rw [e] at h reading
    · cases reading
    · rcases h c rfl with rfl | rfl
      · cases reading
      · cases reading
  exact fun purpose fields read => absurd read (unread purpose _)

theorem Text.head?_toString? {t : Text} {c : Char} (first : t.head? = some (CodePoint.ofChar c)) :
    ∀ d ∈ (t.toString?.getD "").toList.head?, d = c := by
  rcases t with _ | ⟨_, rest⟩
  · cases first
  · cases first
    intro d hd
    rcases e : chars? rest with _ | cs
    · have none : toString? (CodePoint.ofChar c :: rest) = none := by
        rw [toString?, chars?, CodePoint.char?_ofChar, e]
        rfl
      rw [none] at hd
      cases hd
    · have some : toString? (CodePoint.ofChar c :: rest) = some (String.ofList (c :: cs)) := by
        rw [toString?, chars?, CodePoint.char?_ofChar, e]
        rfl
      rw [some, Option.getD_some, String.toList_ofList] at hd
      cases hd
      rfl

namespace Export

theorem readsNoArena_lines {header : Text} {c : Char} (letter : c = 'r' ∨ c = 'p')
    (first : header.head? = some (CodePoint.ofChar c)) (plain : header.contentFault? = none)
    (lines : List Text) :
    Host.ReadsNoArena ((Text.toString? ((header :: lines).takeWhile fun line =>
      line.contentFault?.isNone).flatten).getD "") := by
  refine Host.readsNoArena_of_head fun d hd => ?_
  have here : header.contentFault?.isNone = true := by
    rw [plain]
    rfl
  rw [List.takeWhile_cons_of_pos (p := fun line : Text => line.contentFault?.isNone) here,
    List.flatten_cons] at hd
  have start : (header ++ (lines.takeWhile fun line =>
      line.contentFault?.isNone).flatten).head? = some (CodePoint.ofChar c) := by
    rw [List.head?_append, first]
    rfl
  rw [Text.head?_toString? start d hd]
  exact letter

/-- The tables start with the names of their columns, of which the first is `rank` or
`played_at`. -/
theorem readsNoArena_table {rows : List (List Text)}
    (h : (∃ strategies, rows = standingRows strategies) ∨ ∃ played, rows = recordRows played) :
    Host.ReadsNoArena ((Text.toString? ((Csv.table rows).takeWhile fun line =>
      line.contentFault?.isNone).flatten).getD "") := by
  rcases h with ⟨strategies, rfl⟩ | ⟨played, rfl⟩
  · exact readsNoArena_lines (.inl rfl) (by decide +kernel) (by decide +kernel) _
  · exact readsNoArena_lines (.inr rfl) (by decide +kernel) (by decide +kernel) _

end Export

/-! ## What an export leaves at a place -/

namespace Disk

variable {here : Place}

/-- At a place there is the same file as before, or none, or one from which no arena is read. -/
def LeavesNoArena (here : Place) (d d' : Disk) : Prop :=
  ∀ text, d'.node? here = some (.file text) →
    d.node? here = some (.file text) ∨ Host.ReadsNoArena text

instance : IsPreorder Disk (LeavesNoArena here) where
  refl _ _ there := .inl there
  trans _ _ _ ab bc text there := (bc text there).elim (ab text) .inr

theorem write_leavesNoArena {d d' : Disk} {p : Path} {shown : Text} {text : String}
    (noArena : Host.ReadsNoArena text) (h : d.write p shown text = .ok d') :
    d.LeavesNoArena here d' := by
  intro other there
  obtain ⟨-, free, rfl⟩ := write_eq h
  by_cases same : here = p.place
  · subst same
    rw [node?_put_self free] at there
    cases there
    exact .inr noArena
  · rw [node?_put_other free _ same] at there
    exact .inl there

theorem Grows.leavesNoArena {d d' : Disk} (grows : d.Grows d') : d.LeavesNoArena here d' :=
  fun _ there => .inl (grows.file.1 there)

end Disk

/-- The relation of `Disk.LeavesNoArena` between the disks of two hosts. -/
def Host.LeavesNoArena (here : Place) (h h' : Host) : Prop := h.disk.LeavesNoArena here h'.disk

instance (here : Place) : IsPreorder Host (Host.LeavesNoArena here) where
  refl h := refl_of (Disk.LeavesNoArena here) h.disk
  trans _ _ _ ab bc := trans_of (Disk.LeavesNoArena here) ab bc

theorem Host.onDisk_leavesNoArena {α : Type} {here : Place} {work : Disk.Work α}
    (leaves : ∀ d : Disk, d.LeavesNoArena here (work d).2) :
    Work.Within (LeavesNoArena here) (onDisk work) := fun host => leaves host.disk

namespace Export

variable {here : Place}

theorem openFolder_leavesNoArena (dir : Json) :
    Work.Within (Host.LeavesNoArena here) (openFolder dir) :=
  Work.within_bind (Work.within_lift _) fun folder => Work.within_bind
    (Host.onDisk_leavesNoArena fun d => (Disk.makeFolders_grows folder d).leavesNoArena)
    fun _ => Work.within_pure _

theorem all_leavesNoArena (folder : Path) (o : Outcome) (strategies : List Strategy)
    (settings stamp : Json) :
    Work.Within (Host.LeavesNoArena here) (all folder o strategies settings stamp) := by
  refine all_keeps (fun p o settings exportedAt stamp => ?_) (fun p rows h => ?_)
    (fun _ _ host => refl_of (Host.LeavesNoArena here) host) folder o strategies settings stamp
  · refine Host.onDisk_leavesNoArena fun d => ?_
    unfold Disk.changing
    split
    · next d' written =>
      exact Disk.write_leavesNoArena (readsNoArena_document o settings exportedAt stamp) written
    · exact refl_of (Disk.LeavesNoArena here) d
  · exact Host.onDisk_leavesNoArena (Disk.writeLines_keeps fun _ _ =>
      Disk.write_leavesNoArena (readsNoArena_table h))

end Export

namespace Site

/-- The relation of `Host.LeavesNoArena` between the hosts of two sites. -/
def LeavesNoArena (here : Place) (s s' : Site) : Prop := s.host.LeavesNoArena here s'.host

instance (here : Place) : IsPreorder Site (LeavesNoArena here) where
  refl s := refl_of (Host.LeavesNoArena here) s.host
  trans _ _ _ ab bc := trans_of (Host.LeavesNoArena here) ab bc

/-- However an export ends, and wherever its files go, it brings an arena to no place. -/
theorem exportOutcome_leavesNoArena (here : Place) (o : Outcome) :
    Work.Within (LeavesNoArena here) (exportOutcome o) :=
  exportOutcome_keeps Export.openFolder_leavesNoArena Export.all_leavesNoArena (fun _ _ h => h) o

end Site
end IteratedDilemma
