import IteratedDilemma.Host.Document
import IteratedDilemma.Proofs.Disk.Files
import IteratedDilemma.Proofs.Json.RoundTrip

/-! Saving documents. Whether a value is saved is decided by its whole numbers and by the path
(`exists_saveDocument_iff`). What could be saved is in the file at its place (`saveDocument_ok`), and
a save that failed has made the folders on the way at most (`saveDocument_error`). The text of a
document is read as the value that was written (`readDocument_write`). -/
namespace IteratedDilemma
set_option autoImplicit false

theorem Purpose.le_room (purpose : Purpose) : 8 ≤ purpose.room := by
  cases purpose <;> decide

/-- The text of a document is the same when the ends of its lines have been read. -/
theorem Json.lineFeeds_write (v : Json) :
    String.ofList (Text.lineFeeds v.write.toList) = v.write := by
  rw [write, String.toList_ofList, Text.lineFeeds_eq_self (return_notMem_written v 0)]

namespace Host

theorem readDocument_write {purpose : Purpose} {value : Json}
    (readable : value.IsReadable purpose.room) (writable : value.isWritable = true) :
    readDocument purpose value.write = .ok value.rejoined := by
  rw [readDocument, Json.lineFeeds_write, Json.read_write readable writable]
  rfl

theorem disk_onDisk {α : Type} {work : Disk.Work α} {host host' : Host} {r : Except Fault α}
    (h : onDisk work host = (r, host')) : host'.disk = (work host.disk).2 :=
  (congrArg (fun run => run.2.disk) h).symm

theorem onDisk_ok {α : Type} {work : Disk.Work α} {host host' : Host} {a : α}
    (h : onDisk work host = (.ok a, host')) : (work host.disk).1 = .ok a := by
  have result : (work host.disk).1.mapError Fault.file = .ok a := congrArg Prod.fst h
  rcases e : (work host.disk).1 with fault | b <;> rw [e] at result <;> cases result
  rfl

theorem host_inspect {α : Type} {look : Disk → Except FileFault α} {host host' : Host}
    {r : Except Fault α} (h : inspect look host = (r, host')) : host' = host :=
  (congrArg Prod.snd h).symm

theorem inspect_of_ok {α : Type} {look : Disk → Except FileFault α} {host : Host} {a : α}
    (h : look host.disk = .ok a) : inspect look host = (.ok a, host) := by
  rw [inspect, h]
  rfl

theorem inspect_of_error {α : Type} {look : Disk → Except FileFault α} {host : Host}
    {refused : FileFault} (h : look host.disk = .error refused) :
    inspect look host = (.error (.file refused), host) := by
  rw [inspect, h]
  rfl

theorem inspect_ok {α : Type} {look : Disk → Except FileFault α} {host host' : Host} {a : α}
    (h : inspect look host = (.ok a, host')) : look host.disk = .ok a ∧ host' = host := by
  unfold inspect at h
  rcases e : look host.disk with fault | b
  · rw [e] at h
    cases h
  · rw [e] at h
    cases h
    exact ⟨rfl, rfl⟩

theorem changeDisk_apply (change : Disk → Except FileFault Disk) (host : Host) :
    changeDisk change host = match change host.disk with
      | .ok disk => (.ok (), { host with disk })
      | .error fault => (.error (.file fault), host) := by
  unfold changeDisk onDisk Disk.changing
  rcases change host.disk with fault | disk <;> rfl

theorem saveDocument_full {value : Json} {p : Path} {host : Host} (full : host.isFull = true) :
    saveDocument value p host = (.error (.file .full), host) := by
  unfold saveDocument
  rw [Work.bind_of_ok (Work.get_apply host), if_pos full]
  rfl

/-- A save that went well has made the folders on the way and put the document into its place. -/
theorem saveDocument_steps {value : Json} {p : Path} {host host' : Host}
    (h : saveDocument value p host = (.ok (), host')) :
    host.isFull = false ∧ (Disk.makeFolders p.parent host.disk).1 = .ok () ∧
      value.isWritable = true ∧
      (Disk.makeFolders p.parent host.disk).2.replace p value.write = .ok host'.disk := by
  by_cases full : host.isFull = true
  · rw [saveDocument_full full] at h
    cases h
  unfold saveDocument at h
  rw [Work.bind_of_ok (Work.get_apply host), if_neg full] at h
  obtain ⟨_, made, folders, later⟩ := Work.bind_eq_ok h
  obtain ⟨_, _, draft, rest⟩ := Work.bind_eq_ok later
  obtain ⟨-, rfl⟩ := inspect_ok draft
  have disk := disk_onDisk folders
  rw [← disk]
  refine ⟨(Bool.not_eq_true _).mp full, onDisk_ok folders, ?_⟩
  by_cases writable : value.isWritable = true
  · rw [if_neg (by rw [writable]; exact Bool.false_ne_true)] at rest
    obtain ⟨_, _, change, logged⟩ := Work.bind_eq_ok rest
    cases logged
    rw [changeDisk_apply] at change
    split at change <;> cases change
    next replaced => exact ⟨writable, replaced⟩
  · rw [if_pos (by rw [Bool.not_eq_true] at writable; rw [writable]; rfl)] at rest
    cases rest

/-- A save that went well has put the document into its place. -/
theorem saveDocument_ok {value : Json} {p : Path} {host host' : Host}
    (h : saveDocument value p host = (.ok (), host')) :
    value.isWritable = true ∧ host'.disk.HoldsFile p value.write := by
  obtain ⟨-, -, writable, replaced⟩ := saveDocument_steps h
  exact ⟨writable, (Disk.replace_ok replaced).1⟩

/-- A document can be saved at a path: the disk has space, the folders on the way are there or can
be made, and the path then leads to a place where a file can be put. -/
structure CanSave (host : Host) (p : Path) : Prop where
  space : host.isFull = false
  folders : (Disk.makeFolders p.parent host.disk).1 = .ok ()
  place : (Disk.makeFolders p.parent host.disk).2.CanReplace p

theorem exists_saveDocument {value : Json} {p : Path} {host : Host} (can : host.CanSave p)
    (writable : value.isWritable = true) : ∃ host', saveDocument value p host = (.ok (), host') := by
  obtain ⟨space, folders, place⟩ := can
  obtain ⟨disk, replaced⟩ := (Disk.exists_replace_iff value.write).2 place
  -- the place is looked for on the disk on which the folders have been made
  rcases made : Disk.makeFolders p.parent host.disk with ⟨result, disk1⟩
  rw [made] at folders place replaced
  dsimp only at folders place replaced
  subst folders
  have onWay : onDisk (Disk.makeFolders p.parent) host = (.ok (), { host with disk := disk1 }) := by
    rw [onDisk, made]
    rfl
  have drafted : inspect (fun d => d.draftPlace p) { host with disk := disk1 } =
      (.ok p.place, { host with disk := disk1 }) := inspect_of_ok place.draft
  have changed : changeDisk (fun d => d.replace p value.write) { host with disk := disk1 } =
      (.ok (), { host with disk }) := by
    rw [changeDisk_apply, replaced]
  unfold saveDocument
  rw [Work.bind_of_ok (Work.get_apply host), if_neg (by rw [space]; exact Bool.false_ne_true)]
  dsimp only
  rw [Work.bind_of_ok onWay, Work.bind_of_ok drafted,
    if_neg (by rw [writable]; exact Bool.false_ne_true)]
  exact ⟨_, Work.bind_of_ok changed⟩

theorem exists_saveDocument_iff {value : Json} {p : Path} {host : Host} :
    (∃ host', saveDocument value p host = (.ok (), host')) ↔
      value.isWritable = true ∧ host.CanSave p := by
  constructor
  · rintro ⟨host', saved⟩
    obtain ⟨space, folders, writable, replaced⟩ := saveDocument_steps saved
    exact ⟨writable, space, folders, (Disk.exists_replace_iff _).1 ⟨_, replaced⟩⟩
  · rintro ⟨writable, can⟩
    exact exists_saveDocument can writable

/-- A save changes no other file: folders on the way may have been made, and nothing else. -/
theorem saveDocument_others {value : Json} {p : Path} {host host' : Host}
    (saved : saveDocument value p host = (.ok (), host')) {other : Place}
    (apart : other ≠ p.place) (text : String) :
    host'.disk.node? other = some (.file text) ↔ host.disk.node? other = some (.file text) := by
  obtain ⟨-, -, -, replaced⟩ := saveDocument_steps saved
  rw [(Disk.replace_ok replaced).2 other apart]
  exact (Disk.makeFolders_grows p.parent host.disk).file

/-- A save that failed has made the folders on the way at most. -/
theorem saveDocument_error {value : Json} {p : Path} {host host' : Host} {fault : Fault}
    (h : saveDocument value p host = (.error fault, host')) :
    host'.disk = host.disk ∨ host'.disk = (Disk.makeFolders p.parent host.disk).2 := by
  by_cases full : host.isFull = true
  · rw [saveDocument_full full] at h
    cases h
    exact .inl rfl
  refine .inr ?_
  unfold saveDocument at h
  rw [Work.bind_of_ok (Work.get_apply host), if_neg full] at h
  rcases Work.bind_cases h with ⟨_, host1, h1, h⟩ | ⟨_, h1, -⟩
  · rw [← disk_onDisk h1]
    rcases Work.bind_cases h with ⟨_, host2, h2, h⟩ | ⟨_, h2, -⟩
    · cases host_inspect h2
      by_cases writable : value.isWritable = true
      · rw [if_neg (by rw [writable]; exact Bool.false_ne_true)] at h
        rcases Work.bind_cases h with ⟨_, host3, h3, h⟩ | ⟨_, h3, -⟩
        · cases h
        · rw [changeDisk_apply] at h3
          rcases e : host1.disk.replace p value.write with fault | disk
          · rw [e] at h3
            cases h3
            rfl
          · rw [e] at h3
            cases h3
      · rw [if_pos (by rw [Bool.not_eq_true] at writable; rw [writable]; rfl)] at h
        cases h
        rfl
    · cases host_inspect h2
      rfl
  · exact disk_onDisk h1

theorem grows_of_unsaved {value : Json} {p : Path} {host host' : Host} {fault : Fault}
    (h : saveDocument value p host = (.error fault, host')) : host.disk.Grows host'.disk := by
  rcases saveDocument_error h with e | e <;> rw [e]
  · exact refl_of Disk.Grows _
  · exact Disk.makeFolders_grows _ _

theorem growsBeside_of_unsaved {value : Json} {p : Path} {host host' : Host} {fault : Fault}
    (plain : p.IsPlain) (h : saveDocument value p host = (.error fault, host')) :
    host.disk.GrowsBeside p.place host'.disk := by
  rcases saveDocument_error h with e | e <;> rw [e]
  · exact refl_of (Disk.GrowsBeside p.place) _
  · exact Disk.makeFolders_beside plain _

end Host
end IteratedDilemma
