import IteratedDilemma.Disk.Basic
import IteratedDilemma.Journal

/-! What an arena runs on: a disk, a clock, numbers for new identifiers, a journal and the lines
that have been printed. -/
namespace IteratedDilemma
set_option autoImplicit false

/-- Journal and printed lines are kept with the newest first. -/
structure Host where
  disk : Disk
  now : Timestamp
  /-- The strategies and records that have been given an identifier. -/
  strategiesNamed : Nat
  recordsNamed : Nat
  /-- Whether there is no space left for documents. -/
  isFull : Bool
  /-- The seed of a generator for which none is set. -/
  entropy : Nat
  /-- The folders that `~` stands for in the paths of tables. -/
  home : Path.Homes
  journal : List Entry
  printed : List Text

/-- Work on a state that may fail. What was done before a failure stays done. -/
abbrev Work (σ : Type) := ExceptT Fault (StateM σ)

namespace Host

/-- The folder of whoever may do everything. -/
def rootHome : Path := .ofText "/root"

/-- The usual homes: the program is run by whoever may do everything, and no other user is known. -/
def usualHome : Path.Homes := fun user =>
  if user.isEmpty ∨ user = "root" then some rootHome else none

/-- A host at a time, with nothing but its home on its disk. -/
def start (now : Timestamp) : Host where
  disk := (Disk.empty.makeFolder rootHome).toOption.getD .empty
  now
  strategiesNamed := 0
  recordsNamed := 0
  isFull := false
  entropy := 0
  home := usualHome
  journal := []
  printed := []

/-- The time in universal time, offset zero. -/
def universalNow (h : Host) : Timestamp := h.now.inUniversalTime

/-- The time as a clock on the wall shows it, which is universal time without its offset. -/
def localNow (h : Host) : Timestamp := h.universalNow.withoutOffset

/-- Entries at the end of the journal, in their order. -/
def record (h : Host) (entries : List Entry) : Host :=
  { h with journal := entries.reverse ++ h.journal }

/-- The next identifier of a strategy. -/
def nameStrategy (h : Host) : Text × Host :=
  (s!"s{h.strategiesNamed + 1}", { h with strategiesNamed := h.strategiesNamed + 1 })

/-- The next identifier of a record. -/
def nameRecord (h : Host) : Text × Host :=
  (s!"r{h.recordsNamed + 1}", { h with recordsNamed := h.recordsNamed + 1 })

def log (level : Level) (text : Text) : Work Host Unit :=
  modify fun h => h.record [⟨level, text⟩]

def logAll (entries : List Entry) : Work Host Unit :=
  modify fun h => h.record entries

def print (line : Text) : Work Host Unit :=
  modify fun h => { h with printed := line :: h.printed }

/-- The result of looking at the disk. -/
def inspect {α : Type} (look : Disk → Except FileFault α) : Work Host α := fun h =>
  ((look h.disk).mapError .file, h)

/-- Work on the disk. -/
def onDisk {α : Type} (work : Disk.Work α) : Work Host α := fun h =>
  let (result, disk) := work h.disk
  (result.mapError .file, { h with disk })

/-- Makes a change of the disk. -/
def changeDisk (change : Disk → Except FileFault Disk) : Work Host Unit :=
  onDisk (Disk.changing change)

end Host
end IteratedDilemma
