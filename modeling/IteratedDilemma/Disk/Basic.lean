import IteratedDilemma.Disk.Path
import IteratedDilemma.Fault

/-! A disk: files with texts in a tree of folders. The working folder, the folders above it and the
root are always there. -/
namespace IteratedDilemma
set_option autoImplicit false

/-- What is at a place. -/
inductive Node where
  | folder
  | file (text : String)
deriving DecidableEq

/-- A disk as the nodes at its places. -/
structure Disk where
  nodes : List (Place × Node)

namespace Disk

def empty : Disk := ⟨[]⟩

/-- What is at a place, if anything. -/
def node? (d : Disk) (here : Place) : Option Node :=
  if here.names = [] then some .folder else d.nodes.lookup here

/-- Sets what is at a place. -/
def put (d : Disk) (here : Place) (node : Node) : Disk :=
  ⟨(here, node) :: d.nodes.filter fun entry => entry.1 ≠ here⟩

/-- Takes away a place with all that is below it. -/
def erase (d : Disk) (here : Place) : Disk :=
  ⟨d.nodes.filter fun entry => !here.isWithin entry.1⟩

/-- The texts of all paths below the working folder, sorted. -/
def listing (d : Disk) : List Text :=
  let inside := (d.nodes.map (·.1)).filter Place.isInside
  (inside.map fun here => here.path.text).mergeSort Text.noLater

/-! ## Following a path -/

/-- Why a path leads nowhere. -/
inductive Obstacle where
  | missing
  | notInFolder
  | longName
deriving DecidableEq

/-- The most octets in a name, and in a whole path. -/
def nameLimit : Nat := 255
def pathLimit : Nat := 4095

/-- The place to which parts of a path lead. There need not be anything at the last one. -/
def walk (d : Disk) (here : Place) : List Text → Except Obstacle Place
  | [] => .ok here
  | part :: rest =>
    match d.node? here with
    | none => .error .missing
    | some (.file _) => .error .notInFolder
    | some .folder =>
      if nameLimit < part.nameSize then .error .longName else walk d (here.step part) rest

/-- The place to which a path leads. Messages show the path as `shown`. -/
def find (d : Disk) (p : Path) (shown : Text) : Except FileFault Place :=
  match shown.nameFault? with
  | some fault => .error (.unencodable fault)
  | none =>
    if shown.contains (.ofNat 0) then .error .nullInPath
    else if pathLimit < shown.nameSize then .error (.longName shown)
    else
      match d.walk (.start p) p.parts with
      | .ok here => .ok here
      | .error .missing => .error (.missing shown)
      | .error .notInFolder => .error (.notInFolder shown)
      | .error .longName => .error (.longName shown)

/-- What a path leads to, if anything. Of the faults on the way only names that are too long are
reported. -/
def at? (d : Disk) (p : Path) : Except FileFault (Option Node) :=
  match d.find p p.text with
  | .ok here => .ok (d.node? here)
  | .error (.longName path) => .error (.longName path)
  | .error _ => .ok none

/-- Whether a path leads to a folder. -/
def isFolder (d : Disk) (p : Path) : Except FileFault Bool :=
  (d.at? p).map fun node => node == some .folder

/-! ## Reading -/

/-- The text of a file. -/
def read (d : Disk) (p : Path) (shown : Text) : Except FileFault String := do
  match d.node? (← d.find p shown) with
  | some (.file text) => return text
  | some .folder => throw (.isFolder shown)
  | none => throw (.missing shown)

/-- The text of the file that a text names. -/
def readAt (d : Disk) (t : Text) : Except FileFault String :=
  if t.isEmpty then .error (.missing t) else d.read (.verbatim t) t

/-! ## Writing -/

/-- Writes a file, new or in place of another, in a folder that exists. -/
def write (d : Disk) (p : Path) (shown : Text) (text : String) : Except FileFault Disk := do
  let here ← d.find p shown
  match d.node? here with
  | some .folder => throw (.isFolder shown)
  | _ => return d.put here (.file text)

/-- Makes a folder where nothing is. -/
def makeFolder (d : Disk) (p : Path) : Except FileFault Disk := do
  let here ← d.find p p.text
  match d.node? here with
  | some _ => throw (.exists p.text)
  | none => return d.put here .folder

/-- How much longer the name of a draft is than that of its file. -/
def draftExcess : Nat := 14

/-- The fault of a name as the fault of the whole path of its draft, which has one more dot. -/
def draftFault (p : Path) (fault : EncodingFault) : EncodingFault :=
  let folder := p.parent.parts.foldl Place.step (.start p)
  match p.name.nameFault? with
  | some inName => { inName with start := folder.textBefore + 1 + inName.start }
  | none => fault

/-- Where a file and, beside it, a draft of it can be. -/
def draftPlace (d : Disk) (p : Path) : Except FileFault Place :=
  match d.find p p.text with
  | .error (.longName _) => .error (.longDraftName p.name)
  | .error (.unencodable fault) => .error (.unencodable (draftFault p fault))
  | .error fault => .error fault
  | .ok here =>
    if nameLimit < p.name.nameSize + draftExcess then .error (.longDraftName p.name) else .ok here

/-- Puts a finished draft into the place of a file in one step. A folder is never replaced. -/
def replace (d : Disk) (p : Path) (text : String) : Except FileFault Disk := do
  let here ← d.draftPlace p
  if p.parts = [] ∨ p.name = ".." then throw (.busy p.name p.text)
  match d.node? here with
  | some .folder => throw (.replacesFolder p.name p.text)
  | _ => return d.put here (.file text)

/-- Removes a file, or a folder with all that is in it. -/
def remove (d : Disk) (p : Path) (shown : Text) : Except FileFault Disk := do
  let here ← d.find p shown
  match d.node? here with
  | some _ => return d.erase here
  | none => throw (.missing shown)

/-! ## Work of several steps -/

/-- Work on a disk that may fail. What was done before a failure stays done. -/
abbrev Work := ExceptT FileFault (StateM Disk)

/-- One change of a disk as work. -/
def changing (change : Disk → Except FileFault Disk) : Work Unit := fun d =>
  match change d with
  | .ok d => (.ok (), d)
  | .error fault => (.error fault, d)

/-- Makes a folder unless it is there. -/
def makeIfMissing (p : Path) : Work Unit := fun d =>
  match d.makeFolder p, d.isFolder p with
  | .ok d, _ => (.ok (), d)
  | .error fault, .ok isThere => (if isThere then .ok () else .error fault, d)
  | .error _, .error fault => (.error fault, d)

/-- Makes the folder that is reached by parts, the last one first, and all that it lies in, as far
as they are missing. -/
def makeAll (slashes : Nat) : List Text → Work Unit
  | [] => makeIfMissing ⟨slashes, []⟩
  | last :: before => fun d =>
    let p : Path := ⟨slashes, (last :: before).reverse⟩
    match d.makeFolder p with
    | .error (.missing _) => (do makeAll slashes before; makeIfMissing p : Work Unit) d
    | _ => makeIfMissing p d

/-- Makes a folder and all that it lies in, as far as they are missing. -/
def makeFolders (p : Path) : Work Unit := makeAll p.slashes p.parts.reverse

/-- Writes a file line by line, up to the first line that has no octets. -/
def writeLines (p : Path) (shown : Text) (lines : List Text) : Work Unit := do
  let fine := lines.takeWhile fun line => line.contentFault?.isNone
  changing fun d => d.write p shown ((Text.toString? fine.flatten).getD "")
  match lines.findSome? Text.contentFault? with
  | some fault => throw (.unencodable fault)
  | none => return

/-! ## What a write leaves alone -/

theorem lookup_cons (here other : Place) (node : Node) (rest : List (Place × Node)) :
    List.lookup other ((here, node) :: rest) =
      if other = here then some node else rest.lookup other := by
  rw [List.lookup_cons]
  by_cases h : other = here
  · simp [h]
  · rw [beq_eq_false_iff_ne.2 h, if_neg h]

theorem lookup_filter_ne {here other : Place} (h : other ≠ here) (nodes : List (Place × Node)) :
    (nodes.filter fun entry => entry.1 ≠ here).lookup other = nodes.lookup other := by
  induction nodes with
  | nil => rfl
  | cons entry rest ih =>
    obtain ⟨q, node⟩ := entry
    by_cases hq : q = here
    · have : other ≠ q := fun e => h (e.trans hq)
      simpa [List.filter_cons, hq, lookup_cons, h] using ih
    · simp only [List.filter_cons, ne_eq, hq, not_false_eq_true, decide_true, if_true,
        lookup_cons]
      split
      · rfl
      · simpa using ih

/-- Putting a node somewhere changes nothing elsewhere. -/
theorem node?_put (d : Disk) (here other : Place) (node : Node) (hp : here.names ≠ []) :
    (d.put here node).node? other = if other = here then some node else d.node? other := by
  by_cases h : other = here
  · subst h; simp [node?, put, hp]
  · simp only [node?, put, lookup_cons, h, if_false, lookup_filter_ne h]

end Disk
end IteratedDilemma
