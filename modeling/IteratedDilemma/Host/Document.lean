import IteratedDilemma.Host.Basic
import IteratedDilemma.Text.LineEnd
import IteratedDilemma.Tree.Document
import IteratedDilemma.Json.Printer

/-! Documents on the disk: JSON values and logic trees. -/
namespace IteratedDilemma
set_option autoImplicit false

/-- The path that a value names. -/
def Path.ofJson : Json → Except Fault Path
  | .text t => .ok (.ofText t)
  | value => .error (.notAPath value.typeName)

/-- What a document is read for. -/
inductive Purpose where
  | content
  | settings
  | arena
  | commandTree
  | commandSettings
  | commandArena

/-- How many collections may lie in each other in a document: the more work is waiting for it, the
fewer. -/
def Purpose.room : Purpose → Nat
  | content => 989
  | settings => 990
  | arena => 986
  | commandTree => 987
  | commandSettings => 985
  | commandArena => 983

namespace Host

/-- The value of a file's text. Any end of a line counts as a line feed. -/
def readDocument (purpose : Purpose) (text : String) : Except Fault Json :=
  (Json.read purpose.room (String.ofList (Text.lineFeeds text.toList))).mapError .unreadableJson

/-- The document at a path, if there is anything. -/
def loadDocument (purpose : Purpose) (p : Path) : Work Host (Option Json) := do
  match ← inspect fun d => d.at? p with
  | none => return none
  | some _ => return some (← readDocument purpose (← inspect fun d => d.read p p.text))

/-- The document in the file that a text names. -/
def loadDocumentAt (purpose : Purpose) (t : Text) : Work Host Json := do
  readDocument purpose (← inspect fun d => d.readAt t)

/-- Writes a document in one step, so that nobody reads half of it. The folders on the way are
made, and a draft beside the place of the file. -/
def saveDocument (value : Json) (p : Path) : Work Host Unit := do
  if (← get).isFull then throw (.file .full)
  onDisk (Disk.makeFolders p.parent)
  let _ ← inspect fun d => d.draftPlace p
  if !value.isWritable then throw .tooLongToWrite
  changeDisk fun d => d.replace p value.write
  log .debug ("Saved " ++ p.text)

/-- The tree in the file that a text names. -/
def loadTree (purpose : Purpose) (t : Text) (strict : Bool) : Work Host LogicTree := do
  let data ← loadDocumentAt purpose t
  logAll (LogicTree.notices strict data)
  LogicTree.ofJson strict data

/-- Writes the document of a tree. The folders on the way are made. A number that is too long is
noticed only when it is to be written, and what comes before it stays in the file. -/
def saveTree (t : LogicTree) (p : Path) : Work Host Unit := do
  onDisk (Disk.makeFolders p.parent)
  let isWhole := t.toJson.isWritable
  changeDisk fun d => d.write p p.text (if isWhole then t.toJson.write else t.toJson.writeBegun)
  if !isWhole then throw .tooLongToWrite

end Host
end IteratedDilemma
