import IteratedDilemma.Disk.Folders
import IteratedDilemma.Host.Document
import IteratedDilemma.Tournament.Settings

/-! Settings on the disk. -/
namespace IteratedDilemma.Host
set_option autoImplicit false

/-- The settings in the file that a text names. -/
def loadSettings (purpose : Purpose) (t : Text) : Work Host Settings := do
  Settings.ofJson (← loadDocumentAt purpose t)

/-- Writes the document of settings to the file that a text names. What comes before a number that
is too long is in the file then. -/
def saveSettings (s : Settings) (t : Text) : Work Host Unit := do
  let isWhole := s.toJson.isWritable
  changeDisk fun d => d.overwriteAt t (if isWhole then s.toJson.write else s.toJson.writeBegun)
  if !isWhole then throw .tooLongToWrite

end IteratedDilemma.Host
