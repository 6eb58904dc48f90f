import IteratedDilemma.CommandLine.Program
import Std.Time.DateTime

/-! The command line: what the program may need is read from the real disk, the program runs on a
host of its own, and what it changed is written back. -/
namespace IteratedDilemma.Main
set_option autoImplicit false

/-- A disk with what is really at a path and on the way to it. -/
def lookUp (disk : Disk) (p : Path) : IO Disk := do
  let here ← IO.currentDir
  let mut disk := disk
  for count in List.range (p.parts.length + 1) do
    let q := { p with parts := p.parts.take count }
    if let .ok place := disk.find q q.text then
      let real := here / Text.asString q.text
      if place.names = [] then pure ()
      else if ← real.isDir then disk := disk.put place .folder
      else if ← real.pathExists then disk := disk.put place (.file (← IO.FS.readFile real))
  return disk

def lookUpAll (disk : Disk) (paths : List Path) : IO Disk :=
  paths.foldlM lookUp disk

/-- Writes what is new on a disk, folders before the files in them. -/
def writeBack (old new : Disk) : IO Unit := do
  let here ← IO.currentDir
  let changed := new.nodes.filter fun entry => old.node? entry.1 ≠ some entry.2
  let ordered := changed.mergeSort fun a b => a.1.names.length ≤ b.1.names.length
  for (place, node) in ordered do
    let p := place.path
    let real := here / Text.asString p.text
    match node with
    | .folder => IO.FS.createDirAll real
    | .file text =>
      let half := p.parent.append ⟨0, ["." ++ p.name ++ ".tmp"]⟩
      let draft := here / Text.asString half.text
      IO.FS.writeFile draft text
      IO.FS.rename draft real

/-- The time of the clock. -/
def clock : IO Timestamp := do
  let now ← Std.Time.Timestamp.now
  let micros := Timestamp.epoch + now.toNanosecondsSinceUnixEpoch.val / 1000
  return (Timestamp.ofMoment (Timestamp.momentOf micros (some 0))).toOption.getD
    Timestamp.start2024

/-- A number that nobody can foresee. -/
def entropy : IO Nat := do
  let bytes ← IO.getRandomBytes 16
  return bytes.toList.foldl (fun n byte => n * 256 + byte.toNat) 0

def environment : IO Json.Fields := do
  let names := ["DILEMMA_ARENA_FILE", "DILEMMA_ARENA_SEED"]
  let found ← names.mapM fun name =>
    return (← IO.getEnv name).map fun value => (Text.ofString name, Json.text value)
  return found.filterMap id

/-- The home folders of the user of the program, who is not named, and of all users. -/
def homes : IO (List (Text × Path)) := do
  let own := (← IO.getEnv "HOME").getD "/root"
  let entries ← try IO.FS.lines "/etc/passwd" catch _ => pure #[]
  let named := entries.toList.filterMap fun entry =>
    match entry.splitOn ":" with
    | [name, _, _, _, _, folder, _] => some (name, folder)
    | _ => none
  return (("", own) :: named).map fun (name, folder) =>
    (Text.ofString name, Path.ofText (Text.ofString folder))

/-- The paths that the settings name, as far as they can be read. -/
def settingsPaths (o : CommandLine.Options) (environment : Json.Fields) (host : Host) :
    List Path :=
  match CommandLine.settingsFor o environment host with
  | (.ok settings, _) =>
    [settings.arenaFile, settings.outputDir].filterMap fun value =>
      (Path.ofJson value).toOption
  | (.error _, _) => []

/-- Prints the lines and the entries of a run. -/
def report (host : Host) (level : Level) : IO Unit := do
  let out ← IO.getStdout
  let log ← IO.getStderr
  for line in host.printed.reverse do out.putStrLn (Text.asString line)
  for entry in Entry.atLeast level host.journal.reverse do
    log.putStrLn (host.now.isoText ++ " - " ++ entry.level.word ++ " - " ++
      Text.asString entry.text)

/-- Runs the program with options and gives its exit status. -/
def run (o : CommandLine.Options) : IO UInt32 := do
  let environment ← environment
  let seed ← entropy
  let homes ← homes
  let host : Host := { Host.start (← clock) with
    disk := .empty, entropy := seed, strategiesNamed := seed, recordsNamed := seed
    home := fun user => homes.lookup user }
  let named := [o.config, o.logicFile].filterMap fun name => name.map Path.ofText
  let disk ← lookUpAll host.disk (homes.map (·.2) ++ named)
  let disk ← lookUpAll disk (settingsPaths o environment { host with disk })
  let (result, host) := CommandLine.run ⟨o, environment, false⟩ { host with disk }
  writeBack disk host.disk
  report host o.logLevel
  match result with
  | .ok status => return status.toUInt32
  | .error fault =>
    (← IO.getStderr).putStrLn (Text.asString fault.message)
    return 1

end IteratedDilemma.Main

def main (arguments : List String) : IO UInt32 := do
  match IteratedDilemma.CommandLine.Request.ofArguments (arguments.map .ofString) with
  | .run options => IteratedDilemma.Main.run options
  | .help =>
    (← IO.getStdout).putStrLn IteratedDilemma.CommandLine.usage
    return 0
  | .refused =>
    (← IO.getStderr).putStrLn IteratedDilemma.CommandLine.usage
    return 2
