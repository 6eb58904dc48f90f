import IteratedDilemma.Json.Decoding

/-! Settings of tournaments. They may hold any values until they are checked. -/
namespace IteratedDilemma
set_option autoImplicit false

structure Settings where
  name : Json
  rounds : Json
  seed : Json
  arenaFile : Json
  outputDir : Json
  exportResults : Json

namespace Settings

def default : Settings where
  name := .text "Grand Tournament"
  rounds := .int 20
  seed := .null
  arenaFile := .text "arena.json"
  outputDir := .text "tournament_results"
  exportResults := .bool false

/-! ## Documents -/

/-- Settings of the fields of two objects, one for the tournament and one for files; `outputName`
is the name of the field with the folder for results. -/
def ofFields (tournament output : Json.Fields) (outputName : Text) : Settings where
  name := tournament.firstOf ["name"] default.name
  rounds := tournament.firstOf ["rounds_per_match"] default.rounds
  seed := tournament.firstOf ["seed"] default.seed
  arenaFile := output.firstOf ["arena_file"] default.arenaFile
  outputDir := output.firstOf [outputName] default.outputDir
  exportResults := output.firstOf ["export_results"] default.exportResults

/-- The settings of a document, which is flat or has a part for the tournament and one for files. -/
def ofJson (data : Json) : Except Fault Settings := do
  match ← data.member? "tournament" with
  | some tournament =>
    let fields ← data.fields
    let output := fields.firstOf ["output"] (.object [])
    return ofFields (← tournament.fields) (← output.fields) "results_dir"
  | none =>
    let fields ← data.fields
    return ofFields fields fields "output_dir"

def toJson (s : Settings) : Json :=
  .object [("name", s.name), ("rounds_per_match", s.rounds), ("seed", s.seed),
    ("arena_file", s.arenaFile), ("output_dir", s.outputDir), ("export_results", s.exportResults)]

/-! ## The environment -/

/-- The seed that a variable holds. -/
def seedOf (value : Json) : Except Fault Int :=
  value.whole.mapError fun fault =>
    if fault.family.isValue then .seedVariable value.shown else fault

/-- Settings with the arena file and the seed that the variables of the environment name. -/
def applyEnvironment (s : Settings) (environment : Json.Fields) : Except Fault Settings := do
  let given (name : Text) := (environment.get? name).filter Json.isTruthy
  let s := { s with arenaFile := (given "DILEMMA_ARENA_FILE").getD s.arenaFile }
  match given "DILEMMA_ARENA_SEED" with
  | none => return s
  | some value => return { s with seed := .int (← seedOf value) }

/-! ## Checking -/

/-- The number of rounds, if it is a positive whole number. -/
def roundCount? (s : Settings) : Option Nat :=
  match s.rounds.toInt? with
  | some n => if n < 1 then none else some n.toNat
  | none => none

/-- Whether the seed is missing or a whole number. -/
def hasSeed (s : Settings) : Bool :=
  match s.seed with
  | .null => true
  | seed => seed.toInt?.isSome

/-- All that is wrong with settings. -/
def violations (s : Settings) : List SettingsViolation :=
  (if s.roundCount?.isSome then [] else [.rounds]) ++
  (if s.hasSeed then [] else [.seed s.seed.shown]) ++
  (if s.arenaFile.isTruthy then [] else [.arenaFile])

end Settings
end IteratedDilemma
