import IteratedDilemma.Proofs.Json.Members
import IteratedDilemma.Tournament.Settings

/-! Layouts of settings. What a document gives may lie flat, or in a part for the tournament and a
part for files. Main statements: the same settings are read from either (`Settings.ofJson_given`),
and settings are read from their own document (`Settings.ofJson_toJson`). -/
namespace IteratedDilemma
set_option autoImplicit false

/-! ## Fields that may be missing -/

namespace Json.Fields

/-- A field if there is a value for it. -/
def present (name : Text) : Option Json → Fields
  | none => []
  | some v => [(name, v)]

theorem get?_present_self (name : Text) (v : Option Json) : (present name v).get? name = v := by
  cases v with
  | none => rfl
  | some v => rw [present, get?, lookup_cons, if_pos rfl]

theorem get?_present_other {name other : Text} (apart : other ≠ name) (v : Option Json) :
    (present name v).get? other = none := by
  cases v with
  | none => rfl
  | some v =>
    rw [present, get?, lookup_cons, if_neg apart]
    rfl

theorem get?_append (fields more : Fields) (name : Text) :
    get? (fields ++ more) name = (fields.get? name).or (more.get? name) :=
  List.lookup_append

theorem names_present (name : Text) (v : Option Json) :
    ((present name v).map Prod.fst).Sublist [name] := by
  cases v with
  | none => exact List.nil_sublist _
  | some v => exact List.Sublist.refl _

end Json.Fields

namespace Settings

open Json (Fields)
open Json.Fields (present)

/-! ## Flat and nested documents -/

/-- The settings that a document gives. -/
structure Given where
  name : Option Json
  rounds : Option Json
  seed : Option Json
  arenaFile : Option Json
  outputDir : Option Json
  exportResults : Option Json

namespace Given

/-- What is not given is as usual. -/
def settings (g : Given) : Settings where
  name := g.name.getD default.name
  rounds := g.rounds.getD default.rounds
  seed := g.seed.getD default.seed
  arenaFile := g.arenaFile.getD default.arenaFile
  outputDir := g.outputDir.getD default.outputDir
  exportResults := g.exportResults.getD default.exportResults

/-- The fields for the tournament. -/
def tournament (g : Given) : Fields :=
  present "name" g.name ++ present "rounds_per_match" g.rounds ++ present "seed" g.seed

/-- The fields for files, the folder for results under a name. -/
def output (g : Given) (outputName : Text) : Fields :=
  present "arena_file" g.arenaFile ++ present outputName g.outputDir ++
    present "export_results" g.exportResults

/-- A document has the fields side by side, in any order. -/
def IsFlat (g : Given) (data : Json) : Prop :=
  ∃ fields : Fields, data = .object fields ∧
    fields.Perm (g.tournament ++ g.output "output_dir")

/-- The two parts of a nested document. -/
def parts (tournament output : Fields) : Fields :=
  [("tournament", .object tournament), ("output", .object output)]

/-- A document has the fields in two parts, all in any order. The part for files may be missing if
it would be empty. -/
def IsNested (g : Given) (data : Json) : Prop :=
  ∃ fields tournament output : Fields, data = .object fields ∧ tournament.Perm g.tournament ∧
    output.Perm (g.output "results_dir") ∧
    (fields.Perm (parts tournament output) ∨
      output = [] ∧ fields = [(Text.ofString "tournament", .object tournament)])

variable {g : Given}

theorem names_tournament (g : Given) :
    (g.tournament.map Prod.fst).Sublist ["name", "rounds_per_match", "seed"] := by
  rw [tournament, List.map_append, List.map_append]
  exact ((Json.Fields.names_present _ _).append (Json.Fields.names_present _ _)).append
    (Json.Fields.names_present _ _)

theorem names_output (g : Given) (outputName : Text) :
    ((g.output outputName).map Prod.fst).Sublist ["arena_file", outputName, "export_results"] := by
  rw [output, List.map_append, List.map_append]
  exact ((Json.Fields.names_present _ _).append (Json.Fields.names_present _ _)).append
    (Json.Fields.names_present _ _)

theorem names_flat (g : Given) :
    ((g.tournament ++ g.output "output_dir").map Prod.fst).Nodup := by
  rw [List.map_append]
  exact ((g.names_tournament).append (g.names_output "output_dir")).nodup (by decide)

/-- Fields in which each setting is found under its name. -/
structure Finds (g : Given) (tournament output : Fields) (outputName : Text) : Prop where
  name : tournament.get? "name" = g.name
  rounds : tournament.get? "rounds_per_match" = g.rounds
  seed : tournament.get? "seed" = g.seed
  arenaFile : output.get? "arena_file" = g.arenaFile
  outputDir : output.get? outputName = g.outputDir
  exportResults : output.get? "export_results" = g.exportResults

theorem ofFields_of_finds {tournament output : Fields} {outputName : Text}
    (finds : g.Finds tournament output outputName) :
    ofFields tournament output outputName = g.settings := by
  simp only [ofFields, Json.Fields.firstOf_single, finds.name, finds.rounds, finds.seed,
    finds.arenaFile, finds.outputDir, finds.exportResults, settings]

theorem finds_flat (g : Given) : g.Finds (g.tournament ++ g.output "output_dir")
    (g.tournament ++ g.output "output_dir") "output_dir" := by
  constructor <;>
  simp (disch := decide) only [tournament, output, Json.Fields.get?_append,
    Json.Fields.get?_present_self, Json.Fields.get?_present_other, Option.none_or, Option.or_none]

theorem finds_nested (g : Given) : g.Finds g.tournament (g.output "results_dir") "results_dir" := by
  constructor <;>
  simp (disch := decide) only [tournament, output, Json.Fields.get?_append,
    Json.Fields.get?_present_self, Json.Fields.get?_present_other, Option.none_or, Option.or_none]

/-- The order of fields of different names does not matter. -/
theorem Finds.perm {tournament tournament' output output' : Fields} {outputName : Text}
    (finds : g.Finds tournament' output' outputName) (same : tournament.Perm tournament')
    (same' : output.Perm output') (apart : (tournament'.map Prod.fst).Nodup)
    (apart' : (output'.map Prod.fst).Nodup) : g.Finds tournament output outputName where
  name := (Json.Fields.get?_perm same apart _).trans finds.name
  rounds := (Json.Fields.get?_perm same apart _).trans finds.rounds
  seed := (Json.Fields.get?_perm same apart _).trans finds.seed
  arenaFile := (Json.Fields.get?_perm same' apart' _).trans finds.arenaFile
  outputDir := (Json.Fields.get?_perm same' apart' _).trans finds.outputDir
  exportResults := (Json.Fields.get?_perm same' apart' _).trans finds.exportResults

end Given

theorem ofJson_flat {fields : Fields} (flat : fields.get? "tournament" = none) :
    ofJson (.object fields) = .ok (ofFields fields fields "output_dir") := by
  have absent : (Json.object fields).member? "tournament" = .ok none := by
    rw [Json.member?, Json.hasMember, flat]
    rfl
  rw [ofJson, absent]
  rfl

theorem ofJson_nested {fields tournament output : Fields}
    (first : fields.get? "tournament" = some (.object tournament))
    (second : fields.firstOf ["output"] (.object []) = .object output) :
    ofJson (.object fields) = .ok (ofFields tournament output "results_dir") := by
  have there : (Json.object fields).member? "tournament" = .ok (some (.object tournament)) := by
    rw [Json.member?, Json.hasMember, first, ok_bind, Option.isSome_some, if_pos rfl,
      Json.required, first]
    rfl
  rw [ofJson, there, ok_bind]
  change (do
    let output := fields.firstOf ["output"] (.object [])
    return ofFields tournament (← output.fields) "results_dir" : Except Fault Settings) = _
  rw [second]
  rfl

theorem ofJson_of_isFlat {g : Given} {data : Json} (flat : g.IsFlat data) :
    ofJson data = .ok g.settings := by
  obtain ⟨fields, rfl, same⟩ := flat
  have notNested : fields.get? "tournament" = none := by
    rw [Json.Fields.get?_perm same g.names_flat]
    simp (disch := decide) only [Given.tournament, Given.output, Json.Fields.get?_append,
      Json.Fields.get?_present_other, Option.or_none]
  rw [ofJson_flat notNested,
    Given.ofFields_of_finds (g.finds_flat.perm same same g.names_flat g.names_flat)]

theorem ofJson_of_isNested {g : Given} {data : Json} (nested : g.IsNested data) :
    ofJson data = .ok g.settings := by
  obtain ⟨fields, tournament, output, rfl, sameFirst, sameSecond, parts⟩ := nested
  have finds := g.finds_nested.perm sameFirst sameSecond
    (g.names_tournament.nodup (by decide)) ((g.names_output "results_dir").nodup (by decide))
  obtain ⟨first, second⟩ : fields.get? "tournament" = some (.object tournament) ∧
      fields.firstOf ["output"] (.object []) = .object output := by
    rw [Json.Fields.firstOf_single]
    rcases parts with same | ⟨rfl, rfl⟩
    · have apart : ((Given.parts tournament output).map Prod.fst).Nodup := by
        change [Text.ofString "tournament", Text.ofString "output"].Nodup
        decide
      rw [Json.Fields.get?_perm same apart, Json.Fields.get?_perm same apart]
      exact ⟨rfl, rfl⟩
    · exact ⟨rfl, rfl⟩
  rw [ofJson_nested first second, Given.ofFields_of_finds finds]

theorem ofJson_given {g : Given} {data : Json} (form : g.IsFlat data ∨ g.IsNested data) :
    ofJson data = .ok g.settings :=
  form.elim ofJson_of_isFlat ofJson_of_isNested

/-- Settings of which none is left out. -/
def allGiven (s : Settings) : Given where
  name := some s.name
  rounds := some s.rounds
  seed := some s.seed
  arenaFile := some s.arenaFile
  outputDir := some s.outputDir
  exportResults := some s.exportResults

theorem isFlat_toJson (s : Settings) : s.allGiven.IsFlat s.toJson := ⟨_, rfl, List.Perm.refl _⟩

theorem ofJson_toJson (s : Settings) : ofJson s.toJson = .ok s :=
  ofJson_of_isFlat s.isFlat_toJson

end Settings
end IteratedDilemma
