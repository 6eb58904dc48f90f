import IteratedDilemma.CommandLine.Program
import IteratedDilemma.Host.Settings
import IteratedDilemma.Proofs.CommandLine.Arguments
import IteratedDilemma.Proofs.Disk.Saving
import IteratedDilemma.Proofs.Json.Held
import IteratedDilemma.Proofs.Tournament.Layouts

/-! Settings in documents and files. Settings that come from a document have a document themselves,
also after the environment and the options have changed them (`isHeld_of_ofJson`,
`IsHeld.applyEnvironment`, `isHeld_settingsFor`), and they are loaded from the file that they are
saved to (`loadSettings_saved`). Main statement: settings agree in all their formats
(`Settings.formats_agree`). -/
namespace IteratedDilemma
set_option autoImplicit false

namespace Settings

open Json (Fields)

/-! ## Settings of documents -/

/-- Every value of settings can be held by a document, in which so many collections may lie in each
other. -/
structure IsHeld (room : Nat) (s : Settings) : Prop where
  name : s.name.IsHeld room
  rounds : s.rounds.IsHeld room
  seed : s.seed.IsHeld room
  arenaFile : s.arenaFile.IsHeld room
  outputDir : s.outputDir.IsHeld room
  exportResults : s.exportResults.IsHeld room

variable {room : Nat} {s s' : Settings}

theorem isHeld_toJson_iff : s.toJson.IsHeld (room + 1) ↔ s.IsHeld room := by
  constructor
  · intro held
    cases held with
    | object each _ _ =>
      simp only [List.forall_mem_cons] at each
      obtain ⟨name, rounds, seed, arenaFile, outputDir, exportResults, -⟩ := each
      exact ⟨name, rounds, seed, arenaFile, outputDir, exportResults⟩
  · intro held
    refine .object ?_ ?_ ?_
    · simp only [List.forall_mem_cons]
      exact ⟨held.name, held.rounds, held.seed, held.arenaFile, held.outputDir,
        held.exportResults, fun _ h => absurd h List.not_mem_nil⟩
    · simp only [List.forall_mem_cons]
      exact ⟨Text.isJoined_ofString _, Text.isJoined_ofString _, Text.isJoined_ofString _,
        Text.isJoined_ofString _, Text.isJoined_ofString _, Text.isJoined_ofString _,
        fun _ h => absurd h List.not_mem_nil⟩
    · change [Text.ofString "name", Text.ofString "rounds_per_match", Text.ofString "seed",
        Text.ofString "arena_file", Text.ofString "output_dir",
        Text.ofString "export_results"].Nodup
      decide

theorem isHeld_default (room : Nat) : default.IsHeld room where
  name := .text room (Text.isJoined_ofString _)
  rounds := .int room (by decide +kernel)
  seed := .null room
  arenaFile := .text room (Text.isJoined_ofString _)
  outputDir := .text room (Text.isJoined_ofString _)
  exportResults := .bool room false

theorem isHeld_firstOf {fields : Fields} (held : ∀ f ∈ fields, f.2.IsHeld room)
    {names : List Text} {default : Json} (usual : default.IsHeld room) :
    (fields.firstOf names default).IsHeld room := by
  unfold Json.Fields.firstOf Json.Fields.firstOf?
  rcases e : names.findSome? fields.get? with _ | v
  · exact usual
  · obtain ⟨name, -, found⟩ := List.exists_of_findSome?_eq_some e
    exact held _ (Json.Fields.mem_of_get? found)

theorem isHeld_ofFields {tournament output : Fields} {outputName : Text}
    (first : ∀ f ∈ tournament, f.2.IsHeld room) (second : ∀ f ∈ output, f.2.IsHeld room) :
    (ofFields tournament output outputName).IsHeld room where
  name := isHeld_firstOf first (isHeld_default room).name
  rounds := isHeld_firstOf first (isHeld_default room).rounds
  seed := isHeld_firstOf first (isHeld_default room).seed
  arenaFile := isHeld_firstOf second (isHeld_default room).arenaFile
  outputDir := isHeld_firstOf second (isHeld_default room).outputDir
  exportResults := isHeld_firstOf second (isHeld_default room).exportResults

/-- The fields of a value that is held are held with less room. -/
theorem isHeld_of_fields {v : Json} {fields : Fields} (held : v.IsHeld (room + 1))
    (h : v.fields = .ok fields) : ∀ f ∈ fields, f.2.IsHeld room := by
  rw [Json.object_of_fields h] at held
  cases held with
  | object each _ _ => exact each

theorem isHeld_of_part {v : Json} {fields : Fields} (held : v.IsHeld room)
    (h : v.fields = .ok fields) : ∀ f ∈ fields, f.2.IsHeld room :=
  isHeld_of_fields (held.mono (Nat.le_succ room)) h

theorem isHeld_of_ofJson {data : Json} (held : data.IsHeld (room + 1))
    (h : ofJson data = .ok s) : s.IsHeld room := by
  obtain ⟨member, found, h⟩ := exists_of_bind_ok h
  cases member with
  | none =>
    obtain ⟨fields, object, h⟩ := exists_of_bind_ok h
    cases h
    have each := isHeld_of_fields held object
    exact isHeld_ofFields each each
  | some tournament =>
    obtain ⟨fields, object, h⟩ := exists_of_bind_ok h
    obtain ⟨inTournament, first, h⟩ := exists_of_bind_ok h
    obtain ⟨inOutput, second, h⟩ := exists_of_bind_ok h
    cases h
    have each := isHeld_of_fields held object
    rw [Json.object_of_fields object] at found
    refine isHeld_ofFields (isHeld_of_part (each _ (Json.mem_of_member? found)) first) ?_
    rw [Json.Fields.firstOf_single] at second
    rcases part : fields.get? "output" with _ | output
    · rw [part] at second
      cases second
      exact fun _ there => absurd there List.not_mem_nil
    · rw [part] at second
      exact isHeld_of_part (each _ (Json.Fields.mem_of_get? part)) second

theorem isHeld_of_read {purpose : Purpose} {text : String} {v : Json}
    (h : Host.readDocument purpose text = .ok v) : v.IsHeld purpose.room := by
  unfold Host.readDocument at h
  rcases e : Json.read purpose.room (String.ofList (Text.lineFeeds text.toList)) with fault | w
  · rw [e] at h
    cases h
  · rw [e] at h
    cases h
    exact Json.isHeld_of_read e

theorem isHeld_of_loadDocumentAt {purpose : Purpose} {t : Text} {host host' : Host} {v : Json}
    (h : Host.loadDocumentAt purpose t host = (.ok v, host')) : v.IsHeld purpose.room := by
  obtain ⟨text, _, -, read⟩ := Work.bind_eq_ok h
  exact isHeld_of_read (Work.lift_eq_ok read).1

theorem isHeld_of_loadSettings {purpose : Purpose} {t : Text} {host host' : Host}
    (deep : purpose.room ≤ room + 1) (h : Host.loadSettings purpose t host = (.ok s, host')) :
    s.IsHeld room := by
  obtain ⟨data, _, loaded, read⟩ := Work.bind_eq_ok h
  exact isHeld_of_ofJson ((isHeld_of_loadDocumentAt loaded).mono deep) (Work.lift_eq_ok read).1

/-! ## The environment -/

/-- Numbers of 64 bits are far shorter than whole numbers may be. -/
theorem isWritable_of_truncated? {x : Binary64} (proper : x.IsProper) {n : Int}
    (h : x.truncated? = some n) : IntegerText.isWritable n = true := by
  cases x with
  | infinite | notANumber => cases h
  | finite negative m e =>
    have short : m * Nat.pow 2 e.toNat / Nat.pow 2 (-e).toNat <
        Nat.pow 10 IntegerText.digitLimit := by
      obtain ⟨top, e'⟩ : ∃ top, Binary64.greatestExponent.toNat = top := ⟨_, rfl⟩
      have power : Nat.pow 2 e.toNat ≤ Nat.pow 2 top :=
        Nat.pow_le_pow_right (by omega) (e' ▸ Int.toNat_le_toNat proper.greatest)
      have product : m * Nat.pow 2 e.toNat < Nat.pow 2 53 * Nat.pow 2 top :=
        Nat.mul_lt_mul_of_lt_of_le proper.small power (Nat.pow_pos (by omega))
      have limit : Nat.pow 2 53 * Nat.pow 2 top ≤ Nat.pow 10 IntegerText.digitLimit := by
        rw [← e']
        decide +kernel
      exact Nat.lt_of_le_of_lt (Nat.div_le_self _ _) (Nat.lt_of_lt_of_le product limit)
    rw [Binary64.truncated?, Option.some.injEq] at h
    rw [← h]
    split
    · rw [IntegerText.isWritable_neg]
      exact IntegerText.isWritable_natCast.2 short
    · exact IntegerText.isWritable_natCast.2 short

theorem isWritable_of_whole {v : Json} (held : v.IsHeld room) {n : Int} (h : v.whole = .ok n) :
    IntegerText.isWritable n = true := by
  cases held with
  | null | list | object => cases h
  | bool _ b => cases b <;> cases h <;> decide +kernel
  | int _ short =>
    cases h
    exact short
  | @float _ x proper =>
    cases x with
    | infinite | notANumber => cases h
    | finite negative m e =>
      cases h
      exact isWritable_of_truncated? proper rfl
  | @text _ t _ =>
    rw [Json.whole] at h
    rcases e : IntegerText.read t with fault | m <;> rw [e] at h <;> cases h
    exact IntegerText.isWritable_of_read e

theorem IsHeld.applyEnvironment {environment : Fields} (held : s.IsHeld room)
    (each : ∀ f ∈ environment, f.2.IsHeld room)
    (h : s.applyEnvironment environment = .ok s') : s'.IsHeld room := by
  have given {name : Text} {v : Json}
      (h : (environment.get? name).filter Json.isTruthy = some v) : v.IsHeld room := by
    obtain ⟨found, -⟩ := Option.filter_eq_some_iff.1 h
    exact each _ (Json.Fields.mem_of_get? found)
  have file : (((environment.get? "DILEMMA_ARENA_FILE").filter Json.isTruthy).getD
      s.arenaFile).IsHeld room := by
    rcases e : (environment.get? "DILEMMA_ARENA_FILE").filter Json.isTruthy with _ | v
    · exact held.arenaFile
    · exact given e
  unfold Settings.applyEnvironment at h
  dsimp only at h
  split at h
  · cases h
    exact { held with arenaFile := file }
  · next v e =>
    obtain ⟨n, seed, h⟩ := exists_of_bind_ok h
    cases h
    have whole : v.whole = .ok n := by
      unfold seedOf at seed
      rcases e : v.whole with fault | m <;> rw [e] at seed <;> cases seed
      rfl
    exact { held with
      arenaFile := file
      seed := .int room (isWritable_of_whole (given e) whole) }

/-! ## The options -/

open CommandLine

/-- The settings of a command: from a file or the usual ones, changed by the environment and then by
the options. -/
theorem settingsFor_ok {o : Options} {environment : Fields} {host host' : Host}
    (h : settingsFor o environment host = (.ok s, host')) :
    ∃ base changed, (base = default ∨ ∃ file host1,
        Host.loadSettings .commandSettings file host = (.ok base, host1)) ∧
      base.applyEnvironment environment = .ok changed ∧
      s = { changed with
        arenaFile := ((given o.arena).map Json.text).getD changed.arenaFile
        seed := (o.seed.map Json.int).getD changed.seed
        rounds := (o.rounds.map Json.int).getD changed.rounds
        outputDir := ((given o.outputDir).map Json.text).getD changed.outputDir } := by
  unfold settingsFor at h
  rcases config : given o.config with _ | file <;> rw [config] at h
  · obtain ⟨base, _, usual, h⟩ := Work.bind_eq_ok h
    obtain ⟨changed, _, environment, h⟩ := Work.bind_eq_ok h
    cases h
    exact ⟨base, changed, .inl (Except.ok.inj (Work.lift_eq_ok usual).1).symm,
      (Work.lift_eq_ok environment).1, rfl⟩
  · obtain ⟨data, _, loaded, h⟩ := Work.bind_eq_ok h
    obtain ⟨base, host1, read, h⟩ := Work.bind_eq_ok h
    obtain ⟨changed, _, environment, h⟩ := Work.bind_eq_ok h
    cases h
    exact ⟨base, changed, .inr ⟨file, host1, (Work.bind_of_ok loaded).trans read⟩,
      (Work.lift_eq_ok environment).1, rfl⟩

theorem isHeld_settingsFor {o : Options} {environment : Fields} {host host' : Host}
    (legible : o.IsLegible) (each : ∀ f ∈ environment, f.2.IsHeld room)
    (deep : Purpose.commandSettings.room ≤ room + 1)
    (h : settingsFor o environment host = (.ok s, host')) : s.IsHeld room := by
  obtain ⟨base, changed, origin, environment, rfl⟩ := settingsFor_ok h
  have ofBase : base.IsHeld room := by
    rcases origin with rfl | ⟨file, host1, loaded⟩
    · exact isHeld_default room
    · exact isHeld_of_loadSettings deep loaded
  have held := ofBase.applyEnvironment each environment
  have path {t : Option Text} (joined : ∀ u ∈ t, u.IsJoined) {v : Json} (usual : v.IsHeld room) :
      (((given t).map Json.text).getD v).IsHeld room := by
    rcases e : given t with _ | u
    · exact usual
    · exact .text room (joined u (Option.filter_eq_some_iff.1 e).1)
  have number {n : Option Int} (short : ∀ m ∈ n, IntegerText.isWritable m = true) {v : Json}
      (usual : v.IsHeld room) : ((n.map Json.int).getD v).IsHeld room := by
    cases n with
    | none => exact usual
    | some n => exact .int room (short n rfl)
  exact { held with
    arenaFile := path legible.arena held.arenaFile
    seed := number legible.seed held.seed
    rounds := number legible.rounds held.rounds
    outputDir := path legible.outputDir held.outputDir }

/-! ## Files of settings -/

theorem saveSettings_ok {t : Text} {host host' : Host}
    (h : Host.saveSettings s t host = (.ok (), host')) :
    s.toJson.isWritable = true ∧
      host.disk.overwriteAt t s.toJson.write = .ok host'.disk := by
  obtain ⟨_, host1, change, rest⟩ := Work.bind_eq_ok h
  by_cases writable : s.toJson.isWritable = true
  · rw [if_neg (by rw [writable]; exact Bool.false_ne_true)] at rest
    cases rest
    rw [if_pos writable, Host.changeDisk_apply] at change
    split at change <;> cases change
    next written => exact ⟨writable, written⟩
  · rw [if_pos (by rw [Bool.not_eq_true] at writable; rw [writable]; rfl)] at rest
    cases rest

theorem exists_saveSettings_iff {t : Text} {host : Host} :
    (∃ host', Host.saveSettings s t host = (.ok (), host')) ↔
      s.toJson.isWritable = true ∧ host.disk.CanOverwrite t := by
  constructor
  · rintro ⟨host', saved⟩
    obtain ⟨writable, written⟩ := saveSettings_ok saved
    exact ⟨writable, (Disk.exists_overwriteAt_iff _).1 ⟨_, written⟩⟩
  · rintro ⟨writable, can⟩
    obtain ⟨disk, written⟩ := (Disk.exists_overwriteAt_iff s.toJson.write).2 can
    have changed : Host.changeDisk (fun d => d.overwriteAt t s.toJson.write) host =
        (.ok (), { host with disk }) := by
      rw [Host.changeDisk_apply, written]
    unfold Host.saveSettings
    rw [if_pos writable, if_neg (by rw [writable]; exact Bool.false_ne_true)]
    exact ⟨_, Work.bind_of_ok changed⟩

theorem loadSettings_of_read {purpose : Purpose} {t : Text} {host : Host}
    (held : s.toJson.IsHeld purpose.room) (read : host.disk.readAt t = .ok s.toJson.write) :
    Host.loadSettings purpose t host = (.ok s, host) := by
  have content : Host.inspect (fun d => d.readAt t) host = (.ok s.toJson.write, host) :=
    Host.inspect_of_ok read
  have document : Host.loadDocumentAt purpose t host = (.ok s.toJson, host) := by
    unfold Host.loadDocumentAt
    rw [Work.bind_of_ok content, Host.readDocument, Json.lineFeeds_write, held.read_write]
    rfl
  unfold Host.loadSettings
  rw [Work.bind_of_ok document, ofJson_toJson]
  rfl

/-- Settings that are held are loaded from the file that they were saved to. -/
theorem loadSettings_saved {t : Text} {host host' : Host} (held : s.IsHeld room)
    (saved : Host.saveSettings s t host = (.ok (), host')) {purpose : Purpose}
    (deep : room < purpose.room) : Host.loadSettings purpose t host' = (.ok s, host') :=
  loadSettings_of_read ((isHeld_toJson_iff.2 held).mono deep)
    (Disk.readAt_of_overwriteAt (saveSettings_ok saved).2)

/-! ## Settings as they arise -/

/-- Every given value is read from some document. -/
def Given.HaveDocuments (room : Nat) (g : Given) : Prop :=
  ∀ f ∈ g.tournament ++ g.output "output_dir", f.2.HasDocument room

/-- Settings that are loaded, from given values or from a file, and changed by the environment, or
that a command chooses. So many collections may lie in each other in a value. -/
inductive Arises (room : Nat) : Settings → Prop where
  | given {g : Given} {data : Json} {s : Settings} (values : g.HaveDocuments room)
      (form : g.IsFlat data ∨ g.IsNested data) (h : ofJson data = .ok s) : Arises room s
  | file {purpose : Purpose} {t : Text} {host host' : Host} {s : Settings}
      (deep : purpose.room ≤ room + 1) (h : Host.loadSettings purpose t host = (.ok s, host')) :
      Arises room s
  | changed {environment : Fields} {s s' : Settings} (before : Arises room s)
      (values : ∀ f ∈ environment, f.2.HasDocument room)
      (h : s.applyEnvironment environment = .ok s') : Arises room s'
  | chosen {arguments : List Text} {o : Options} {environment : Fields} {host host' : Host}
      {s : Settings} (deep : Purpose.commandSettings.room ≤ room + 1)
      (joined : ∀ a ∈ arguments, a.IsJoined) (request : Request.ofArguments arguments = .run o)
      (values : ∀ f ∈ environment, f.2.HasDocument room)
      (h : settingsFor o environment host = (.ok s, host')) : Arises room s

theorem isHeld_given {g : Given} (values : g.HaveDocuments room) : g.settings.IsHeld room := by
  have each : ∀ f ∈ g.tournament ++ g.output "output_dir", f.2.IsHeld room := fun f there =>
    Json.isHeld_iff.2 (values f there)
  rw [← Given.ofFields_of_finds g.finds_flat]
  exact isHeld_ofFields each each

theorem Arises.isHeld (arises : Arises room s) : s.IsHeld room := by
  induction arises with
  | given values form h =>
    rw [ofJson_given form, Except.ok.injEq] at h
    exact h ▸ isHeld_given values
  | file deep h => exact isHeld_of_loadSettings deep h
  | changed _ values h held =>
    exact held.applyEnvironment (fun f there => Json.isHeld_iff.2 (values f there)) h
  | chosen deep joined request values h =>
    exact isHeld_settingsFor (isLegible_of_run joined request)
      (fun f there => Json.isHeld_iff.2 (values f there)) deep h

/-- The same settings are read from a flat document and from a nested one, and any settings from
their own document. Settings that arise are saved to every path where a file can be written, and
they are what is loaded from it then. -/
theorem formats_agree :
    (∀ (g : Given) (data : Json), g.IsFlat data ∨ g.IsNested data →
      ofJson data = .ok g.settings) ∧
    (∀ s : Settings, ofJson s.toJson = .ok s) ∧
    ∀ room s, Arises room s → ∀ t host,
      ((∃ host', Host.saveSettings s t host = (.ok (), host')) ↔ host.disk.CanOverwrite t) ∧
      ∀ host', Host.saveSettings s t host = (.ok (), host') → ∀ purpose : Purpose,
        room < purpose.room → Host.loadSettings purpose t host' = (.ok s, host') := by
  refine ⟨fun g data form => ofJson_given form, ofJson_toJson, fun room s arises t host => ?_⟩
  have writable : s.toJson.isWritable = true := (isHeld_toJson_iff.2 arises.isHeld).isWritable
  refine ⟨?_, fun host' saved purpose deep => loadSettings_saved arises.isHeld saved deep⟩
  rw [exists_saveSettings_iff, writable]
  exact and_iff_right rfl

/-- A name, a number of rounds, a seed and an arena file. -/
def nightly : Given where
  name := some (.text "Nightly")
  rounds := some (.int 10)
  seed := some (.int 5)
  arenaFile := some (.text "nightly.json")
  outputDir := none
  exportResults := none

theorem haveDocuments_nightly (room : Nat) : nightly.HaveDocuments room := by
  change ∀ f ∈ ([("name", .text "Nightly"), ("rounds_per_match", .int 10), ("seed", .int 5),
    ("arena_file", .text "nightly.json")] : Fields), f.2.HasDocument room
  simp only [← Json.isHeld_iff, List.forall_mem_cons]
  exact ⟨.text room (Text.isJoined_ofString _), .int room (by decide +kernel),
    .int room (by decide +kernel), .text room (Text.isJoined_ofString _),
    fun _ there => absurd there List.not_mem_nil⟩

/-- A file can be written in the working folder of a host that has just started. -/
theorem canOverwrite_start : (Host.start .start2024).disk.CanOverwrite "config.json" where
  some := by decide
  noSlash := by decide +kernel
  found := rfl
  free := by decide +kernel

def seedVariable : Fields := [("DILEMMA_ARENA_SEED", .text "7")]

theorem hasDocument_seedVariable (room : Nat) : ∀ f ∈ seedVariable, f.2.HasDocument room := by
  intro f there
  rw [List.mem_singleton.1 there]
  exact Json.isHeld_iff.1 (.text room (Text.isJoined_ofString _))

/-- Given settings are loaded from either document, changed by the environment, saved and loaded
again, and so are the settings that a command chooses for three rounds. -/
theorem formats_agree_nightly :
    ofJson (.object (nightly.tournament ++ nightly.output "output_dir")) = .ok nightly.settings ∧
    ofJson (.object (Given.parts nightly.tournament (nightly.output "results_dir"))) =
      .ok nightly.settings ∧
    (∃ s host', nightly.settings.applyEnvironment seedVariable = .ok s ∧
      Host.saveSettings s "config.json" (.start .start2024) = (.ok (), host') ∧
      Host.loadSettings .settings "config.json" host' = (.ok s, host')) ∧
    ∃ o s host', Request.ofArguments ["--rounds", "3"] = .run o ∧
      settingsFor o seedVariable (.start .start2024) = (.ok s, .start .start2024) ∧
      Host.saveSettings s "config.json" (.start .start2024) = (.ok (), host') ∧
      Host.loadSettings .commandSettings "config.json" host' = (.ok s, host') := by
  obtain ⟨forms, -, kept⟩ := formats_agree
  have flat : nightly.IsFlat (.object (nightly.tournament ++ nightly.output "output_dir")) :=
    ⟨_, rfl, List.Perm.refl _⟩
  have nested : nightly.IsNested
      (.object (Given.parts nightly.tournament (nightly.output "results_dir"))) :=
    ⟨_, _, _, rfl, List.Perm.refl _, List.Perm.refl _, .inl (List.Perm.refl _)⟩
  refine ⟨forms _ _ (.inl flat), forms _ _ (.inr nested), ?_, ?_⟩
  · obtain ⟨s, changed⟩ : ∃ s, nightly.settings.applyEnvironment seedVariable = .ok s := ⟨_, rfl⟩
    have arises : Arises 0 s := .changed
      (.given (haveDocuments_nightly 0) (.inl flat) (forms _ _ (.inl flat)))
      (hasDocument_seedVariable 0) changed
    obtain ⟨can, back⟩ := kept 0 s arises "config.json" (.start .start2024)
    obtain ⟨host', saved⟩ := can.2 canOverwrite_start
    exact ⟨s, host', changed, saved, back host' saved .settings (by decide)⟩
  · obtain ⟨o, request⟩ : ∃ o, Request.ofArguments ["--rounds", "3"] = .run o := ⟨_, rfl⟩
    obtain ⟨s, chosen⟩ : ∃ s, settingsFor o seedVariable (.start .start2024) =
        (.ok s, .start .start2024) := by
      cases request
      exact ⟨_, rfl⟩
    have joined : ∀ a ∈ [Text.ofString "--rounds", Text.ofString "3"], a.IsJoined := by
      simp only [List.forall_mem_cons]
      exact ⟨Text.isJoined_ofString _, Text.isJoined_ofString _,
        fun _ there => absurd there List.not_mem_nil⟩
    have arises : Arises 984 s :=
      .chosen (by decide) joined request (hasDocument_seedVariable 984) chosen
    obtain ⟨can, back⟩ := kept 984 s arises "config.json" (.start .start2024)
    obtain ⟨host', saved⟩ := can.2 canOverwrite_start
    exact ⟨o, s, host', request, chosen, saved, back host' saved .commandSettings (by decide)⟩

/-! ## Settings that no file holds -/

/-- A whole number that is too long for a document. -/
def overlong : Json := .int (Int.ofNat (Nat.pow 10 IntegerText.digitLimit))

/-- Two halves of a pair side by side. -/
def halves : Json := .text [.ofNat 0xd83d, .ofNat 0xde00]

/-- So many lists in each other. -/
def nest : Nat → Json
  | 0 => .null
  | n + 1 => .list [nest n]

theorem le_room_of_nest {n : Nat} (held : (nest n).IsHeld room) : n ≤ room := by
  induction n generalizing room with
  | zero => exact Nat.zero_le room
  | succ n ih =>
    cases held with
    | list each => exact Nat.succ_le_succ (ih (each _ List.mem_cons_self))

/-- Settings that are usual but for the seed. -/
def seeded (seed : Json) : Settings := { default with seed }

theorem isHeld_seed_of_loadSettings {seed : Json} {purpose : Purpose} {t : Text}
    {host host' : Host} (h : Host.loadSettings purpose t host = (.ok (seeded seed), host')) :
    seed.IsHeld 989 :=
  (isHeld_of_loadSettings (by cases purpose <;> decide) h).seed

/-- A seed can be too long to be written, its halves are joined in a file, and it can be too deep to
be read. -/
theorem not_all_formats_agree :
    (∀ seed ∈ [overlong, halves, nest 990],
      ofJson (.object [("seed", seed)]) = .ok (seeded seed) ∧
      ∀ purpose t host host',
        Host.loadSettings purpose t host ≠ (.ok (seeded seed), host')) ∧
    (∀ t host host', Host.saveSettings (seeded overlong) t host ≠ (.ok (), host')) ∧
    ∃ host', Host.saveSettings (seeded halves) "config.json" (.start .start2024) =
      (.ok (), host') := by
  refine ⟨fun seed there => ⟨rfl, fun purpose t host host' h => ?_⟩, fun t host host' saved => ?_,
    exists_saveSettings_iff.2 ⟨by decide +kernel, canOverwrite_start⟩⟩
  · have held := isHeld_seed_of_loadSettings h
    simp only [List.mem_cons, List.not_mem_nil, or_false] at there
    rcases there with rfl | rfl | rfl
    · cases held with
      | int _ short => exact absurd short (by decide +kernel)
    · cases held with
      | text _ joined => exact absurd joined.1 (by decide +kernel)
    · exact absurd (le_room_of_nest held) (by decide)
  · have writable := (saveSettings_ok saved).1
    exact absurd writable (by decide +kernel)

end Settings
end IteratedDilemma
