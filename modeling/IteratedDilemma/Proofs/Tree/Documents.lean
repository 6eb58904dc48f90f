import IteratedDilemma.Proofs.Arena.Names
import IteratedDilemma.Proofs.Disk.Saving
import IteratedDilemma.Proofs.Disk.Spelling
import IteratedDilemma.Proofs.Tree.Reachable

/-! Trees in files. A tree that was saved is loaded with the names of its unknown kinds of condition
rejoined (`Host.loadTree_saved`), whichever spelling of the path it is loaded by. Main statement:
the document of a tree is read as the tree, by itself and from a file, and a tree that was read has
a document that is read as the same tree (`LogicTree.document_is_read`). -/
namespace IteratedDilemma
set_option autoImplicit false

theorem Condition.isWritable_toJson (c : Condition) :
    c.toJson.isWritable = IntegerText.isWritable c.n := by
  simp only [toJson, Json.isWritable, Json.haveWritable, Move.toJson, Bool.true_and, Bool.and_true]

theorem Clause.isWritable_toJson (c : Clause) :
    c.toJson.isWritable = c.conditions.all fun d => IntegerText.isWritable d.n := by
  simp only [toJson, Json.isWritable, Json.haveWritable, Json.areWritable_eq, Action.toJson,
    Bool.true_and, Bool.and_true, List.all_map, Function.comp_def, Condition.isWritable_toJson]

theorem LogicTree.isWritable_toJson (t : LogicTree) :
    t.toJson.isWritable = t.clauses.all fun c =>
      c.conditions.all fun d => IntegerText.isWritable d.n := by
  simp only [toJson, Json.isWritable, Json.haveWritable, Json.areWritable_eq, Bool.and_true,
    List.all_map, Function.comp_def, Clause.isWritable_toJson]

namespace Host

/-! ## Saving a tree -/

theorem saveTree_ok {t : LogicTree} {p : Path} {host host' : Host}
    (h : saveTree t p host = (.ok (), host')) :
    t.toJson.isWritable = true ∧ host'.disk.HoldsFile p t.toJson.write := by
  unfold saveTree at h
  obtain ⟨_, made, -, h⟩ := Work.bind_eq_ok h
  obtain ⟨_, written, change, h⟩ := Work.bind_eq_ok h
  rcases writable : t.toJson.isWritable with _ | _
  · rw [writable] at h
    cases h
  · rw [writable] at h change
    cases h
    rw [changeDisk_apply] at change
    rcases e : made.disk.write p p.text t.toJson.write with fault | disk
    · rw [if_pos rfl, e] at change
      cases change
    · rw [if_pos rfl, e] at change
      cases change
      exact ⟨rfl, Disk.write_ok e⟩

/-- A tree that can be written is saved unless the disk refuses. -/
theorem saveTree_error {t : LogicTree} (writable : t.toJson.isWritable = true) {p : Path}
    {host host' : Host} {fault : Fault} (h : saveTree t p host = (.error fault, host')) :
    ∃ refused, fault = .file refused := by
  unfold saveTree at h
  rw [writable] at h
  rcases Work.bind_cases h with ⟨_, made, -, h⟩ | ⟨_, h, e⟩
  · rcases Work.bind_cases h with ⟨_, written, -, h⟩ | ⟨_, h, e⟩
    · cases h
    · cases e
      rw [changeDisk_apply] at h
      split at h
      · cases h
      · cases h
        exact ⟨_, rfl⟩
  · cases e
    unfold onDisk at h
    rcases e : Disk.makeFolders p.parent host.disk with ⟨refused | _, disk⟩
    · rw [e] at h
      cases h
      exact ⟨refused, rfl⟩
    · rw [e] at h
      cases h

/-! ## Loading it -/

theorem loadTree_of_read {t : LogicTree} (writable : t.toJson.isWritable = true) {shown : Text}
    {host : Host} (read : host.disk.readAt shown = .ok t.toJson.write) (purpose : Purpose)
    (strict : Bool) : loadTree purpose shown strict host = (.ok t.rejoined, host) := by
  have readable : t.toJson.IsReadable purpose.room := by
    have h := (t.isRegular_toJson (purpose.room - 5)).isReadable
    rwa [Nat.sub_add_cancel (Nat.le_trans (by omega) purpose.le_room)] at h
  have document : loadDocumentAt purpose shown host = (.ok t.rejoined.toJson, host) := by
    have look : inspect (fun d => d.readAt shown) host = (.ok t.toJson.write, host) :=
      inspect_of_ok read
    unfold loadDocumentAt
    rw [Work.bind_of_ok look, readDocument_write readable writable, LogicTree.rejoined_toJson]
    rfl
  have quiet : logAll [] host = (.ok (), host) := rfl
  unfold loadTree
  rw [Work.bind_of_ok document, LogicTree.notices_toJson, Work.bind_of_ok quiet,
    LogicTree.ofJson_toJson]
  rfl

theorem loadTree_saved {t : LogicTree} {p : Path} {host host' : Host}
    (saved : saveTree t p host = (.ok (), host')) {shown : Text} (spelling : p.IsSpelling shown)
    (purpose : Purpose) (strict : Bool) :
    loadTree purpose shown strict host' = (.ok t.rejoined, host') := by
  obtain ⟨writable, holds⟩ := saveTree_ok saved
  exact loadTree_of_read writable (spelling.readAt holds) purpose strict

theorem isSpelling_saved {t : LogicTree} {name : Text} {host host' : Host}
    (saved : saveTree t (.ofText name) host = (.ok (), host')) :
    (Path.ofText name).IsSpelling (Path.ofText name).text := by
  obtain ⟨-, holds⟩ := saveTree_ok saved
  exact Path.isSpelling_text holds.ne_nil holds.fits

end Host

/-! ## Trees and their documents -/

namespace LogicTree

/-- What the document of a tree is read as. Strictly or not it is read as the tree, and nothing is
dropped from it. A tree that was saved is loaded by every spelling of its path, that of the path
itself among them, with the names of its unknown kinds of condition rejoined; this is the tree
itself if no name has two halves of a pair side by side. Saving fails only where the disk refuses or
a number has too many digits. A tree that was read from any document has a document that is read as
the same tree, which has the same document. -/
theorem document_is_read :
    (∀ strict t, ofJson strict t.toJson = .ok t ∧ notices strict t.toJson = []) ∧
    (∀ t p host host', Host.saveTree t p host = (.ok (), host') →
      ∀ shown, p.IsSpelling shown → ∀ purpose strict,
        Host.loadTree purpose shown strict host' = (.ok t.rejoined, host') ∧
          (t.IsJoined → t.rejoined = t)) ∧
    (∀ t name host host', Host.saveTree t (.ofText name) host = (.ok (), host') →
      (Path.ofText name).IsSpelling (Path.ofText name).text) ∧
    (∀ t p host host' fault, Host.saveTree t p host = (.error fault, host') →
      (∀ c ∈ t.clauses, ∀ d ∈ c.conditions, IntegerText.isWritable d.n = true) →
        ∃ refused, fault = .file refused) ∧
    ∀ strict data t, ofJson strict data = .ok t → ∀ again,
      ofJson again t.toJson = .ok t ∧ (ofJson again t.toJson).map toJson = .ok t.toJson := by
  refine ⟨fun strict t => ⟨t.ofJson_toJson strict, t.notices_toJson strict⟩,
    fun t p host host' saved shown spelling purpose strict =>
      ⟨Host.loadTree_saved saved spelling purpose strict, rejoined_of_isJoined⟩,
    fun t name host host' => Host.isSpelling_saved, fun t p host host' fault failed short => ?_,
    fun strict data t _ again => ⟨t.ofJson_toJson again, ?_⟩⟩
  · refine Host.saveTree_error ?_ failed
    rw [isWritable_toJson, List.all_eq_true]
    intro c hc
    rw [List.all_eq_true]
    exact short c hc
  · rw [t.ofJson_toJson again]
    rfl

/-- On a host that has just started a tree can be saved in the working folder. -/
theorem exists_saved {t : LogicTree} (writable : t.toJson.isWritable = true) :
    ∃ host', Host.saveTree t (.ofText "t.json") (.start .start2024) = (.ok (), host') := by
  unfold Host.saveTree
  rw [writable]
  exact ⟨_, rfl⟩

/-- A tree with a kind of condition that is not known, and with a condition in its fallback. -/
def moody : LogicTree where
  clauses := [⟨.opening, [⟨.ofName "mood", 3, .betray⟩], .any, .play .betray⟩,
    ⟨.fallback, [⟨.known ⟨.own, .nth⟩, 2, .cooperate⟩], .all, .random⟩]
  sound := rfl

theorem document_is_read_moody :
    ∃ host', Host.saveTree moody (.ofText "t.json") (.start .start2024) = (.ok (), host') ∧
      Host.loadTree .content "t.json" true host' = (.ok moody, host') ∧
      ∃ t, ofJson false (.list overlong) = .ok t ∧ ofJson true t.toJson = .ok t := by
  obtain ⟨-, loaded, named, -, again⟩ := document_is_read
  obtain ⟨host', saved⟩ := exists_saved (t := moody) (by decide +kernel)
  have text : (Path.ofText "t.json").text = "t.json" := by decide +kernel
  have spelling := named moody "t.json" _ host' saved
  rw [text] at spelling
  have joined : moody.IsJoined := by
    intro c hc d hd
    simp only [moody, List.mem_cons, List.not_mem_nil, or_false] at hc
    rcases hc with rfl | rfl
    · rw [List.mem_singleton.1 hd, Kind.name_ofName]
      exact Text.isJoined_ofString _
    · rw [List.mem_singleton.1 hd]
      exact Text.isJoined_ofString _
  obtain ⟨load, same⟩ := loaded moody _ _ host' saved _ spelling .content true
  rw [same joined] at load
  obtain ⟨t, ht⟩ : ∃ t, ofJson false (.list overlong) = .ok t := ⟨_, rfl⟩
  exact ⟨host', saved, load, t, ht, (again false _ t ht true).1⟩

/-! ## Trees that are not loaded again -/

/-- A tree with a kind of condition that is named by two halves of a pair side by side. -/
def halved : LogicTree where
  clauses := [⟨.opening, [⟨.ofName [.ofNat 0xd83d, .ofNat 0xde00], 1, .betray⟩], .all,
    .play .betray⟩]
  sound := rfl

/-- A tree that looks back farther than can be written. -/
def distant : LogicTree where
  clauses := [⟨.opening, [⟨.known ⟨.opponent, .nth⟩, Int.ofNat (Nat.pow 10 IntegerText.digitLimit),
    .betray⟩], .all, .play .betray⟩]
  sound := by decide +kernel

theorem rejoined_halved_ne : halved.rejoined ≠ halved := by
  intro e
  have names := congrArg (fun t => t.clauses.map fun c => c.conditions.map fun d => d.kind.name) e
  revert names
  decide +kernel

theorem isWritable_distant : distant.toJson.isWritable = false := by
  rw [isWritable_toJson]
  decide +kernel

theorem readAt_slash {d : Disk} {text : String} (holds : d.HoldsFile (.ofText "t.json") text) :
    d.readAt "t.json/" = .error (.notInFolder "t.json/") := by
  have here : d.node? ⟨false, 0, [Text.ofString "t.json"]⟩ = some (.file text) := holds.2
  have walk : d.walk (.start (.verbatim "t.json/")) (Path.verbatim "t.json/").parts =
      .error .notInFolder := by
    have parts : (Path.verbatim "t.json/").parts = [Text.ofString "t.json", Text.ofString "."] := by
      decide +kernel
    have start : Place.start (.verbatim "t.json/") = ⟨false, 0, []⟩ := by decide +kernel
    have step : Place.step ⟨false, 0, []⟩ "t.json" = ⟨false, 0, [Text.ofString "t.json"]⟩ := by
      decide +kernel
    rw [parts, start, Disk.walk, Disk.node?, if_pos rfl]
    dsimp only
    rw [if_neg (by decide), step, Disk.walk, here]
  have find : d.find (.verbatim "t.json/") "t.json/" = .error (.notInFolder "t.json/") := by
    have fine : Text.nameFault? "t.json/" = none := by decide +kernel
    rw [Disk.find, fine]
    dsimp only
    rw [if_neg (by decide +kernel), if_neg (by decide +kernel), walk]
  rw [Disk.readAt, if_neg (by decide +kernel), Disk.read, find]
  rfl

/-- Halves of a pair are joined in a file, a number can be too long for one, and a path that asks
for a folder is not one to load from, although it is one to save to. -/
theorem saved_differs :
    (∃ host', Host.saveTree halved (.ofText "t.json") (.start .start2024) = (.ok (), host') ∧
      ∀ strict, ∃ t ≠ halved, Host.loadTree .content "t.json" strict host' = (.ok t, host')) ∧
    (∀ p host host', Host.saveTree distant p host ≠ (.ok (), host')) ∧
    ∃ host', Host.saveTree moody (.ofText "t.json/") (.start .start2024) = (.ok (), host') ∧
      ∀ strict, Host.loadTree .content "t.json/" strict host' =
        (.error (.file (.notInFolder "t.json/")), host') := by
  refine ⟨?_, fun p host host' saved => ?_, ?_⟩
  · obtain ⟨host', saved⟩ := exists_saved (t := halved) (by decide +kernel)
    have spelling := Host.isSpelling_saved saved
    have text : (Path.ofText "t.json").text = "t.json" := by decide +kernel
    rw [text] at spelling
    exact ⟨host', saved, fun strict =>
      ⟨_, rejoined_halved_ne, Host.loadTree_saved saved spelling .content strict⟩⟩
  · have writable := (Host.saveTree_ok saved).1
    rw [isWritable_distant] at writable
    cases writable
  · obtain ⟨host', saved⟩ := exists_saved (t := moody) (by decide +kernel)
    have same : Path.ofText "t.json/" = .ofText "t.json" := by decide +kernel
    have read := readAt_slash (Host.saveTree_ok saved).2
    rw [same]
    refine ⟨host', saved, fun strict => ?_⟩
    have look : Host.inspect (fun d => d.readAt "t.json/") host' =
        (.error (.file (.notInFolder "t.json/")), host') := Host.inspect_of_error read
    unfold Host.loadTree Host.loadDocumentAt
    rw [Work.bind_of_error (Work.bind_of_error look)]

end LogicTree
end IteratedDilemma
