import IteratedDilemma.Arena.Operations
import IteratedDilemma.Proofs.Disk.Saving

/-! What the operations on the store of an arena do: each either puts one new store into the arena
or leaves the old one (`commit_settles` and, for each operation, its own theorem). Nothing else in
the arena changes, and the host keeps its clock and its counts of names. -/
namespace IteratedDilemma
set_option autoImplicit false

namespace Host

/-- A host whose clock and counts of names are those of another. -/
structure SameNames (h h' : Host) : Prop where
  now : h'.now = h.now
  strategies : h'.strategiesNamed = h.strategiesNamed
  records : h'.recordsNamed = h.recordsNamed

instance : IsPreorder Host SameNames where
  refl _ := ⟨rfl, rfl, rfl⟩
  trans _ _ _ a b := ⟨b.now.trans a.now, b.strategies.trans a.strategies, b.records.trans a.records⟩

/-- The file of an arena, if it has one, holds a store. -/
def Keeps (h : Host) (file : Option Path) (store : Store) : Prop :=
  ∀ p ∈ file, store.toJson.isWritable = true ∧ h.disk.HoldsFile p store.toJson.write

theorem sameNames_record (h : Host) (entries : List Entry) : SameNames h (h.record entries) :=
  ⟨rfl, rfl, rfl⟩

theorem log_within (level : Level) (text : Text) : Work.Within SameNames (log level text) :=
  fun h => sameNames_record h _

theorem inspect_within {α : Type} (look : Disk → Except FileFault α) :
    Work.Within SameNames (inspect look) :=
  fun h => refl_of SameNames h

theorem onDisk_within {α : Type} (work : Disk.Work α) : Work.Within SameNames (onDisk work) :=
  fun _ => ⟨rfl, rfl, rfl⟩

/-- Saving a document keeps what its steps keep. -/
theorem saveDocument_keeps {R : Host → Host → Prop} [IsPreorder Host R] {value : Json} {p : Path}
    (made : Work.Within R (onDisk (Disk.makeFolders p.parent)))
    (replaced : Work.Within R (changeDisk fun d => d.replace p value.write))
    (said : ∀ level text, Work.Within R (log level text)) :
    Work.Within R (saveDocument value p) := by
  have looked {α : Type} (look : Disk → Except FileFault α) : Work.Within R (inspect look) :=
    fun h => refl_of R h
  have hlast : Work.Within R (do
      changeDisk fun d => d.replace p value.write
      log .debug ("Saved " ++ p.text)) :=
    Work.within_bind replaced fun _ => said _ _
  have hrest : Work.Within R (do
      onDisk (Disk.makeFolders p.parent)
      let _ ← inspect fun d => d.draftPlace p
      if !value.isWritable then throw .tooLongToWrite
      changeDisk fun d => d.replace p value.write
      log .debug ("Saved " ++ p.text)) := by
    refine Work.within_bind made fun _ => Work.within_bind (looked _) fun _ => ?_
    exact Work.within_ite (Work.within_bind (Work.within_throw _) fun _ => hlast) hlast
  refine Work.within_bind Work.within_get fun h => ?_
  exact Work.within_ite (Work.within_bind (Work.within_throw _) fun _ => hrest) hrest

theorem saveDocument_within (value : Json) (p : Path) :
    Work.Within SameNames (saveDocument value p) :=
  saveDocument_keeps (onDisk_within _) (onDisk_within _) log_within

end Host

namespace Site

/-- A site whose host and whose store have changed, and nothing else. -/
def after (site : Site) (host : Host) (store : Store) : Site :=
  { site with host, arena := { site.arena with store } }

@[simp] theorem after_host (site : Site) (host : Host) (store : Store) :
    (site.after host store).host = host := rfl

@[simp] theorem after_store (site : Site) (host : Host) (store : Store) :
    (site.after host store).arena.store = store := rfl

theorem ranked_apply (site : Site) : ranked site = (site.arena.store.ranked, site) := by
  unfold ranked
  rw [Work.bind_of_ok (Work.get_apply site)]
  rfl

theorem ranked_eq {site site' : Site} {result : Except Fault (List Strategy)}
    (h : ranked site = (result, site')) : result = site.arena.store.ranked ∧ site' = site := by
  rw [ranked_apply] at h
  cases h
  exact ⟨rfl, rfl⟩

theorem writeStore_keeps {R : Host → Host → Prop} [IsPreorder Host R] {store : Store} {p : Path}
    (saved : Work.Within R (Host.saveDocument store.toJson p))
    (said : ∀ (host : Host) (entries : List Entry), R host (host.record entries)) :
    Work.Within R (writeStore store p) := by
  intro host
  have h := saved host
  unfold writeStore
  rcases e : Host.saveDocument store.toJson p host with ⟨_ | _, host'⟩ <;> rw [e] at h
  · exact trans_of R h (said _ _)
  · exact h

theorem writeStore_within (store : Store) (p : Path) :
    Work.Within Host.SameNames (writeStore store p) :=
  writeStore_keeps (Host.saveDocument_within _ p) Host.sameNames_record

/-- An arena without a file takes a store over at once, one with a file after it is written. -/
theorem commit_eq (store : Store) (site : Site) :
    commit store site = match site.arena.file with
      | none => (.ok (), site.after site.host store)
      | some p => match writeStore store p site.host with
        | (.ok (), host) => (.ok (), site.after host store)
        | (.error fault, host) => (.error fault, site.after host site.arena.store) := by
  unfold commit
  rw [Work.bind_of_ok (Work.get_apply site)]
  cases hf : site.arena.file with
  | none => rfl
  | some p =>
    change (onHost (writeStore store p) >>= _) site = _
    rw [Work.bind_apply]
    dsimp only [onHost]
    rcases e : writeStore store p site.host with ⟨_ | _, host⟩ <;> rfl

/-! ## Each operation -/

/-- The strategy that is stored next, before it has played. -/
def newcomer (site : Site) (name : Json) (tree : LogicTree) (authorId author : Json) :
    Strategy where
  id := .text site.host.nameStrategy.1
  name
  tree
  author
  authorId
  score := .int 0
  createdAt := some site.host.universalNow

/-- A fault says that the file of an arena could not be written. -/
def CannotWrite (site : Site) (fault : Fault) : Prop :=
  ∃ p cause, site.arena.file = some p ∧ fault = .unwritableArena p.text cause

theorem CannotWrite.file {site : Site} {fault : Fault} (h : site.CannotWrite fault) :
    site.arena.file ≠ none := by
  obtain ⟨p, cause, file, -⟩ := h
  rw [file]
  exact Option.some_ne_none p

/-- An operation gives `a` with one new store, which the file of the arena holds if there is one, or
fails with the old one because the file cannot be written, having made folders at most. Either way
the host has the names of `host` afterwards. -/
def Settles {α : Type} (site : Site) (host : Host) (store : Store) (a : α)
    (run : Except Fault α × Site) : Prop :=
  (∃ host', host.SameNames host' ∧ host'.Keeps site.arena.file store ∧
      run = (.ok a, site.after host' store)) ∨
    ∃ fault host', host.SameNames host' ∧ host.disk.Grows host'.disk ∧ site.CannotWrite fault ∧
      run = (.error fault, site.after host' site.arena.store)

theorem writeStore_ok {store : Store} {p : Path} {host host' : Host}
    (h : writeStore store p host = (.ok (), host')) : host'.Keeps (some p) store := by
  unfold writeStore at h
  rcases e : Host.saveDocument store.toJson p host with ⟨fault | _, host1⟩
  · rw [e] at h
    cases h
  · rw [e] at h
    cases h
    intro q hq
    cases hq
    exact Host.saveDocument_ok e

theorem writeStore_error {store : Store} {p : Path} {host host' : Host} {fault : Fault}
    (h : writeStore store p host = (.error fault, host')) :
    host.disk.Grows host'.disk ∧ ∃ cause, fault = .unwritableArena p.text cause := by
  unfold writeStore at h
  rcases e : Host.saveDocument store.toJson p host with ⟨fault | _, host1⟩
  · have grows := Host.grows_of_unsaved e
    rw [e] at h
    cases h
    exact ⟨grows, _, rfl⟩
  · rw [e] at h
    cases h

theorem commit_settles (store : Store) (site : Site) :
    Settles site site.host store () (commit store site) := by
  rw [commit_eq]
  cases hf : site.arena.file with
  | none =>
    have keeps : site.host.Keeps site.arena.file store := by
      intro p hp
      rw [hf] at hp
      cases hp
    exact .inl ⟨_, refl_of _ _, keeps, rfl⟩
  | some p =>
    have h := writeStore_within store p site.host
    dsimp only
    rcases e : writeStore store p site.host with ⟨fault | _, host⟩ <;> rw [e] at h
    · obtain ⟨grows, cause, unwritable⟩ := writeStore_error e
      exact .inr ⟨fault, host, h, grows, ⟨p, cause, hf, unwritable⟩, rfl⟩
    · have keeps := writeStore_ok e
      rw [← hf] at keeps
      exact .inl ⟨host, h, keeps, rfl⟩

theorem commit_log_settles {α : Type} (store : Store) (level : Level) (text : Text) (a : α)
    (site : Site) :
    Settles site site.host store a ((do commit store; log level text; return a) site) := by
  obtain ⟨host, names, keeps, h⟩ | ⟨fault, host, names, grows, unwritable, h⟩ :=
    commit_settles store site
  · exact .inl ⟨_, trans_of _ names (Host.sameNames_record _ _), keeps, Work.bind_of_ok h⟩
  · exact .inr ⟨fault, host, names, grows, unwritable, Work.bind_of_error h⟩

theorem addStrategy_apply (site : Site) (name : Json) (tree : LogicTree) (authorId author : Json) :
    addStrategy name tree authorId author site = (do
        commit (site.arena.store.add (site.newcomer name tree authorId author))
        log .info ("Stored strategy " ++ name.plain ++ " (" ++ site.host.nameStrategy.1 ++ ")")
        return site.newcomer name tree authorId author : Work Site Strategy)
      (site.after site.host.nameStrategy.2 site.arena.store) := rfl

theorem addStrategy_settles (site : Site) (name : Json) (tree : LogicTree)
    (authorId author : Json) :
    Settles site site.host.nameStrategy.2
      (site.arena.store.add (site.newcomer name tree authorId author))
      (site.newcomer name tree authorId author)
      (addStrategy name tree authorId author site) := by
  rw [addStrategy_apply]
  exact commit_log_settles _ _ _ _ (site.after site.host.nameStrategy.2 site.arena.store)

/-- What the first half of a save has done: it found the names, looked up the opponents and stored
the strategy. -/
theorem beginSave_ok {site site' : Site} {name authorId author : Json} {tree : LogicTree}
    {new : Strategy} {opponents : List Strategy}
    (h : beginSave name tree authorId author site = (.ok ⟨new, opponents⟩, site')) :
    ∃ given shown, requiredName name = .ok given ∧ displayName author authorId = .ok shown ∧
      ranked site = (.ok opponents, site) ∧
      addStrategy (.text given) tree authorId (.text shown) site = (.ok new, site') := by
  unfold beginSave at h
  obtain ⟨given, _, required, h⟩ := Work.bind_eq_ok h
  obtain ⟨required, e⟩ := Work.lift_eq_ok required
  rw [e] at h
  obtain ⟨shown, _, display, h⟩ := Work.bind_eq_ok h
  obtain ⟨display, e⟩ := Work.lift_eq_ok display
  rw [e] at h
  obtain ⟨looked, middle, listed, h⟩ := Work.bind_eq_ok h
  obtain ⟨stored, _, added, done⟩ := Work.bind_eq_ok h
  have e := (ranked_eq listed).2
  rw [e] at listed added
  cases done
  exact ⟨given, shown, required, display, listed, added⟩

/-- The ways in which the first half of a save fails. Only the last of them comes to the store. -/
inductive FailsToBegin (name : Json) (tree : LogicTree) (authorId author : Json) (site : Site)
    (fault : Fault) : Site → Prop where
  | unnamed : requiredName name = .error fault →
      FailsToBegin name tree authorId author site fault site
  | unshown {given : Text} : requiredName name = .ok given →
      displayName author authorId = .error fault →
      FailsToBegin name tree authorId author site fault site
  | unlisted {given shown : Text} : requiredName name = .ok given →
      displayName author authorId = .ok shown → ranked site = (.error fault, site) →
      FailsToBegin name tree authorId author site fault site
  | unstored {given shown : Text} {opponents : List Strategy} {site' : Site} :
      requiredName name = .ok given → displayName author authorId = .ok shown →
      ranked site = (.ok opponents, site) →
      addStrategy (.text given) tree authorId (.text shown) site = (.error fault, site') →
      FailsToBegin name tree authorId author site fault site'

theorem beginSave_error {site site' : Site} {name authorId author : Json} {tree : LogicTree}
    {fault : Fault} (h : beginSave name tree authorId author site = (.error fault, site')) :
    FailsToBegin name tree authorId author site fault site' := by
  unfold beginSave at h
  rcases Work.bind_cases h with ⟨given, _, required, h⟩ | ⟨_, unnamed, e⟩
  case inr =>
    cases e
    rw [Work.lift_state unnamed]
    exact .unnamed (congrArg Prod.fst unnamed)
  obtain ⟨required, e⟩ := Work.lift_eq_ok required
  rw [e] at h
  rcases Work.bind_cases h with ⟨shown, _, display, h⟩ | ⟨_, unshown, e⟩
  case inr =>
    cases e
    rw [Work.lift_state unshown]
    exact .unshown required (congrArg Prod.fst unshown)
  obtain ⟨display, e⟩ := Work.lift_eq_ok display
  rw [e] at h
  rcases Work.bind_cases h with ⟨opponents, _, listed, h⟩ | ⟨_, unlisted, e⟩
  case inr =>
    cases e
    have same := (ranked_eq unlisted).2
    rw [same] at unlisted ⊢
    exact .unlisted required display unlisted
  have same := (ranked_eq listed).2
  rw [same] at listed h
  rcases Work.bind_cases h with ⟨new, _, added, h⟩ | ⟨_, unstored, e⟩
  · cases h
  · cases e
    exact .unstored required display listed unstored

theorem applyOutcome_error {site : Site} {o : Outcome} {fault : Fault}
    (h : site.arena.store.apply o = .error fault) :
    applyOutcome o site = (.error fault, site) := by
  unfold applyOutcome
  rw [Work.bind_of_ok (Work.get_apply site), h]
  rfl

theorem applyOutcome_settles {site : Site} {o : Outcome} {store : Store}
    (h : site.arena.store.apply o = .ok store) :
    Settles site site.host store () (applyOutcome o site) := by
  unfold applyOutcome
  rw [Work.bind_of_ok (Work.get_apply site), h]
  exact commit_log_settles store _ _ () site

theorem resetStore_settles (site : Site) :
    Settles site site.host site.arena.store.reset () (resetStore site) :=
  commit_log_settles _ _ _ () site

theorem clearStore_settles (site : Site) :
    Settles site site.host .empty () (clearStore site) :=
  commit_log_settles _ _ _ () site

end Site
end IteratedDilemma
