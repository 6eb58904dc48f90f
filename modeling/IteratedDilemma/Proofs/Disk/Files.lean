import Mathlib.Data.List.Infix
import IteratedDilemma.Disk.Folders
import IteratedDilemma.Proofs.Work

/-! What a disk holds after a file has been put into its place. A path leads to one place on every
disk (`Path.place`), folders that are made are put where nothing was (`Grows`), and a file that has
replaced what was at its place is found there and read (`replace_ok`). Folders that are made on the
way to a place are not made at the place itself if the path is plain (`makeFolders_beside`). A text
names a file that can be written anew exactly if `CanOverwrite` holds (`exists_overwriteAt_iff`). -/
namespace IteratedDilemma
set_option autoImplicit false

/-- The place to which a path leads, if the folders on the way are there. -/
def Path.place (p : Path) : Place := p.parts.foldl Place.step (.start p)

/-- None of the folders on the way to the place of a path is that place, and every part of the path
can be a name on a disk. -/
structure Path.IsPlain (p : Path) : Prop where
  apart : ∀ parts ∈ p.parts.dropLast.inits, Path.place ⟨p.slashes, parts⟩ ≠ p.place
  fits : ∀ part ∈ p.parts, part.nameSize ≤ Disk.nameLimit

namespace Disk

/-! ## Where a path leads -/

theorem walk_ok {d : Disk} {parts : List Text} {here there : Place}
    (h : d.walk here parts = .ok there) : there = parts.foldl Place.step here := by
  induction parts generalizing here with
  | nil =>
    cases h
    rfl
  | cons part rest ih =>
    rw [walk] at h
    split at h
    · cases h
    · cases h
    · split at h
      · cases h
      · exact ih h

theorem find_ok {d : Disk} {p : Path} {shown : Text} {here : Place}
    (h : d.find p shown = .ok here) : d.walk (.start p) p.parts = .ok here := by
  unfold find at h
  split at h
  · cases h
  · split at h
    · cases h
    · split at h
      · cases h
      · split at h
        · next e => cases h; exact e
        · cases h
        · cases h
        · cases h

theorem eq_place_of_find {d : Disk} {p : Path} {shown : Text} {here : Place}
    (h : d.find p shown = .ok here) : here = p.place :=
  walk_ok (find_ok h)

/-- What makes a path hard to follow is the same on every disk on which it can be walked. -/
theorem find_of_walk {d d' : Disk} {p : Path} {shown : Text} {here : Place}
    (h : d.find p shown = .ok here) (walk : d'.walk (.start p) p.parts = .ok here) :
    d'.find p shown = .ok here := by
  unfold find at h ⊢
  split at h
  · cases h
  · split at h
    · cases h
    · split at h
      · cases h
      · next plain short => rw [if_neg plain, if_neg short, walk]

/-! ## What is put somewhere -/

theorem names_ne_nil {d : Disk} {here : Place} (h : d.node? here ≠ some .folder) :
    here.names ≠ [] := by
  intro e
  rw [node?, if_pos e] at h
  exact h rfl

theorem node?_put_self {d : Disk} {here : Place} (h : d.node? here ≠ some .folder) (node : Node) :
    (d.put here node).node? here = some node := by
  rw [node?_put d here here node (names_ne_nil h), if_pos rfl]

theorem node?_put_other {d : Disk} {here other : Place} (h : d.node? here ≠ some .folder)
    (node : Node) (ne : other ≠ here) : (d.put here node).node? other = d.node? other := by
  rw [node?_put d here other node (names_ne_nil h), if_neg ne]

/-- A way that ends where no folder is leads there still when something is put there. -/
theorem walk_put {d : Disk} {there : Place} (free : d.node? there ≠ some .folder) (node : Node)
    {parts : List Text} {here : Place} (h : d.walk here parts = .ok there) :
    (d.put there node).walk here parts = .ok there := by
  induction parts generalizing here with
  | nil => exact h
  | cons part rest ih =>
    rw [walk] at h ⊢
    split at h
    · cases h
    · cases h
    · next folder =>
      have ne : here ≠ there := by
        rintro rfl
        exact free folder
      rw [node?_put_other free node ne, folder]
      split at h
      · cases h
      · next fits => exact (if_neg fits).trans (ih h)

theorem find_put {d : Disk} {p : Path} {shown : Text} {here : Place}
    (h : d.find p shown = .ok here) (free : d.node? here ≠ some .folder) (node : Node) :
    (d.put here node).find p shown = .ok here :=
  find_of_walk h (walk_put free node (find_ok h))

/-! ## Files -/

/-- A path leads to a file with this text. -/
def HoldsFile (d : Disk) (p : Path) (text : String) : Prop :=
  d.find p p.text = .ok p.place ∧ d.node? p.place = some (.file text)

theorem HoldsFile.at? {d : Disk} {p : Path} {text : String} (h : d.HoldsFile p text) :
    d.at? p = .ok (some (.file text)) := by
  rw [Disk.at?, h.1, ← h.2]

theorem HoldsFile.read {d : Disk} {p : Path} {text : String} (h : d.HoldsFile p text) :
    d.read p p.text = .ok text := by
  rw [Disk.read, h.1, ok_bind, h.2]
  rfl

theorem holdsFile_of_read {d : Disk} {p : Path} {text : String}
    (h : d.read p p.text = .ok text) : d.HoldsFile p text := by
  unfold Disk.read at h
  rcases e : d.find p p.text with fault | here
  · rw [e] at h
    cases h
  · rw [e, ok_bind] at h
    have place := eq_place_of_find e
    subst place
    split at h
    · next n =>
      cases h
      exact ⟨e, n⟩
    · cases h
    · cases h

theorem HoldsFile.ne_nil {d : Disk} {p : Path} {text : String} (h : d.HoldsFile p text) :
    p.parts ≠ [] := by
  intro none
  have start : p.place.names = [] := by
    rw [Path.place, none]
    rfl
  have here := h.2
  rw [node?, if_pos start] at here
  cases here

theorem HoldsFile.fits {d : Disk} {p : Path} {text : String} (h : d.HoldsFile p text) :
    p.text.nameSize ≤ pathLimit := by
  have found := h.1
  unfold find at found
  split at found
  · cases found
  · split at found
    · cases found
    · split at found
      · cases found
      · next short => exact Nat.not_lt.1 short

/-- A write puts the file at the place of its path, where no folder was. -/
theorem write_eq {d d' : Disk} {p : Path} {shown : Text} {text : String}
    (h : d.write p shown text = .ok d') :
    d.find p shown = .ok p.place ∧ d.node? p.place ≠ some .folder ∧
      d' = d.put p.place (.file text) := by
  unfold write at h
  rcases e : d.find p shown with fault | here
  · rw [e] at h
    cases h
  · rw [e, ok_bind] at h
    have place := eq_place_of_find e
    subst place
    split at h
    · cases h
    · next free =>
      cases h
      exact ⟨rfl, free, rfl⟩

theorem write_ok {d d' : Disk} {p : Path} {text : String} (h : d.write p p.text text = .ok d') :
    d'.HoldsFile p text := by
  obtain ⟨found, free, rfl⟩ := write_eq h
  exact ⟨find_put found free _, node?_put_self free _⟩

/-- A path leads to a place where a file can be written: the folders on the way are there, and it is
no folder itself. -/
def CanWrite (d : Disk) (p : Path) : Prop :=
  d.find p p.text = .ok p.place ∧ d.node? p.place ≠ some .folder

theorem exists_write {d : Disk} {p : Path} {shown : Text} (found : d.find p shown = .ok p.place)
    (free : d.node? p.place ≠ some .folder) (text : String) :
    ∃ d', d.write p shown text = .ok d' := by
  refine ⟨d.put p.place (.file text), ?_⟩
  unfold write
  rw [found, ok_bind]
  split
  · next folder => exact absurd folder free
  · rfl

theorem exists_write_iff {d : Disk} {p : Path} (text : String) :
    (∃ d', d.write p p.text text = .ok d') ↔ d.CanWrite p := by
  constructor
  · rintro ⟨d', written⟩
    obtain ⟨found, free, -⟩ := write_eq written
    exact ⟨found, free⟩
  · rintro ⟨found, free⟩
    exact exists_write found free text

/-- A text names a place where a file can be written: it does not end in a slash, the folders on the
way are there, and no folder is at the place. -/
structure CanOverwrite (d : Disk) (t : Text) : Prop where
  some : t ≠ []
  noSlash : t.getLast?.any Path.isSlash = false
  found : d.find (.verbatim t) t = .ok (Path.verbatim t).place
  free : d.node? (Path.verbatim t).place ≠ Option.some .folder

theorem overwriteAt_eq {d : Disk} {t : Text} (some : t ≠ [])
    (noSlash : t.getLast?.any Path.isSlash = false) (content : String) :
    d.overwriteAt t content = d.write (.verbatim t) t content := by
  unfold overwriteAt
  rw [if_neg (by rwa [List.isEmpty_iff]), if_neg (by rw [noSlash]; exact Bool.false_ne_true)]

theorem exists_overwriteAt_iff {d : Disk} {t : Text} (content : String) :
    (∃ d', d.overwriteAt t content = .ok d') ↔ d.CanOverwrite t := by
  constructor
  · rintro ⟨d', written⟩
    by_cases none : t = []
    · rw [overwriteAt, if_pos (List.isEmpty_iff.2 none)] at written
      cases written
    · by_cases slash : t.getLast?.any Path.isSlash = true
      · rw [overwriteAt, if_neg (by rwa [List.isEmpty_iff]), if_pos slash] at written
        rcases e : d.find (folderBefore t) t with fault | here <;>
        · rw [e] at written
          cases written
      · rw [Bool.not_eq_true] at slash
        rw [overwriteAt_eq none slash] at written
        obtain ⟨found, free, -⟩ := write_eq written
        exact ⟨none, slash, found, free⟩
  · rintro ⟨some, noSlash, found, free⟩
    rw [overwriteAt_eq some noSlash]
    exact exists_write found free content

/-- What has been written is read by the same text. -/
theorem readAt_of_overwriteAt {d d' : Disk} {t : Text} {content : String}
    (h : d.overwriteAt t content = .ok d') : d'.readAt t = .ok content := by
  obtain ⟨some, noSlash, -, -⟩ := (exists_overwriteAt_iff content).1 ⟨d', h⟩
  rw [overwriteAt_eq some noSlash] at h
  obtain ⟨found, free, rfl⟩ := write_eq h
  rw [readAt, if_neg (by rwa [List.isEmpty_iff]), Disk.read, find_put found free, ok_bind,
    node?_put_self free]
  rfl

theorem draftPlace_ok {d : Disk} {p : Path} {here : Place} (h : d.draftPlace p = .ok here) :
    d.find p p.text = .ok here := by
  unfold draftPlace at h
  split at h
  · cases h
  · cases h
  · cases h
  · next e =>
    split at h
    · cases h
    · cases h
      exact e

/-- A path leads to a place where a file can be put: it ends in a name, the folders on the way are
there, a draft can be beside the place, and there is no folder at it. -/
structure CanReplace (d : Disk) (p : Path) : Prop where
  draft : d.draftPlace p = .ok p.place
  free : d.node? p.place ≠ some .folder
  named : p.parts ≠ [] ∧ p.name ≠ ".."

theorem replace_eq {d d' : Disk} {p : Path} {text : String} (h : d.replace p text = .ok d') :
    d.CanReplace p ∧ d' = d.put p.place (.file text) := by
  unfold replace at h
  rcases e : d.draftPlace p with fault | here
  · rw [e] at h
    cases h
  · rw [e] at h
    have place := eq_place_of_find (draftPlace_ok e)
    subst place
    rw [ok_bind] at h
    by_cases busy : p.parts = [] ∨ p.name = ".."
    · rw [if_pos busy] at h
      cases h
    · rw [if_neg busy] at h
      split at h
      · cases h
      · next free =>
        cases h
        exact ⟨⟨e, free, not_or.1 busy⟩, rfl⟩

theorem exists_replace_iff {d : Disk} {p : Path} (text : String) :
    (∃ d', d.replace p text = .ok d') ↔ d.CanReplace p := by
  constructor
  · rintro ⟨d', replaced⟩
    exact (replace_eq replaced).1
  · rintro ⟨draft, free, named⟩
    refine ⟨d.put p.place (.file text), ?_⟩
    unfold replace
    rw [draft, ok_bind, if_neg (not_or.2 named)]
    split
    · next folder => exact absurd folder free
    · rfl

theorem replace_ok {d d' : Disk} {p : Path} {text : String} (h : d.replace p text = .ok d') :
    d'.HoldsFile p text ∧ ∀ other ≠ p.place, d'.node? other = d.node? other := by
  obtain ⟨⟨draft, free, -⟩, rfl⟩ := replace_eq h
  exact ⟨⟨find_put (draftPlace_ok draft) free _, node?_put_self free _⟩,
    fun other ne => node?_put_other free _ ne⟩

/-! ## Folders -/

/-- A disk on which some folders have been made where nothing was. -/
def Grows (d d' : Disk) : Prop :=
  ∀ here, d'.node? here = d.node? here ∨ d.node? here = none ∧ d'.node? here = some .folder

instance : IsPreorder Disk Grows where
  refl _ _ := .inl rfl
  trans a b c ab bc here := by
    rcases bc here with e | ⟨none, folder⟩
    · rw [e]
      exact ab here
    · rcases ab here with e | ⟨_, folder'⟩
      · exact .inr ⟨e ▸ none, folder⟩
      · rw [folder'] at none
        cases none

theorem Grows.file {d d' : Disk} (h : Grows d d') {here : Place} {text : String} :
    d'.node? here = some (.file text) ↔ d.node? here = some (.file text) := by
  rcases h here with e | ⟨none, folder⟩
  · rw [e]
  · rw [none, folder]
    constructor
    · intro e
      cases e
    · intro e
      cases e

theorem makeFolder_grows {d d' : Disk} {p : Path} (h : d.makeFolder p = .ok d') : Grows d d' := by
  unfold makeFolder at h
  rcases e : d.find p p.text with fault | there
  · rw [e] at h
    cases h
  · rw [e, ok_bind] at h
    split at h
    · cases h
    · next free =>
      cases h
      intro here
      have notFolder : d.node? there ≠ some .folder := by
        rw [free]
        exact (Option.some_ne_none _).symm
      by_cases ne : here = there
      · rw [ne]
        exact .inr ⟨free, node?_put_self notFolder _⟩
      · exact .inl (node?_put_other notFolder _ ne)

/-- A disk on which some folders have been made where nothing was, but none at a place. -/
structure GrowsBeside (here : Place) (d d' : Disk) : Prop where
  grows : d.Grows d'
  same : d'.node? here = d.node? here

instance (here : Place) : IsPreorder Disk (GrowsBeside here) where
  refl _ := ⟨refl_of Grows _, rfl⟩
  trans _ _ _ ab bc := ⟨trans_of Grows ab.grows bc.grows, bc.same.trans ab.same⟩

theorem makeFolder_beside {d d' : Disk} {p : Path} {here : Place} (apart : p.place ≠ here)
    (h : d.makeFolder p = .ok d') : GrowsBeside here d d' := by
  refine ⟨makeFolder_grows h, ?_⟩
  unfold makeFolder at h
  rcases e : d.find p p.text with fault | there
  · rw [e] at h
    cases h
  · rw [e, ok_bind] at h
    split at h
    · cases h
    · next free =>
      cases h
      have notFolder : d.node? there ≠ some .folder := by
        rw [free]
        exact (Option.some_ne_none _).symm
      rw [← eq_place_of_find e] at apart
      exact node?_put_other notFolder _ apart.symm

section Making

variable {R : Disk → Disk → Prop} [IsPreorder Disk R]

theorem makeIfMissing_within {p : Path} (h : ∀ d d', d.makeFolder p = .ok d' → R d d') (d : Disk) :
    R d (makeIfMissing p d).2 := by
  unfold makeIfMissing
  rcases e : d.makeFolder p with fault | made
  · rcases d.isFolder p with fault' | isThere
    · exact refl_of R d
    · exact refl_of R d
  · exact h d made e

theorem makeAll_within {slashes : Nat} {parts : List Text}
    (h : ∀ before, before <:+ parts →
      ∀ d d', makeFolder d ⟨slashes, before.reverse⟩ = .ok d' → R d d') (d : Disk) :
    R d (makeAll slashes parts d).2 := by
  induction parts generalizing d with
  | nil => exact makeIfMissing_within (h [] (List.suffix_refl _)) d
  | cons last before ih =>
    have whole := h (last :: before) (List.suffix_refl _)
    have earlier := ih fun parts hparts => h parts (hparts.trans (List.suffix_cons _ _))
    rw [makeAll]
    dsimp only
    split
    · change R d (match makeAll slashes before d with
        | (r, t) => ExceptT.bindCont (fun _ => makeIfMissing _) r t).2
      have first := earlier d
      rcases e : makeAll slashes before d with ⟨fault | _, d'⟩
      · rw [e] at first
        exact first
      · rw [e] at first
        exact trans_of R first (makeIfMissing_within whole d')
    · exact makeIfMissing_within whole d

end Making

theorem makeFolders_grows (p : Path) (d : Disk) : Grows d (makeFolders p d).2 :=
  makeAll_within (fun _ _ _ _ => makeFolder_grows) d

theorem makeFolders_beside {p : Path} (plain : p.IsPlain) (d : Disk) :
    GrowsBeside p.place d (makeFolders p.parent d).2 := by
  refine makeAll_within (fun before suffix d d' h => ?_) d
  have onTheWay : before.reverse <+: p.parts.dropLast := by
    rw [← List.reverse_suffix, List.reverse_reverse]
    exact suffix
  exact makeFolder_beside (plain.apart _ (List.mem_inits _ _ |>.2 onTheWay)) h

/-! ## What is still there -/

/-- A way can still be walked where all folders are still there. -/
theorem walk_of_folders {d d' : Disk}
    (folders : ∀ q, d.node? q = some .folder → d'.node? q = some .folder) {parts : List Text}
    {here there : Place} (h : d.walk here parts = .ok there) : d'.walk here parts = .ok there := by
  induction parts generalizing here with
  | nil => exact h
  | cons part rest ih =>
    rw [walk] at h ⊢
    split at h
    · cases h
    · cases h
    · next folder =>
      rw [folders here folder]
      split at h
      · cases h
      · next fits => exact (if_neg fits).trans (ih h)

/-- A disk on which all folders are still there, and at a place the same file or none as before. -/
structure Spares (here : Place) (d d' : Disk) : Prop where
  folders : ∀ q, d.node? q = some .folder → d'.node? q = some .folder
  file : ∀ text, d'.node? here = some (.file text) ↔ d.node? here = some (.file text)

instance (here : Place) : IsPreorder Disk (Spares here) where
  refl _ := ⟨fun _ folder => folder, fun _ => .rfl⟩
  trans _ _ _ ab bc := ⟨fun q folder => bc.folders q (ab.folders q folder),
    fun text => (bc.file text).trans (ab.file text)⟩

theorem Grows.spares {d d' : Disk} (grows : d.Grows d') (here : Place) : d.Spares here d' where
  folders q folder := by
    rcases grows q with e | ⟨none, -⟩
    · rw [e, folder]
    · rw [folder] at none
      cases none
  file _ := grows.file

/-- What is put where no folder is spares every other place. -/
theorem put_spares {d : Disk} {there here : Place} (free : d.node? there ≠ some .folder)
    (node : Node) (apart : there ≠ here) : d.Spares here (d.put there node) := by
  refine ⟨fun q folder => ?_, fun text => ?_⟩
  · have ne : q ≠ there := by
      rintro rfl
      exact free folder
    rw [node?_put_other free _ ne, folder]
  · rw [node?_put_other free _ apart.symm]

theorem write_spares {d d' : Disk} {p : Path} {shown : Text} {text : String} {here : Place}
    (apart : p.place ≠ here) (h : d.write p shown text = .ok d') : d.Spares here d' := by
  obtain ⟨-, free, rfl⟩ := write_eq h
  exact put_spares free _ apart

theorem replace_spares {d d' : Disk} {p : Path} {text : String} {here : Place}
    (apart : p.place ≠ here) (h : d.replace p text = .ok d') : d.Spares here d' := by
  obtain ⟨⟨-, free, -⟩, rfl⟩ := replace_eq h
  exact put_spares free _ apart

/-- Lines are written in one step, and what is written of them is the lines before the first that
cannot be. -/
theorem writeLines_keeps {R : Disk → Disk → Prop} [IsPreorder Disk R] {p : Path} {shown : Text}
    {lines : List Text} (written : ∀ d d', d.write p shown ((Text.toString? (lines.takeWhile
      fun line => line.contentFault?.isNone).flatten).getD "") = .ok d' → R d d') (d : Disk) :
    R d (writeLines p shown lines d).2 := by
  unfold writeLines changing
  simp only [bind, ExceptT.bind, ExceptT.mk, StateT.bind]
  cases change : d.write p shown ((Text.toString? (lines.takeWhile fun line =>
    line.contentFault?.isNone).flatten).getD "") with
  | error fault => exact refl_of R d
  | ok d' =>
    have kept := written d d' change
    cases faulty : lines.findSome? Text.contentFault? <;> exact kept

theorem HoldsFile.spared {d d' : Disk} {p : Path} {text : String} (h : d.HoldsFile p text)
    (spares : d.Spares p.place d') : d'.HoldsFile p text :=
  ⟨find_of_walk h.1 (walk_of_folders spares.folders (find_ok h.1)), (spares.file text).2 h.2⟩

theorem HoldsFile.grows {d d' : Disk} {p : Path} {text : String} (h : d.HoldsFile p text)
    (grows : d.Grows d') : d'.HoldsFile p text := h.spared (grows.spares p.place)

theorem walk_ne_longName {d : Disk} {parts : List Text}
    (fits : ∀ part ∈ parts, part.nameSize ≤ nameLimit) {here : Place} :
    d.walk here parts ≠ .error .longName := by
  induction parts generalizing here with
  | nil =>
    intro h
    cases h
  | cons part rest ih =>
    have short : ¬nameLimit < part.nameSize := Nat.not_lt.2 (fits part List.mem_cons_self)
    rw [walk]
    split
    · intro h
      cases h
    · intro h
      cases h
    · rw [if_neg short]
      exact ih fun part hpart => fits part (List.mem_cons_of_mem _ hpart)

/-- A path whose parts can be names is too long on all disks or on none. -/
theorem find_longName {d d' : Disk} {p : Path} {shown path : Text}
    (fits : ∀ part ∈ p.parts, part.nameSize ≤ nameLimit)
    (h : d.find p shown = .error (.longName path)) :
    d'.find p shown = .error (.longName path) := by
  unfold find at h ⊢
  split at h
  · cases h
  · split at h
    · cases h
    · next plain =>
      rw [if_neg plain]
      split at h
      · next long =>
        rw [if_pos long]
        exact h
      · split at h <;> cases h
        next walk => exact absurd walk (walk_ne_longName fits)

/-- Where nothing was found nothing is found later, if nothing has come to the place. -/
theorem at?_of_free {d d' : Disk} {p : Path} (fits : ∀ part ∈ p.parts, part.nameSize ≤ nameLimit)
    (h : d.at? p = .ok none) (free : d'.node? p.place = none) : d'.at? p = .ok none := by
  unfold at? at h ⊢
  split
  · next here found => rw [eq_place_of_find found, free]
  · next path long =>
    rw [find_longName fits long] at h
    cases h
  · rfl

end Disk
end IteratedDilemma
