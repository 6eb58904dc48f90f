import IteratedDilemma.Disk.Basic

/-! New folders and files as texts name them, made together with the folders before them. Main
statement: the folders before a path are the beginnings of its text (`isPrefix_of_mem_ancestors`). -/
namespace IteratedDilemma
set_option autoImplicit false

namespace Path

def isSlash (c : CodePoint) : Bool := c == CodePoint.ofChar '/'

/-- The folders before the path of a text, the outermost first; `before` is what comes ahead of the
text, backwards. -/
def ancestorsFrom (before : Text) : Text → List Text
  | [] => []
  | c :: rest =>
    let isEnd := isSlash c && before.head?.any (fun b => !isSlash b) && rest.any fun r => !isSlash r
    (if isEnd then [before.reverse] else []) ++ ancestorsFrom (c :: before) rest

/-- The folders before the path of a text, the outermost first. -/
def ancestors (t : Text) : List Text := ancestorsFrom [] t

theorem isPrefix_of_mem_ancestorsFrom {before t p : Text} (h : p ∈ ancestorsFrom before t) :
    p <+: before.reverse ++ t := by
  induction t generalizing before with
  | nil => simp [ancestorsFrom] at h
  | cons c rest ih =>
    rw [ancestorsFrom, List.mem_append] at h
    rcases h with h | h
    · have e : p = before.reverse := by
        split at h <;> simp_all
      rw [e]
      exact List.prefix_append _ _
    · have := ih h
      rwa [List.reverse_cons, List.append_assoc] at this

theorem isPrefix_of_mem_ancestors {t p : Text} (h : p ∈ ancestors t) : p <+: t :=
  isPrefix_of_mem_ancestorsFrom h

/-- A text without the slashes at its end. -/
def withoutEndSlashes (t : Text) : Text := (t.reverse.dropWhile isSlash).reverse

/-- What comes before the last slash of a text, without slashes at its end unless they are all. -/
def folderText (t : Text) : Text :=
  let before := (t.reverse.dropWhile fun c => !isSlash c).reverse
  let folder := withoutEndSlashes before
  if folder.isEmpty then before else folder

/-- Whether the last part of a path is a single dot. -/
def endsInDot (t : Text) : Bool :=
  (segments (withoutEndSlashes t)).getLast? == some "."

end Path

namespace Disk

/-- What the path of a text leads to. -/
def nodeAt? (d : Disk) (t : Text) : Option Node :=
  match d.find (.verbatim t) t with
  | .ok here => d.node? here
  | .error _ => none

/-- Makes the folder that a text names where nothing is. Slashes at the end do not count. -/
def makeFolderAt (d : Disk) (t : Text) : Except FileFault Disk := do
  if t.isEmpty then throw (.missing t)
  let p := Path.verbatim (Path.withoutEndSlashes t)
  let here ← d.find { p with slashes := Path.leadingSlashes t } t
  match d.node? here with
  | some _ => throw (.exists t)
  | none => return d.put here .folder

/-- Makes the folder that a text names. It may be there already if `isOld`. -/
def makeOneAt (isOld : Bool) (t : Text) : Work Unit := fun d =>
  match d.makeFolderAt t with
  | .ok d => (.ok (), d)
  | .error fault => (if isOld && d.nodeAt? t == some .folder then .ok () else .error fault, d)

/-- Makes folders one after another. All but the last may have come into being with those before
them, and a single dot stands for the folder that has just been made. -/
def makeChain (isOld isInside : Bool) : List Text → Work Unit
  | [] => return
  | t :: rest => fun d =>
    let (result, d) : Except FileFault Unit × Disk :=
      if isInside && Path.endsInDot t then (.ok (), d) else makeOneAt isOld t d
    match result, rest with
    | .ok (), _ | .error (.exists _), _ :: _ => makeChain isOld true rest d
    | .error fault, _ => (.error fault, d)

/-- Makes the folder that a text names and the folders before it, as far as they are missing. The
last of them may be there already if `isOld`. -/
def makeBranch (isOld : Bool) (t : Text) : Work Unit := fun d =>
  let absent := (Path.ancestors t).reverse.takeWhile fun p => (d.nodeAt? p).isNone
  makeChain isOld false (absent.reverse ++ [t]) d

/-- The folder of what a text with slashes at its end names. -/
def folderBefore (t : Text) : Path :=
  let p := Path.verbatim (Path.withoutEndSlashes t)
  ⟨Path.leadingSlashes t, p.parts.dropLast ++ [Text.ofString "."]⟩

/-- Writes the file that a text names, new or in place of another, in a folder that exists. Slashes
at the end ask for a folder, which no file is written in place of. -/
def overwriteAt (d : Disk) (t : Text) (content : String) : Except FileFault Disk :=
  if t.isEmpty then .error (.missing t)
  else if t.getLast?.any Path.isSlash then (d.find (folderBefore t) t).bind fun _ =>
    .error (.isFolder t)
  else d.write (.verbatim t) t content

/-- Writes the file that a text names, in a folder that is made if it is missing. -/
def writeAt (t text : Text) : Work Unit := do
  let folder := Path.folderText t
  if !folder.isEmpty then makeBranch true folder
  if t.isEmpty then throw (.missing t)
  writeLines (.verbatim t) t [text]

end Disk
end IteratedDilemma
