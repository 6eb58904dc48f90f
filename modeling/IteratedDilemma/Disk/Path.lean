import IteratedDilemma.Text.Decoded

/-! Paths of files and folders as texts name them, and the places on a disk to which they lead. -/
namespace IteratedDilemma
set_option autoImplicit false

/-- A path: the parts on the way from the working folder or, behind one or two slashes, from the
root of all folders. A part is a name or two dots, which lead back. -/
structure Path where
  slashes : Nat
  parts : List Text
deriving DecidableEq, Inhabited

namespace Path

/-- What stands between the slashes of a text. -/
def segments : Text → List Text
  | [] => [[]]
  | c :: rest =>
    if c = '/' then [] :: segments rest
    else
      match segments rest with
      | [] => [[c]]
      | first :: more => (c :: first) :: more

/-- The slashes at the start of a path. Exactly two are kept apart from any other number. -/
def leadingSlashes (t : Text) : Nat :=
  let count := (t.takeWhile fun c => c == CodePoint.ofChar '/').length
  if count ≤ 2 then count else 1

/-- The path of a text. Empty parts and single dots lead nowhere and are left out. -/
def ofText (t : Text) : Path where
  slashes := leadingSlashes t
  parts := (segments t).filter fun part => part ≠ [] ∧ part ≠ "."

/-- The path of a text with its single dots, and one for each empty part: a place is asked to be a
folder by a dot behind it. -/
def verbatim (t : Text) : Path where
  slashes := leadingSlashes t
  parts := (segments t).map fun part => if part.isEmpty then "." else part

/-- The text of a path; the working folder is a single dot. -/
def text (p : Path) : Text :=
  if p.slashes = 0 ∧ p.parts.isEmpty then "."
  else Text.repeated p.slashes '/' ++ Text.joined "/" p.parts

/-- The last part, or an empty text if there is none. -/
def name (p : Path) : Text :=
  p.parts.getLastD []

/-- The path without its last part. -/
def parent (p : Path) : Path :=
  { p with parts := p.parts.dropLast }

/-- A path that leads on from a folder. A path from the root stands for itself. -/
def append (folder p : Path) : Path :=
  if p.slashes = 0 then { folder with parts := folder.parts ++ p.parts } else p

/-- The home folders of users, by their names; nobody by name is the user of the program. -/
abbrev Homes := Text → Option Path

/-- The user whose home folder a first part stands for: the one named behind a `~`, or nobody by
name. -/
def user? : Text → Option Text
  | c :: name => if c = '~' then some name else none
  | [] => none

/-- A path in which a first part `~`, with the name of a user or without, stands for the path of a
home folder if there is one. -/
def expanded (p : Path) (home : Homes) : Path :=
  match p.slashes, p.parts with
  | 0, first :: rest => ((user? first).bind home).elim p fun folder => folder.append ⟨0, rest⟩
  | _, _ => p

end Path

/-- A place on a disk: the names on the way from the root, or from a folder so many levels above the
working folder. Names of the same octets are one name. -/
structure Place where
  fromRoot : Bool
  above : Nat
  names : List Text
deriving DecidableEq

namespace Place

/-- Where a path starts. -/
def start (p : Path) : Place := ⟨p.slashes ≠ 0, 0, []⟩

/-- The folder of a place. The root is its own. -/
def parent (here : Place) : Place :=
  match here.names with
  | [] => if here.fromRoot then here else { here with above := here.above + 1 }
  | _ => { here with names := here.names.dropLast }

/-- Where one part of a path leads. -/
def step (here : Place) (part : Text) : Place :=
  if part = "." then here
  else if part = ".." then here.parent
  else { here with names := here.names ++ [part.diskName] }

/-- Whether a place is `folder` or lies below it. -/
def isWithin (folder place : Place) : Bool :=
  folder.fromRoot == place.fromRoot && folder.above == place.above &&
    folder.names.isPrefixOf place.names

/-- Whether a place is in the working folder. -/
def isInside (here : Place) : Bool := !here.fromRoot && here.above == 0

/-- The names that lead from the root to the working folder, as far as their lengths matter. -/
def workingNames : List Text := [Text.repeated 3 '-', Text.repeated 11 '-']

/-- How many code points come before a name in a folder when the whole path is written out. -/
def textBefore (folder : Place) : Nat :=
  let above := if folder.fromRoot then [] else
    workingNames.take (workingNames.length - folder.above)
  (above ++ folder.names).foldl (fun count name => count + 1 + name.length) 1

/-- The shortest path to a place. -/
def path (here : Place) : Path :=
  ⟨if here.fromRoot then 1 else 0, List.replicate here.above (Text.ofString "..") ++ here.names⟩

end Place
end IteratedDilemma
