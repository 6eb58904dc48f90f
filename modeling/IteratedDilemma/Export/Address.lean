import IteratedDilemma.Host.Basic
import IteratedDilemma.Text.Blank

/-! Paths that look like addresses of the net. A table is never written to one: what stands there is
fetched, and if that can be done the table is forgotten. -/
namespace IteratedDilemma.Address
set_option autoImplicit false

/-- The words before the colon of an address. -/
def schemes : List String :=
  ["file", "ftp", "git", "git+ssh", "gopher", "hdl", "http", "https", "imap", "mms", "nfs", "nntp",
    "prospero", "rsync", "rtsp", "rtsps", "rtspu", "sftp", "shttp", "sip", "sips", "snews", "svn",
    "svn+ssh", "tel", "telnet", "wais", "ws", "wss"]

def isLetter (c : CodePoint) : Bool :=
  ('a'.toNat ≤ c.val && c.val ≤ 'z'.toNat) || ('A'.toNat ≤ c.val && c.val ≤ 'Z'.toNat)

/-- Whether a code point can stand before the colon. -/
def isSchemeChar (c : CodePoint) : Bool :=
  isLetter c || ('0'.toNat ≤ c.val && c.val ≤ '9'.toNat) || c == '+' || c == '-' || c == '.'

/-- The small form of the letters `A` to `Z`. -/
def small (t : Text) : Text :=
  t.map fun c => if 'A'.toNat ≤ c.val ∧ c.val ≤ 'Z'.toNat then .ofNat (c.val + 32) else c

/-- What stands before the first colon, and what stands behind it. -/
def splitAtColon? (t : Text) : Option (Text × Text) :=
  let isOther (c : CodePoint) : Bool := c != ':'
  match t.dropWhile isOther with
  | [] => none
  | _ :: rest => some (t.takeWhile isOther, rest)

/-- Whether a text looks like an address: controls and blanks at its start count for nothing, nor do
tabulators and ends of lines anywhere. -/
def isAddress (t : Text) : Bool :=
  let isLineOrTab (c : CodePoint) : Bool := c == '\t' || c == '\n' || c == '\r'
  let bare := (t.dropWhile fun c => c.val ≤ 0x20).filter fun c => !isLineOrTab c
  match splitAtColon? bare with
  | some (scheme, _) =>
    (scheme.head?.any isLetter) && scheme.all isSchemeChar &&
      schemes.any fun known => small scheme = known
  | none => false

/-- A text up to its last number sign. -/
def withoutTag (t : Text) : Text :=
  let isOther (c : CodePoint) : Bool := c != '#'
  if t.contains '#' then ((t.reverse.dropWhile isOther).drop 1).reverse else t

/-- Fetches what stands at an address. No server can be named by the text of a path, which has no two
slashes in a row; a file on the own disk can be. -/
def fetch (t : Text) : Work Host Unit := do
  match splitAtColon? (withoutTag t.trimmed) with
  | none => pure ()
  | some (scheme, rest) =>
    let type := small scheme
    if type = "http" ∨ type = "https" then throw (.address .noServer)
    else if type = "ftp" then throw (.address .noFileServer)
    else if type = "file" then
      match (← get).disk.readAt rest.percentDecoded with
      | .ok _ => pure ()
      | .error .nullInPath => throw (.file .nullInPath)
      | .error (.unencodable fault) => throw (.file (.unencodable fault))
      | .error fault => throw (.address (.unreachable fault))
    else throw (.address (.unknownType type))

end IteratedDilemma.Address
