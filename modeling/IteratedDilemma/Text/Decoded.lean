import IteratedDilemma.Text.Octets

/-! Octets read as a text. Octets that belong to no code point are replaced in one of two ways: by a
mark, where a text is wanted, or by halves of pairs, where the octets must not get lost. -/
namespace IteratedDilemma.Text
set_option autoImplicit false

/-- An octet that starts a code point: how many octets follow it, between which bounds the first of
them lies, and the highest bits of the code point. -/
structure Lead where
  count : Nat
  low : Nat
  high : Nat
  bits : Nat

namespace Lead

/-- The bounds leave out what could be said with fewer octets, the halves of pairs, and what lies
beyond the last code point. -/
def ofOctet? (octet : Nat) : Option Lead :=
  if octet < 0xc2 then none
  else if octet < 0xe0 then some ⟨1, 0x80, 0xbf, octet - 0xc0⟩
  else if octet < 0xf0 then
    some ⟨2, if octet = 0xe0 then 0xa0 else 0x80, if octet = 0xed then 0x9f else 0xbf, octet - 0xe0⟩
  else if octet < 0xf5 then
    some ⟨3, if octet = 0xf0 then 0x90 else 0x80, if octet = 0xf4 then 0x8f else 0xbf, octet - 0xf0⟩
  else none

/-- The octets that belong to a lead, as far as they are there. -/
def following (lead : Lead) : List Nat → List Nat
  | [] => []
  | second :: rest =>
    if lead.low ≤ second ∧ second ≤ lead.high then
      second :: (rest.take (lead.count - 1)).takeWhile fun octet => 0x80 ≤ octet && octet < 0xc0
    else []

/-- The code point of a lead and the octets after it, six bits in each. -/
def codePoint (lead : Lead) (following : List Nat) : CodePoint :=
  .ofNat (following.foldl (fun n octet => n * 64 + octet % 64) lead.bits)

end Lead

/-- The text of octets, with what stands for those that belong to no code point. -/
def ofOctets (stray : List Nat → Text) : List Nat → Text
  | [] => []
  | octet :: rest =>
    if octet < 0x80 then .ofNat octet :: ofOctets stray rest
    else
      match Lead.ofOctet? octet with
      | none => stray [octet] ++ ofOctets stray rest
      | some lead =>
        let following := lead.following rest
        let after := ofOctets stray (rest.drop following.length)
        if following.length = lead.count then lead.codePoint following :: after
        else stray (octet :: following) ++ after
termination_by octets => octets.length

/-! ## Names of files -/

/-- The octets of a name. A half that is allowed in it stands for one octet. -/
def nameOctets (t : Text) : List Nat :=
  t.flatMap fun c => if c.isHalf then [c.val % 0x100] else c.octets

/-- The half that stands for a stray octet in a name. -/
def strayHalf (octet : Nat) : CodePoint := .ofNat (0xdc00 + octet)

/-- A name as its octets show it. -/
def diskName (t : Text) : Text :=
  if t.any CodePoint.isHalf then ofOctets (fun stray => stray.map strayHalf) (nameOctets t) else t

/-! ## Octets by number -/

/-- The value of a hexadecimal digit. -/
def hexValue? (c : CodePoint) : Option Nat :=
  if '0'.toNat ≤ c.val ∧ c.val ≤ '9'.toNat then some (c.val - '0'.toNat)
  else if 'a'.toNat ≤ c.val ∧ c.val ≤ 'f'.toNat then some (c.val - 'a'.toNat + 10)
  else if 'A'.toNat ≤ c.val ∧ c.val ≤ 'F'.toNat then some (c.val - 'A'.toNat + 10)
  else none

/-- The octets of a text of single octets, in which two digits after a percent sign stand for
one. -/
def percentOctets : Text → List Nat
  | [] => []
  | c :: high :: low :: rest =>
    match if c = '%' then hexValue? high else none, hexValue? low with
    | some h, some l => (16 * h + l) :: percentOctets rest
    | _, _ => c.val :: percentOctets (high :: low :: rest)
  | c :: rest => c.val :: percentOctets rest

def isSingleOctet (c : CodePoint) : Bool := c.val < 0x80

/-- The text that a text with percent signs stands for. A mark replaces octets of no code point, and
code points of several octets stand for themselves. -/
def percentDecoded (t : Text) : Text :=
  (t.splitBy fun a b => isSingleOctet a == isSingleOctet b).flatMap fun run =>
    if run.all isSingleOctet then
      ofOctets (fun _ => [CodePoint.ofChar '\ufffd']) (percentOctets run)
    else run

end IteratedDilemma.Text
