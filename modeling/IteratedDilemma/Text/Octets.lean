import IteratedDilemma.Text.Quoted

/-! Texts as octets: one to four for a code point, and the halves of pairs that must not be among
them. -/
namespace IteratedDilemma
set_option autoImplicit false

/-- The octets of a code point: seven bits in one, or six bits in each but the first. -/
def CodePoint.octets (c : CodePoint) : List Nat :=
  let tail (shift : Nat) := 0x80 + c.val / shift % 64
  if c.val < 0x80 then [c.val]
  else if c.val < 0x800 then [0xc0 + c.val / 64, tail 1]
  else if c.val < 0x10000 then [0xe0 + c.val / 4096, tail 64, tail 1]
  else [0xf0 + c.val / 262144, tail 4096, tail 64, tail 1]

/-- A run of code points that have no octets: the first of them, and where they are. -/
structure EncodingFault where
  first : CodePoint
  start : Nat
  count : Nat
deriving DecidableEq

namespace EncodingFault

/-- One half is shown, of more the first and the last place. -/
def message (f : EncodingFault) : Text :=
  let which : Text := if f.count = 1 then
      "character '" ++ Text.quotedChar '\'' f.first ++ "' in position " ++
        Text.ofString (toString f.start)
    else s!"characters in position {f.start}-{f.start + f.count - 1}"
  "'utf-8' codec can't encode " ++ which ++ ": surrogates not allowed"

end EncodingFault

namespace Text

/-- The first half of a pair that is not allowed, with all halves that follow it at once. -/
def encodingFault? (isAllowed : CodePoint → Bool) (t : Text) : Option EncodingFault :=
  let isFine (c : CodePoint) : Bool := !c.isHalf || isAllowed c
  match t.dropWhile isFine with
  | [] => none
  | first :: rest =>
    some ⟨first, (t.takeWhile isFine).length, (rest.takeWhile CodePoint.isHalf).length + 1⟩

/-- What keeps a text from being written to a file. -/
def contentFault? : Text → Option EncodingFault :=
  encodingFault? fun _ => false

/-- What keeps a text from being the name of a file. Some halves stand for single octets. -/
def nameFault? : Text → Option EncodingFault :=
  encodingFault? fun c => 0xdc80 ≤ c.val && c.val < 0xdd00

/-- The number of octets of a name. -/
def nameSize : Text → Nat
  | [] => 0
  | c :: rest => (if c.isHalf then 1 else c.octets.length) + nameSize rest

end Text
end IteratedDilemma
