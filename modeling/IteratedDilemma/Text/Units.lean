import IteratedDilemma.Text.Basic

/-! Texts as 16-bit units: a code point beyond U+FFFF is a high half followed by a low half. -/
namespace IteratedDilemma.Text
set_option autoImplicit false

/-- The units of one code point. -/
def units (c : CodePoint) : List Nat :=
  if c.val < 0x10000 then [c.val]
  else [0xd800 + (c.val - 0x10000) / 0x400, 0xdc00 + (c.val - 0x10000) % 0x400]

/-- The code point of a high and a low half. -/
def ofHalves (high low : Nat) : CodePoint :=
  .ofNat (0x10000 + (high - 0xd800) * 0x400 + (low - 0xdc00))

def isHigh (unit : Nat) : Bool := 0xd800 ≤ unit && unit < 0xdc00

def isLow (unit : Nat) : Bool := 0xdc00 ≤ unit && unit < 0xe000

/-- The text of a list of units. A half without the other half stays by itself. -/
def ofUnits : List Nat → Text
  | [] => []
  | [unit] => [.ofNat unit]
  | unit :: next :: rest =>
    if isHigh unit && isLow next then ofHalves unit next :: ofUnits rest
    else .ofNat unit :: ofUnits (next :: rest)

end IteratedDilemma.Text
