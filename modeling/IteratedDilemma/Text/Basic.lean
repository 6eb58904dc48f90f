/-! Texts as lists of code points. A code point is a character, or a half of a pair of 16-bit units
that stands alone: documents can name such halves, and no character is one. -/
namespace IteratedDilemma
set_option autoImplicit false

structure CodePoint where
  val : Nat
  bound : val < 0x110000
deriving DecidableEq

namespace CodePoint

theorem char_bound (c : Char) : c.toNat < 0x110000 := by
  have h : c.toNat.isValidChar := c.valid
  unfold Nat.isValidChar at h
  omega

def ofChar (c : Char) : CodePoint := ⟨c.toNat, char_bound c⟩

instance : Coe Char CodePoint := ⟨ofChar⟩

/-- The code point of a number. What lies beyond the last one is shown by the replacement
character. -/
def ofNat (n : Nat) : CodePoint :=
  if h : n < 0x110000 then ⟨n, h⟩ else ofChar '\ufffd'

/-- Whether a code point is a half of a pair. -/
def isHalf (c : CodePoint) : Bool := 0xd800 ≤ c.val && c.val < 0xe000

/-- The character of a code point, if it is one. -/
def char? (c : CodePoint) : Option Char :=
  if h : c.val.isValidChar then some (Char.ofNatAux c.val h) else none

@[simp] theorem char?_ofChar (c : Char) : (ofChar c).char? = some c := by
  have h : (ofChar c).val.isValidChar := c.valid
  rw [char?, dif_pos h]
  exact congrArg some (Char.ext (UInt32.toNat_inj.1 rfl))

end CodePoint

abbrev Text := List CodePoint

namespace Text

def ofChars (cs : List Char) : Text := cs.map CodePoint.ofChar

def ofString (s : String) : Text := ofChars s.toList

instance : Coe String Text := ⟨ofString⟩

/-- The characters of a text, if nothing else is in it. -/
def chars? : Text → Option (List Char)
  | [] => some []
  | c :: rest => do
    let first ← c.char?
    return first :: (← chars? rest)

/-- The text as a string, if it is made of characters only. -/
def toString? (t : Text) : Option String := t.chars?.map String.ofList

@[simp] theorem chars?_ofChars (cs : List Char) : (ofChars cs).chars? = some cs := by
  induction cs with
  | nil => rfl
  | cons c rest ih =>
    have : ofChars (c :: rest) = CodePoint.ofChar c :: ofChars rest := rfl
    simp [this, chars?, ih]

/-- A string read as a text can be read back. -/
@[simp] theorem toString?_ofString (s : String) : (ofString s).toString? = some s := by
  simp [toString?, ofString]

/-- The text as a string, in which the replacement character stands for lone halves. -/
def asString (t : Text) : String :=
  String.ofList (t.map fun c => c.char?.getD '\ufffd')

/-- One code point so many times. -/
def repeated (count : Nat) (c : CodePoint) : Text := List.replicate count c

/-- Texts joined, with another text between each two. -/
def joined (between : Text) (parts : List Text) : Text := between.intercalate parts

/-- Whether a text comes no later than another in the order of their code points. -/
def noLater : Text → Text → Bool
  | [], _ => true
  | _ :: _, [] => false
  | a :: s, b :: t => a.val < b.val || (a.val == b.val && noLater s t)

end Text
end IteratedDilemma
