import IteratedDilemma.Json.Basic
import IteratedDilemma.Number.IntegerText
import IteratedDilemma.Number.Shortest
import IteratedDilemma.Text.Quoted
import IteratedDilemma.Text.Units

/-! The written form of a JSON value: one item or field a line, two blanks deeper at each level, and
only characters of ASCII. -/
namespace IteratedDilemma.Json
set_option autoImplicit false

/-- Floating-point numbers in documents. -/
def documentNames : Binary64.SpecialNames := ⟨"Infinity", "NaN"⟩

/-- A numbered escape of one 16-bit unit. -/
def unitEscape (unit : Nat) : List Char :=
  '\\' :: 'u' :: Text.hexDigits 4 unit

/-- One code point of a text. Five controls, the quote and the backslash have short escapes, other
controls and everything beyond ASCII are numbered unit by unit. -/
def writtenChar (c : CodePoint) : List Char :=
  if c = '"' then ['\\', '"']
  else if c = '\\' then ['\\', '\\']
  else if c = '\n' then ['\\', 'n']
  else if c = '\r' then ['\\', 'r']
  else if c = '\t' then ['\\', 't']
  else if c = '\x08' then ['\\', 'b']
  else if c = '\x0c' then ['\\', 'f']
  else if 0x20 ≤ c.val ∧ c.val < 0x7f then [Char.ofNat c.val]
  else (Text.units c).flatMap unitEscape

/-- A text between double quotes. -/
def writtenText (t : Text) : List Char :=
  '"' :: t.flatMap writtenChar ++ ['"']

/-- A new line at the given depth. -/
def lineBreak (depth : Nat) : List Char :=
  '\n' :: List.replicate (2 * depth) ' '

mutual

/-- A value written at a depth, from its first character to its last. -/
def written (depth : Nat) : Json → List Char
  | null => "null".toList
  | bool b => if b then "true".toList else "false".toList
  | int n => (toString n).toList
  | float x => (x.text documentNames).toList
  | text t => writtenText t
  | list [] => ['[', ']']
  | list (item :: rest) =>
    '[' :: lineBreak (depth + 1) ++ written (depth + 1) item ++ writtenItems (depth + 1) rest ++
      lineBreak depth ++ [']']
  | object [] => ['\x7b', '\x7d']
  | object ((name, value) :: rest) =>
    '\x7b' :: lineBreak (depth + 1) ++ writtenText name ++ ':' :: ' ' ::
      written (depth + 1) value ++ writtenFields (depth + 1) rest ++ lineBreak depth ++ ['\x7d']

/-- The items after the first, each with the comma before it. -/
def writtenItems (depth : Nat) : List Json → List Char
  | [] => []
  | item :: rest => ',' :: lineBreak depth ++ written depth item ++ writtenItems depth rest

/-- The fields after the first, each with the comma before it. -/
def writtenFields (depth : Nat) : List (Text × Json) → List Char
  | [] => []
  | (name, value) :: rest =>
    ',' :: lineBreak depth ++ writtenText name ++ ':' :: ' ' :: written depth value ++
      writtenFields depth rest

end

mutual

/-- Whether every whole number in a value is short enough to be written. -/
def isWritable : Json → Bool
  | int n => IntegerText.isWritable n
  | list items => areWritable items
  | object fields => haveWritable fields
  | _ => true

def areWritable : List Json → Bool
  | [] => true
  | item :: rest => isWritable item && areWritable rest

def haveWritable : List (Text × Json) → Bool
  | [] => true
  | (_, value) :: rest => isWritable value && haveWritable rest

end

mutual

/-- As much of a value at a depth as comes before its first whole number that is too long. The name
of a field is written before its value, and a number in a list together with what separates it from
the item before. -/
def begun (depth : Nat) : Json → List Char
  | list items => begunItems (depth + 1) ('[' :: lineBreak (depth + 1)) items
  | object fields => begunFields (depth + 1) ('\x7b' :: lineBreak (depth + 1)) fields
  | _ => []

/-- The items up to the number, with what comes before the first of them. -/
def begunItems (depth : Nat) (before : List Char) : List Json → List Char
  | [] => []
  | item :: rest =>
    if isWritable item then
      before ++ written depth item ++ begunItems depth (',' :: lineBreak depth) rest
    else
      match item with
      | int _ => []
      | item => before ++ begun depth item

/-- The fields up to the number, with what comes before the first of them. -/
def begunFields (depth : Nat) (before : List Char) : List (Text × Json) → List Char
  | [] => []
  | (name, value) :: rest =>
    before ++ writtenText name ++ ':' :: ' ' ::
      if isWritable value then
        written depth value ++ begunFields depth (',' :: lineBreak depth) rest
      else begun depth value

end

/-- The document of a value. -/
def write (value : Json) : String :=
  String.ofList (written 0 value)

/-- What is left of the document of a value that cannot be written to its end. -/
def writeBegun (value : Json) : String :=
  String.ofList (begun 0 value)

end IteratedDilemma.Json
