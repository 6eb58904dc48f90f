import IteratedDilemma.Json.Basic
import IteratedDilemma.Number.IntegerText
import IteratedDilemma.Text.Units

/-! Reading a JSON document. A refusal tells what was expected and where: a failure carries the rest
of the text from the offending place on, from which line and column follow. Collections may lie in
each other only so deep, and whole numbers have a greatest length. -/
namespace IteratedDilemma.Json
set_option autoImplicit false

/-- What is wrong with a document. -/
inductive Complaint where
  | value
  | fieldName
  | colon
  | comma
  | extraData
  | unterminatedText
  | controlCharacter
  | escape
  | numberedEscape
  | byteOrderMark
deriving DecidableEq

def Complaint.message : Complaint → String
  | value => "Expecting value"
  | fieldName => "Expecting property name enclosed in double quotes"
  | colon => "Expecting ':' delimiter"
  | comma => "Expecting ',' delimiter"
  | extraData => "Extra data"
  | unterminatedText => "Unterminated string starting at"
  | controlCharacter => "Invalid control character at"
  | escape => "Invalid \\escape"
  | numberedEscape => "Invalid \\uXXXX escape"
  | byteOrderMark => "Unexpected UTF-8 BOM (decode using utf-8-sig)"

/-- The two kinds of collection. -/
inductive Collection where
  | array
  | object
deriving DecidableEq

def Collection.word : Collection → String
  | array => "array"
  | object => "object"

/-- Why a document is not read. Lines and columns of a misplaced piece count from 1, offsets
from 0. -/
inductive ReadError where
  | misplaced (complaint : Complaint) (line column offset : Nat)
  | tooDeep (collection : Collection)
  | longNumeral (digits : Nat)
deriving DecidableEq

def ReadError.message : ReadError → String
  | misplaced complaint line column offset =>
    s!"{complaint.message}: line {line} column {column} (char {offset})"
  | tooDeep collection =>
    s!"maximum recursion depth exceeded while decoding a JSON {collection.word} from a unicode " ++
      "string"
  | longNumeral digits => IntegerText.tooLongMessage digits
namespace Grammar

/-- A complaint with the rest of the text from the place it is about, or a limit that is
exceeded. -/
inductive Failure where
  | misplaced (complaint : Complaint) (rest : List Char)
  | tooDeep (collection : Collection)
  | longNumeral (digits : Nat)

/-- A failure with its place in the whole text. -/
def Failure.located (whole : List Char) : Failure → ReadError
  | misplaced complaint rest =>
    let offset := whole.length - rest.length
    let before := whole.take offset
    .misplaced complaint (before.count '\n' + 1)
      ((before.reverse.takeWhile (· ≠ '\n')).length + 1) offset
  | tooDeep collection => .tooDeep collection
  | longNumeral digits => .longNumeral digits

/-- What a reader of a piece of the text gives: the piece and the text after it. -/
abbrev Reading (α : Type) := Except Failure (α × List Char)

/-- The blanks that may stand between tokens. -/
def isSpace (c : Char) : Bool :=
  c == ' ' || c == '\t' || c == '\n' || c == '\r'

def skipSpace (cs : List Char) : List Char :=
  cs.dropWhile isSpace

/-! ## Texts -/

/-- The value of a hexadecimal digit of either case. -/
def hexValue? (c : Char) : Option Nat :=
  if '0' ≤ c ∧ c ≤ '9' then some (c.toNat - 48)
  else if 'a' ≤ c ∧ c ≤ 'f' then some (c.toNat - 87)
  else if 'A' ≤ c ∧ c ≤ 'F' then some (c.toNat - 55)
  else none

/-- The 16-bit unit of four hexadecimal digits. -/
def unit? (a b c d : Char) : Option Nat := do
  return (((← hexValue? a) * 16 + (← hexValue? b)) * 16 + (← hexValue? c)) * 16 + (← hexValue? d)

/-- The character a short escape stands for. -/
def shortEscape? : Char → Option Char
  | '"' => some '"'
  | '\\' => some '\\'
  | '/' => some '/'
  | 'b' => some '\x08'
  | 'f' => some '\x0c'
  | 'n' => some '\n'
  | 'r' => some '\r'
  | 't' => some '\t'
  | _ => none

/-- More units in front of what a reading gives. -/
def pushUnits (us : List Nat) (r : Reading (List Nat)) : Reading (List Nat) :=
  r.map fun p => (us ++ p.1, p.2)

/-- The units of a text up to its closing quote. `start` is the text from the opening quote on. A
numbered escape must not be the last thing in the document. -/
def textBody (start : List Char) : List Char → Reading (List Nat)
  | [] => .error (.misplaced .unterminatedText start)
  | '"' :: rest => .ok ([], rest)
  | '\\' :: [] => .error (.misplaced .unterminatedText start)
  | '\\' :: 'u' :: a :: b :: c :: d :: rest =>
    if rest.isEmpty then .error (.misplaced .numberedEscape ('u' :: a :: b :: c :: d :: rest))
    else
      match unit? a b c d with
      | none => .error (.misplaced .numberedEscape ('u' :: a :: b :: c :: d :: rest))
      | some unit => pushUnits [unit] (textBody start rest)
  | '\\' :: c :: rest =>
    if c = 'u' then .error (.misplaced .numberedEscape (c :: rest))
    else
      match shortEscape? c with
      | none => .error (.misplaced .escape ('\\' :: c :: rest))
      | some plain => pushUnits (Text.units plain) (textBody start rest)
  | c :: rest =>
    if c.toNat < 0x20 then .error (.misplaced .controlCharacter (c :: rest))
    else pushUnits (Text.units c) (textBody start rest)

/-- A text from its opening quote on. -/
def quotedText (cs : List Char) : Reading Text :=
  (textBody cs (cs.drop 1)).map fun p => (Text.ofUnits p.1, p.2)

/-! ## Numbers -/

/-- The value of decimal digits. -/
def digitsValue (digits : List Char) : Nat :=
  digits.foldl (fun value c => value * 10 + (c.toNat - 48)) 0

/-- The digits at the front and the text after them. -/
def digits (cs : List Char) : List Char × List Char :=
  (cs.takeWhile Char.isDigit, cs.dropWhile Char.isDigit)

/-- The whole part: one zero, or digits that do not start with zero. -/
def wholePart? : List Char → Option (List Char × List Char)
  | '0' :: rest => some (['0'], rest)
  | c :: rest => if c.isDigit then some (digits (c :: rest)) else none
  | [] => none

/-- The digits after a point, if there are any. -/
def fraction? : List Char → Option (List Char × List Char)
  | '.' :: rest => if (digits rest).1.isEmpty then none else some (digits rest)
  | _ => none

/-- The exponent after `e` or `E`, if it has a digit. -/
def exponent? : List Char → Option (Int × List Char)
  | [] => none
  | c :: rest =>
    if c = 'e' ∨ c = 'E' then
      let (negative, rest) := match rest with
        | '-' :: rest => (true, rest)
        | '+' :: rest => (false, rest)
        | rest => (false, rest)
      let (ds, rest) := digits rest
      if ds.isEmpty then none
      else some (if negative then -(digitsValue ds : Int) else digitsValue ds, rest)
    else none

/-- A number without fraction and exponent. -/
def wholeNumber (negative : Bool) (digits : List Char) : Except Failure Json :=
  if IntegerText.digitLimit < digits.length then .error (.longNumeral digits.length)
  else
    let n : Int := digitsValue digits
    .ok (int (if negative then -n else n))

/-- A number without its sign. It is whole if it has neither fraction nor exponent. -/
def unsigned? (negative : Bool) (cs : List Char) : Option (Reading Json) := do
  let (whole, rest) ← wholePart? cs
  match fraction? rest, exponent? ((fraction? rest).map (·.2) |>.getD rest) with
  | none, none => some ((wholeNumber negative whole).map fun n => (n, rest))
  | some (places, rest), none =>
    some (.ok (float (.ofDecimal negative (digitsValue (whole ++ places)) (-places.length)), rest))
  | none, some (power, rest) =>
    some (.ok (float (.ofDecimal negative (digitsValue whole) power), rest))
  | some (places, _), some (power, rest) =>
    some (.ok (float (.ofDecimal negative (digitsValue (whole ++ places))
      (power - places.length)), rest))

/-- A number with its sign. -/
def number? : List Char → Option (Reading Json)
  | '-' :: rest => unsigned? true rest
  | cs => unsigned? false cs

/-! ## Values -/

/-- The words that stand for a value, and numbers. -/
def scalar (cs : List Char) : Reading Json :=
  match cs with
  | 'n' :: 'u' :: 'l' :: 'l' :: rest => .ok (null, rest)
  | 't' :: 'r' :: 'u' :: 'e' :: rest => .ok (bool true, rest)
  | 'f' :: 'a' :: 'l' :: 's' :: 'e' :: rest => .ok (bool false, rest)
  | 'N' :: 'a' :: 'N' :: rest => .ok (float .notANumber, rest)
  | 'I' :: 'n' :: 'f' :: 'i' :: 'n' :: 'i' :: 't' :: 'y' :: rest =>
    .ok (float (.infinite false), rest)
  | '-' :: 'I' :: 'n' :: 'f' :: 'i' :: 'n' :: 'i' :: 't' :: 'y' :: rest =>
    .ok (float (.infinite true), rest)
  | cs =>
    match number? cs with
    | some reading => reading
    | none => .error (.misplaced .value cs)

/-- The name of a field with the colon and the blanks up to its value. -/
def fieldName (cs : List Char) : Reading Text :=
  match cs with
  | '"' :: _ =>
    match quotedText cs with
    | .error f => .error f
    | .ok (name, rest) =>
      match skipSpace rest with
      | ':' :: rest => .ok (name, skipSpace rest)
      | rest => .error (.misplaced .colon rest)
  | cs => .error (.misplaced .fieldName cs)

mutual

/-- A value that starts at the first character. The first number bounds the calls inside each
other, `room` tells how deep further collections may lie in each other. -/
def value : Nat → (room : Nat) → List Char → Reading Json
  | 0, _, cs => .error (.misplaced .value cs)
  | fuel + 1, room, cs =>
    match cs with
    | '"' :: _ => (quotedText cs).map fun p => (text p.1, p.2)
    | '[' :: rest =>
      if room = 0 then .error (.tooDeep .array)
      else
        match skipSpace rest with
        | ']' :: rest => .ok (list [], rest)
        | rest => (items fuel (room - 1) rest).map fun p => (list p.1, p.2)
    | '\x7b' :: rest =>
      if room = 0 then .error (.tooDeep .object)
      else
        match skipSpace rest with
        | '\x7d' :: rest => .ok (object [], rest)
        | rest => (pairs fuel (room - 1) rest).map fun p => (object (Fields.ofPairs p.1), p.2)
    | cs => scalar cs

/-- The items of a list from the next one on, with the bracket that closes it. -/
def items : Nat → (room : Nat) → List Char → Reading (List Json)
  | 0, _, cs => .error (.misplaced .value cs)
  | fuel + 1, room, cs =>
    match value fuel room cs with
    | .error f => .error f
    | .ok (item, rest) =>
      match skipSpace rest with
      | ']' :: rest => .ok ([item], rest)
      | ',' :: rest => (items fuel room (skipSpace rest)).map fun p => (item :: p.1, p.2)
      | rest => .error (.misplaced .comma rest)

/-- The fields of an object from the next one on, with the brace that closes it. -/
def pairs : Nat → (room : Nat) → List Char → Reading (List (Text × Json))
  | 0, _, cs => .error (.misplaced .fieldName cs)
  | fuel + 1, room, cs =>
    match fieldName cs with
    | .error f => .error f
    | .ok (name, rest) =>
      match value fuel room rest with
      | .error f => .error f
      | .ok (field, rest) =>
        match skipSpace rest with
        | '\x7d' :: rest => .ok ([(name, field)], rest)
        | ',' :: rest =>
          (pairs fuel room (skipSpace rest)).map fun p => ((name, field) :: p.1, p.2)
        | rest => .error (.misplaced .comma rest)

end

/-- A document: one value with blanks around it, in which so many collections may lie in each
other. -/
def document (room : Nat) (cs : List Char) : Except Failure Json :=
  match cs with
  | '\ufeff' :: _ => .error (.misplaced .byteOrderMark cs)
  | cs =>
    match value (2 * cs.length + 2) room (skipSpace cs) with
    | .error f => .error f
    | .ok (v, rest) =>
      match skipSpace rest with
      | [] => .ok v
      | rest => .error (.misplaced .extraData rest)

end Grammar

/-- The value of a document, or what is wrong with it and where. So many collections may lie in each
other. -/
def read (room : Nat) (s : String) : Except ReadError Json :=
  (Grammar.document room s.toList).mapError fun f => f.located s.toList

end IteratedDilemma.Json
