import IteratedDilemma.Text.Blank
import IteratedDilemma.Text.DecimalDigit

/-! Whole numbers read from text: a sign, digits of any script with single underscores between
them, and blanks around. Only so many digits are read. -/
namespace IteratedDilemma.IntegerText
set_option autoImplicit false

/-- Why a text denotes no whole number. -/
inductive Failure where
  | malformed
  | tooLong (digits : Nat)
deriving DecidableEq

/-- The number of digits beyond which a numeral is neither read nor written. -/
def digitLimit : Nat := 4300

/-- The refusal of a numeral or, without a count of digits, of a number to be written. -/
def limitMessage (count : String) : String :=
  s!"Exceeds the limit ({digitLimit} digits) for integer string conversion" ++ count ++
    "; use sys.set_int_max_str_digits() to increase the limit"

def tooLongMessage (digits : Nat) : String :=
  limitMessage s!": value has {digits} digits"

/-- The blanks that may stand around a number: space, tabulator to carriage return, and the wide
ones. -/
def isMargin (c : CodePoint) : Bool :=
  c == ' ' || (9 ≤ c.val && c.val ≤ 13) || Text.isWideBlank c

/-- The digits at the front and the text after them, where an underscore must be followed by a
digit. -/
def digits? : Text → Option (List Nat × Text)
  | [] => some ([], [])
  | c :: rest =>
    match Text.decimalValue? c with
    | some d => (digits? rest).map fun (ds, after) => (d :: ds, after)
    | none =>
      if c ≠ '_' then some ([], c :: rest)
      else if (rest.head?.bind Text.decimalValue?).isSome then digits? rest
      else none

/-- The value of decimal digits. -/
def value (digits : List Nat) : Nat :=
  digits.foldl (fun n d => n * 10 + d) 0

/-- The value of a numeral without sign, which starts with a digit and may end in blanks. -/
def numeral (t : Text) : Except Failure Nat :=
  match if t.head? = some '_' then none else digits? t with
  | none => .error .malformed
  | some (digits, after) =>
    if digitLimit < digits.length then .error (.tooLong digits.length)
    else if digits.isEmpty || !after.all isMargin then .error .malformed
    else .ok (value digits)

/-- The whole number that a text denotes. -/
def read (t : Text) : Except Failure Int :=
  match t.dropWhile isMargin with
  | [] => .error .malformed
  | c :: rest =>
    if c = '-' then (numeral rest).map fun n => -(n : Int)
    else if c = '+' then (numeral rest).map Int.ofNat
    else (numeral (c :: rest)).map Int.ofNat

/-- Whether a number is short enough to be written out. -/
def isWritable (n : Int) : Bool := n.natAbs < Nat.pow 10 digitLimit

example : (read " +1_0\n").toOption = some 10 ∧ (read "-٤٢").toOption = some (-42) ∧
    (read "1__0").toOption = none ∧ (read "_1").toOption = none ∧ (read "").toOption = none := by
  decide +kernel

end IteratedDilemma.IntegerText
