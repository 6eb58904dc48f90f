import IteratedDilemma.Json.Diagnostic

/-! Tables as text: a line for each row, commas between the fields, and quotes only where a field
needs them. -/
namespace IteratedDilemma.Csv
set_option autoImplicit false

/-- Whether a code point can stand only between quotes. -/
def isSpecial (c : CodePoint) : Bool :=
  c == ',' || c == '"' || c == '\n'

/-- A quote inside of quotes is written twice. -/
def doubled : Text → Text
  | [] => []
  | c :: rest => if c = '"' then c :: c :: doubled rest else c :: doubled rest

def field (t : Text) : Text :=
  if t.any isSpecial then "\"" ++ doubled t ++ "\"" else t

/-- The fields of a row with the line feed that ends it. -/
def row : List Text → Text
  | [] => "\n"
  | [last] => field last ++ "\n"
  | first :: rest => field first ++ "," ++ row rest

/-- The lines of a table. -/
def table (rows : List (List Text)) : List Text := rows.map row

/-! ## Columns of any values

Values that are all numbers make a column of numbers. Whole numbers in it have a fixed size, either
with a sign or without. -/

/-- What stands for a value: nothing for null and for what is no number. -/
def cell : Json → Text
  | .null | .float .notANumber => []
  | value => value.plain

/-- The first whole number too large for the fixed size with a sign. -/
def signedBound : Int := 9223372036854775808

/-- The first whole number too large for the fixed size without a sign. -/
def unsignedBound : Int := 18446744073709551616

/-- Whether a value is a number of fixed size, with a sign or without, or missing. -/
def isNumber : Json → Bool
  | .int n => -signedBound ≤ n && n < unsignedBound
  | .null | .float _ => true
  | _ => false

/-- Whether a value is too large a number for a sign. -/
def isLarge : Json → Bool
  | .int n => signedBound ≤ n
  | _ => false

/-- Whether a value is a whole number below zero. -/
def isNegative : Json → Bool
  | .int n => n < 0
  | _ => false

/-- Whether values are taken for numbers, all of one size. -/
def areNumbers (values : List Json) : Bool :=
  values.all isNumber && !(values.any isLarge && values.any isNegative)

/-- Whether a value is missing or not whole. -/
def isFractional : Json → Bool
  | .null | .float _ => true
  | _ => false

/-- The cells of a column. Among numbers that are not all whole, each is written as a floating-point
number. -/
def column (values : List Json) : List Text :=
  let fractional := areNumbers values && values.any isFractional
  values.map fun value =>
    match value with
    | .int n => if fractional then cell (.float (.ofInt n)) else cell value
    | value => cell value

end IteratedDilemma.Csv
