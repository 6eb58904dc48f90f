import IteratedDilemma.Number.Binary64

/-! The shortest decimal that reads back as a given floating-point number, and of those the
nearest to it. -/
namespace IteratedDilemma.Binary64
set_option autoImplicit false

/-- A decimal `coefficient · 10 ^ power`. -/
structure Decimal where
  coefficient : Nat
  power : Int
deriving DecidableEq

/-- The interval of reals that round to `significand · 2 ^ exponent`, and the value itself, all as
quotients over one denominator. The ends belong to it when the significand is even. -/
structure Rounding where
  low : Nat
  value : Nat
  high : Nat
  denominator : Nat
  closed : Bool

/-- Halfway to the two neighbours. Below a power of two the neighbour is only half as far, except
at the least exponent. -/
def rounding (significand : Nat) (exponent : Int) : Rounding :=
  let unit := Nat.pow 2 (exponent - 2).toNat
  let below := if significand = Nat.pow 2 52 ∧ leastExponent < exponent then 1 else 2
  { low := (4 * significand - below) * unit
    value := 4 * significand * unit
    high := (4 * significand + 2) * unit
    denominator := Nat.pow 2 (2 - exponent).toNat
    closed := significand % 2 = 0 }

/-- Whether `num / den` rounds to the number. -/
def Rounding.contains (r : Rounding) (num den : Nat) : Bool :=
  if r.closed then r.low * den ≤ num * r.denominator && num * r.denominator ≤ r.high * den
  else r.low * den < num * r.denominator && num * r.denominator < r.high * den

/-- The `k` with `10 ^ k ≤ num / den < 10 ^ (k + 1)`. -/
def decimalOrder (num den : Nat) : Int :=
  let k : Int := ((Nat.toDigits 10 num).length : Int) - (Nat.toDigits 10 den).length
  if num * Nat.pow 10 (-k).toNat < den * Nat.pow 10 k.toNat then k - 1 else k

/-- The two multiples of `10 ^ power` around the value, the nearer one first, of two equally near
ones the even. -/
def Rounding.neighbours (r : Rounding) (power : Int) : List Nat :=
  let num := r.value * Nat.pow 10 (-power).toNat
  let den := r.denominator * Nat.pow 10 power.toNat
  let q := num / den
  let nearest := roundedQuotient num den
  if nearest = q then [q, q + 1] else [q + 1, q]

/-- The nearest decimal on the grid of multiples of `10 ^ power` that reads back. -/
def Rounding.onGrid? (r : Rounding) (power : Int) : Option Decimal :=
  ((r.neighbours power).find? fun c =>
    r.contains (c * Nat.pow 10 power.toNat) (Nat.pow 10 (-power).toNat)).map fun c => ⟨c, power⟩

/-- The first of the grids with 1, 2, … 17 digits that holds a decimal that reads back. -/
def shortest (significand : Nat) (exponent : Int) : Decimal :=
  let r := rounding significand exponent
  let order := decimalOrder r.value r.denominator
  let found := (List.range 17).findSome? fun (digits : Nat) => r.onGrid? (order - digits)
  found.getD ⟨significand, exponent⟩

/-! ## Text -/

/-- Digits with a point after the first `whole` of them, zeros filled in on either side. A whole
number keeps one zero after the point. -/
def positional (digits : List Char) (whole : Int) : List Char :=
  if whole ≤ 0 then '0' :: '.' :: (List.replicate (-whole).toNat '0' ++ digits)
  else if digits.length ≤ whole then
    digits ++ List.replicate (whole.toNat - digits.length) '0' ++ ['.', '0']
  else digits.take whole.toNat ++ '.' :: digits.drop whole.toNat

/-- Digits with a point after the first, and a signed exponent of at least two digits. -/
def scientific (digits : List Char) (order : Int) : List Char :=
  let sign := if order < 0 then '-' else '+'
  let exponent := Nat.toDigits 10 order.natAbs
  let padded := if exponent.length < 2 then '0' :: exponent else exponent
  let mantissa := match digits with
    | first :: second :: rest => first :: '.' :: second :: rest
    | short => short
  mantissa ++ 'e' :: sign :: padded

/-- A number from `1e-4` to below `1e16` is written with its point in place, any other with an
exponent. -/
def unsignedText (significand : Nat) (exponent : Int) : List Char :=
  if significand = 0 then ['0', '.', '0']
  else
    let d := shortest significand exponent
    let digits := Nat.toDigits 10 d.coefficient
    let order := d.power + digits.length - 1
    let digits := (digits.reverse.dropWhile (· = '0')).reverse
    if -4 ≤ order ∧ order < 16 then positional digits (order + 1) else scientific digits order

/-- The names under which a format writes the numbers that are not finite. -/
structure SpecialNames where
  infinity : String
  notANumber : String

/-- The text of a number, given the names of the special ones. -/
def text (names : SpecialNames) : Binary64 → String
  | finite negative m e =>
    String.ofList (if negative then '-' :: unsignedText m e else unsignedText m e)
  | infinite negative => if negative then "-" ++ names.infinity else names.infinity
  | notANumber => names.notANumber

end IteratedDilemma.Binary64
