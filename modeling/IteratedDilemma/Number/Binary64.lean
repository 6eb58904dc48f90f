/-! Binary floating-point numbers of 64 bits as exact values, and rounding of a quotient of whole
numbers to the nearest of them. -/
namespace IteratedDilemma
set_option autoImplicit false

/-- A floating-point number: `±significand · 2 ^ exponent`, an infinity, or no number. The
significand has 53 bits, fewer only when the exponent is the least one, -1074. -/
inductive Binary64 where
  | finite (negative : Bool) (significand : Nat) (exponent : Int)
  | infinite (negative : Bool)
  | notANumber
deriving DecidableEq

namespace Binary64

def leastExponent : Int := -1074

/-- The greatest exponent: with 53 bits in front of it the value stays below `2 ^ 1024`. -/
def greatestExponent : Int := 971

/-- The whole number nearest to `num / den`, and the even one of two equally near. -/
def roundedQuotient (num den : Nat) : Nat :=
  let q := num / den
  let twice := 2 * (num % den)
  if twice < den ∨ twice = den ∧ q % 2 = 0 then q else q + 1

/-- The `k` with `2 ^ k ≤ num / den < 2 ^ (k + 1)`. -/
def binaryOrder (num den : Nat) : Int :=
  let k : Int := (num.log2 : Int) - den.log2
  if num * Nat.pow 2 (-k).toNat < den * Nat.pow 2 k.toNat then k - 1 else k

/-- The number nearest to `±num / den`, ties to the even significand. -/
def ofQuotient (negative : Bool) (num den : Nat) : Binary64 :=
  if num = 0 then finite negative 0 leastExponent
  else
    let e := max (binaryOrder num den - 52) leastExponent
    let m := roundedQuotient (num * Nat.pow 2 (-e).toNat) (den * Nat.pow 2 e.toNat)
    let (m, e) := if m = Nat.pow 2 53 then (Nat.pow 2 52, e + 1) else (m, e)
    if greatestExponent < e then infinite negative else finite negative m e

/-- The number nearest to `±coefficient · 10 ^ power`. Beyond the powers that can matter the answer
is an infinity or zero at once. -/
def ofDecimal (negative : Bool) (coefficient : Nat) (power : Int) : Binary64 :=
  if coefficient = 0 then finite negative 0 leastExponent
  else
    let order := power + (Nat.toDigits 10 coefficient).length
    if 400 < order then infinite negative
    else if order < -400 then finite negative 0 leastExponent
    else ofQuotient negative (coefficient * Nat.pow 10 power.toNat) (Nat.pow 10 (-power).toNat)

/-- The whole part, toward zero, of a finite number. -/
def truncated? : Binary64 → Option Int
  | finite negative m e =>
    let whole : Nat := m * Nat.pow 2 e.toNat / Nat.pow 2 (-e).toNat
    some (if negative then -(whole : Int) else whole)
  | _ => none

/-- The exact value of a finite number by its parts. -/
def exact (negative : Bool) (significand : Nat) (exponent : Int) : Rat :=
  let value := mkRat (significand * Nat.pow 2 exponent.toNat) (Nat.pow 2 (-exponent).toNat)
  if negative then -value else value

/-- The exact value of a finite number. -/
def toRat? : Binary64 → Option Rat
  | finite negative m e => some (exact negative m e)
  | _ => none

/-- The nearest floating-point number to a rational. -/
def ofRat (x : Rat) : Binary64 :=
  ofQuotient (x.num < 0) x.num.natAbs x.den

/-- The nearest floating-point number to a whole number. -/
def ofInt (n : Int) : Binary64 :=
  ofQuotient (n < 0) n.natAbs 1

/-- Whether a number lies below a whole number. -/
def isBelow (x : Binary64) (n : Int) : Bool :=
  match x with
  | infinite negative => negative
  | x => match x.toRat? with
    | some value => value < n
    | none => false

/-- The whole number that a number equals, if there is one. -/
def whole? (x : Binary64) : Option Int :=
  x.truncated?.filter fun n => x.toRat? == some n

/-- Whether a number is zero, of either sign. -/
def isZero : Binary64 → Bool
  | finite _ m _ => m == 0
  | _ => false

/-! ## Arithmetic -/

/-- The number nearest to a result, which has the given sign if it is zero. -/
def rounded (result : Rat) (negativeZero : Bool) : Binary64 :=
  if result = 0 then finite negativeZero 0 leastExponent else ofRat result

/-- The rounded sum. Of zeros only two negative ones make a negative zero. -/
def add : Binary64 → Binary64 → Binary64
  | notANumber, _ | _, notANumber => notANumber
  | infinite a, infinite b => if a = b then infinite a else notANumber
  | infinite a, finite _ _ _ | finite _ _ _, infinite a => infinite a
  | finite a m e, finite b n f => rounded (exact a m e + exact b n f) (a && b)

/-- The rounded product. -/
def mul : Binary64 → Binary64 → Binary64
  | finite a m e, finite b n f => rounded (exact a m e * exact b n f) (a != b)
  | x, y =>
    if x = notANumber ∨ y = notANumber ∨ x.isZero ∨ y.isZero then notANumber
    else infinite (x.isBelow 0 != y.isBelow 0)

/-- The whole part of a half, downward. What is not finite has none. -/
def half : Binary64 → Binary64
  | finite negative m e =>
    match (finite negative m (e - 1)).toRat? with
    | some x => rounded x.floor negative
    | none => notANumber
  | _ => notANumber

example : ofDecimal false 1 (-1) = finite false 7205759403792794 (-56) := by decide +kernel
example : ofDecimal false 5 (-324) = finite false 1 (-1074) := by decide +kernel

end Binary64
end IteratedDilemma
