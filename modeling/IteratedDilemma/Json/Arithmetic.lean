import IteratedDilemma.Fault
import IteratedDilemma.Json.Equality

/-! Sums of values and their order. Truth values count as 0 and 1; a sum with a floating-point
number in it is one. Main statement: whole numbers have whole sums (`total_int`). -/
namespace IteratedDilemma.Json
set_option autoImplicit false

/-- The floating-point number nearest to a number. -/
def nearest? : Json → Option Binary64
  | float x => some x
  | value => value.toInt?.map .ofInt

/-- Whether a value is a whole number with no finite floating-point number near it. -/
def isTooLarge (value : Json) : Bool :=
  match value.toInt? with
  | some n => match Binary64.ofInt n with
    | .infinite _ => true
    | _ => false
  | none => false

/-- The sum of two numbers. -/
def plus (a b : Json) : Except Fault Json :=
  match a.toInt?, b.toInt? with
  | some m, some n => .ok (int (m + n))
  | _, _ =>
    match a.nearest?, b.nearest? with
    | some x, some y =>
      if a.isTooLarge || b.isTooLarge then .error .tooLargeForFloat else .ok (float (x.add y))
    | _, _ => .error (.notAddable a.typeName b.typeName)

/-- A sum with more values added to it, one after another. -/
def totalFrom (sum : Json) : List Json → Except Fault Json
  | [] => .ok sum
  | value :: rest =>
    match sum.plus value with
    | .ok sum => totalFrom sum rest
    | .error fault => .error fault

/-- The sum of values. -/
def total (values : List Json) : Except Fault Json := totalFrom (int 0) values

@[simp] theorem plus_int (m n : Int) : plus (int m) (int n) = .ok (int (m + n)) := rfl

theorem totalFrom_int (sum : Int) (ns : List Int) :
    totalFrom (int sum) (ns.map int) = .ok (int (ns.foldl (· + ·) sum)) := by
  induction ns generalizing sum with
  | nil => rfl
  | cons n ns ih => simp [totalFrom, ih]

theorem total_int (ns : List Int) :
    total (ns.map int) = .ok (int (ns.foldl (· + ·) 0)) :=
  totalFrom_int 0 ns

/-! ## Order -/

/-- What a finite number is worth; nothing else is worth anything. -/
def worth : Json → Rat
  | float x => x.toRat?.getD 0
  | value => value.toInt?.getD 0

/-- Whether two values can be told to come one before the other. -/
def areOrdered : Json → Json → Bool
  | text _, text _ => true
  | a, b => a.nearest?.isSome && b.nearest?.isSome

/-- Whether a value comes no later than another in the order of texts or of numbers. -/
def noLater : Json → Json → Bool
  | text s, text t => Text.noLater s t
  | a, b => a.worth ≤ b.worth

/-- Whether values already stand in their order, or strictly in the opposite one. -/
def areRun (values : List Json) : Bool :=
  let neighbours := values.zip values.tail
  neighbours.all (fun (a, b) => a.noLater b) || neighbours.all fun (a, b) => !a.noLater b

/-- The value that a new one is first compared with when it is to be put among others: the last of
them as long as they are in order, else the one in the middle of them in their order. -/
def firstCompared? (before : List Json) : Option Json :=
  if areRun before then before.getLast?
  else (before.mergeSort noLater)[before.length / 2]?

/-- Why values that are not all texts cannot be listed in their order: two of them have no order, or
the first of them is no text. -/
def listingFault (before : List Json) : List Json → Fault
  | [] => match (before.mergeSort noLater).head? with
    | some first => .notJoinable 0 first.typeName
    | none => .notJoinable 0 "NoneType"
  | value :: rest =>
    match firstCompared? before with
    | some other =>
      if before.all value.areOrdered then listingFault (before ++ [value]) rest
      else .unordered "<" value.typeName other.typeName
    | none => listingFault [value] rest

/-- The texts that values are, if nothing else is among them. -/
def texts? : List Json → Option (List Text)
  | [] => some []
  | text t :: rest => (texts? rest).map (t :: ·)
  | _ => none

end IteratedDilemma.Json
