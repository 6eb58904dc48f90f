import IteratedDilemma.Number.Binary64
import IteratedDilemma.Text.Basic

/-! JSON documents as values. Whole numbers and floating-point numbers are kept apart, and an object
is the list of its fields in the order in which their names first appeared. -/
namespace IteratedDilemma
set_option autoImplicit false

/-- A JSON value. -/
inductive Json where
  | null
  | bool (b : Bool)
  | int (n : Int)
  | float (x : Binary64)
  | text (t : Text)
  | list (items : List Json)
  | object (fields : List (Text × Json))
deriving Inhabited

namespace Json

/-- The name of a value's type in messages. -/
def typeName : Json → String
  | null => "NoneType"
  | bool _ => "bool"
  | int _ => "int"
  | float _ => "float"
  | text _ => "str"
  | list _ => "list"
  | object _ => "dict"

/-- Whether a value counts as given: neither null, false, zero nor empty. -/
def isTruthy : Json → Bool
  | null => false
  | bool b => b
  | int n => n != 0
  | float x => !x.isZero
  | text t => !t.isEmpty
  | list items => !items.isEmpty
  | object fields => !fields.isEmpty

/-- A text as a value. -/
def ofOption : Option Text → Json
  | none => null
  | some t => text t

/-- The whole number that a value of a number type without fraction stands for: the truth values
count as 0 and 1. -/
def toInt? : Json → Option Int
  | bool b => some (if b then 1 else 0)
  | int n => some n
  | _ => none

/-- The whole number that a value of a number type equals. -/
def asWhole? : Json → Option Int
  | float x => x.whole?
  | value => value.toInt?

/-! ## Fields -/

/-- The fields of an object. -/
abbrev Fields := List (Text × Json)

namespace Fields

/-- The value under a name. -/
def get? (fields : Fields) (name : Text) : Option Json := fields.lookup name

/-- The value under the first of the names that is present at all, null included. -/
def firstOf? (fields : Fields) (names : List Text) : Option Json :=
  names.findSome? fields.get?

/-- The value under the first name present, or `default`. -/
def firstOf (fields : Fields) (names : List Text) (default : Json) : Json :=
  (fields.firstOf? names).getD default

/-- Sets a field. A name that is there keeps its place. -/
def put (fields : Fields) (name : Text) (value : Json) : Fields :=
  match fields with
  | [] => [(name, value)]
  | (n, v) :: rest => if n = name then (n, value) :: rest else (n, v) :: put rest name value

/-- Fields read one after another: a repeated name keeps its first place and its last value. -/
def ofPairs (pairs : List (Text × Json)) : Fields :=
  pairs.foldl (fun fields pair => fields.put pair.1 pair.2) []

theorem lookup_cons (n other : Text) (v : Json) (rest : Fields) :
    List.lookup other ((n, v) :: rest) = if other = n then some v else rest.lookup other := by
  rw [List.lookup_cons]
  by_cases h : other = n
  · simp [h]
  · rw [beq_eq_false_iff_ne.2 h, if_neg h]

/-- Setting a field changes what its own name finds and nothing else. -/
theorem get?_put (fields : Fields) (name other : Text) (value : Json) :
    (fields.put name value).get? other =
      if other = name then some value else fields.get? other := by
  induction fields with
  | nil => simp [put, get?, lookup_cons]
  | cons pair rest ih =>
    obtain ⟨n, v⟩ := pair
    by_cases hn : n = name
    · subst hn; by_cases ho : other = n <;> simp [put, get?, lookup_cons, ho]
    · simp only [get?] at ih
      simp only [put, get?, hn, if_false, lookup_cons, ih]
      grind

end Fields
end Json
end IteratedDilemma
