import IteratedDilemma.Fault
import IteratedDilemma.Number.IntegerText

/-! What a value of a document is read as: fields, items, a whole number, one of a set of words. -/
namespace IteratedDilemma.Json
set_option autoImplicit false

/-- The fields of an object. -/
def fields : Json → Except Fault Fields
  | object fields => .ok fields
  | value => .error (.lacks value.typeName "get")

/-- What a value is made of: the items of a list, the characters of a text, the names of the fields
of an object. -/
def items : Json → Except Fault (List Json)
  | list items => .ok items
  | text t => .ok (t.map fun c => text [c])
  | object fields => .ok (fields.map fun field => text field.1)
  | value => .error (.notIterable value.typeName)

/-- The two items of a pair. -/
def pair (value : Json) : Except Fault (Json × Json) :=
  match value.items with
  | .ok [first, second] => .ok (first, second)
  | .ok items => .error (.pairOf items.length)
  | .error _ => .error (.notPair value.typeName)

/-- The whole number that a value stands for. A fraction is cut off; a text is read as a numeral. -/
def whole : Json → Except Fault Int
  | bool b => .ok (if b then 1 else 0)
  | int n => .ok n
  | float (.infinite _) => .error .wholeOfInfinity
  | float x => match x.truncated? with
    | some n => .ok n
    | none => .error .wholeOfNotANumber
  | text t => (IntegerText.read t).mapError (.notWhole t)
  | value => .error (.notNumeric value.typeName)

/-- The whole number that a value is without any change. -/
def index (value : Json) : Except Fault Int :=
  match value.toInt? with
  | some n => .ok n
  | none => .error (.notAnIndex value.typeName)

/-- The value as a name under which something can be looked up, which a collection cannot be. -/
def asName (value : Json) : Except Fault Json :=
  match value with
  | list _ | object _ => .error (.unhashable value.typeName)
  | value => .ok value

/-- The value under a name that must be there. -/
def required (name : Text) : Json → Except Fault Json
  | object fields => match Fields.get? fields name with
    | some value => .ok value
    | none => .error (.missingField (.text name))
  | list _ => .error (.listBy "str")
  | text _ => .error .textByName
  | value => .error (.notSubscriptable value.typeName)

/-- Whether `name` is a part of a text. -/
def occurs (name : Text) : Text → Bool
  | [] => name.isEmpty
  | c :: rest => name.isPrefixOf (c :: rest) || occurs name rest

/-- Whether a value has a member of this name: a field, an item, or a part of a text. -/
def hasMember (name : Text) : Json → Except Fault Bool
  | .object fields => .ok (Json.Fields.get? fields name).isSome
  | .list items => .ok (items.any fun
      | .text t => t == name
      | _ => false)
  | .text t => .ok (occurs name t)
  | value => .error (.noMembers value.typeName)

/-- The member of a value under a name, if it has one. -/
def member? (name : Text) (value : Json) : Except Fault (Option Json) := do
  if ← hasMember name value then some <$> value.required name else return none

/-- The value of a text for which `find?` knows one; `fault` tells what any other value is not. -/
def word {α : Type} (find? : Text → Option α) (fault : Json → Fault) (value : Json) :
    Except Fault α :=
  match value with
  | text t => match find? t with
    | some a => .ok a
    | none => .error (fault value)
  | _ => .error (fault value)

end IteratedDilemma.Json
