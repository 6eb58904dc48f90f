import IteratedDilemma.Json.Basic
import IteratedDilemma.Number.Shortest
import IteratedDilemma.Text.Quoted

/-! How a JSON value is shown in a message. -/
namespace IteratedDilemma.Json
set_option autoImplicit false

/-- Floating-point numbers in messages: the special ones in lower case. -/
def messageNames : Binary64.SpecialNames := ⟨"inf", "nan"⟩

mutual

/-- A value as part of a message: texts in quotes, collections on one line. -/
def shown : Json → Text
  | null => "None"
  | bool b => if b then "True" else "False"
  | int n => Text.ofString (toString n)
  | float x => x.text messageNames
  | text t => t.quoted
  | list items => "[" ++ Text.joined ", " (shownItems items) ++ "]"
  | object fields => "\x7b" ++ Text.joined ", " (shownFields fields) ++ "\x7d"

def shownItems : List Json → List Text
  | [] => []
  | item :: rest => shown item :: shownItems rest

def shownFields : List (Text × Json) → List Text
  | [] => []
  | (name, value) :: rest => (name.quoted ++ ": " ++ shown value) :: shownFields rest

end

/-- A value as a message of its own: a text stands for itself, without quotes. -/
def plain : Json → Text
  | text t => t
  | value => shown value

end IteratedDilemma.Json
