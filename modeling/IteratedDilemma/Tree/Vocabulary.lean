import IteratedDilemma.Json.Equality
import IteratedDilemma.Tree.Document

/-! The five vocabularies of trees and their terms. A term of one vocabulary may be asked for in the
place of a term of another: moves and actions share words, the others do not. -/
namespace IteratedDilemma
set_option autoImplicit false

inductive Vocabulary where
  | move
  | action
  | matchMode
  | conditionKind
  | role
deriving DecidableEq

namespace Vocabulary

def all : List Vocabulary := [move, action, matchMode, conditionKind, role]

def name : Vocabulary → String
  | move => "Move"
  | action => "Action"
  | matchMode => "MatchMode"
  | conditionKind => "ConditionKind"
  | role => "ClauseRole"

/-- The vocabulary under a name, which must be there. -/
def ofName (name : Json) : Except Fault Vocabulary := do
  let key ← name.asName
  match all.find? fun v => key = .text v.name with
  | some v => return v
  | none => throw (.missingField name)

end Vocabulary

/-- A term of one of the vocabularies. -/
inductive Term where
  | move (m : Move)
  | action (a : Action)
  | matchMode (m : MatchMode)
  | conditionKind (k : KnownKind)
  | role (r : Role)
deriving DecidableEq

namespace Term

def vocabulary : Term → Vocabulary
  | move _ => .move
  | action _ => .action
  | matchMode _ => .matchMode
  | conditionKind _ => .conditionKind
  | role _ => .role

def word : Term → String
  | move m => m.word
  | action a => a.word
  | matchMode m => m.word
  | conditionKind k => k.name
  | role r => r.word

/-- The name of a term in its vocabulary: its word in capitals. -/
def name (t : Term) : Text := MatchMode.capitals t.word

/-- The name of a term among those of all vocabularies. -/
def fullName (t : Term) : Text := t.vocabulary.name ++ "." ++ t.name

/-- The term as messages show it. -/
def shown (t : Term) : Text := "<" ++ t.fullName ++ ": " ++ Text.quoted t.word ++ ">"

/-- The term of a vocabulary with this word. -/
def ofWord? (v : Vocabulary) (word : Text) : Option Term :=
  match v with
  | .move => (Move.ofWord? word).map move
  | .action => (Action.ofWord? word).map action
  | .matchMode => if word = "ALL" then some (matchMode .all)
    else if word = "ANY" then some (matchMode .any) else none
  | .conditionKind => (KnownKind.ofName? word).map conditionKind
  | .role => (Role.ofWord? word).map role

/-- The term that a value is by its very word. -/
def ofJson (v : Vocabulary) (value : Json) : Except Fault Term :=
  value.word (ofWord? v) fun other => .notAMember other.shown v.name

/-- The term of a vocabulary that a value is read as. Modes have several words, and each vocabulary
has its own refusal. -/
def read (v : Vocabulary) (value : Json) : Except Fault Term :=
  match v with
  | .move => (Move.ofJson value).map move
  | .action => (Action.ofJson value).map action
  | .matchMode => (MatchMode.ofJson value).map matchMode
  | .conditionKind => (KnownKind.ofJson value).map conditionKind
  | .role => (Role.ofJson value).map role

/-- What is said of a term that is none of a vocabulary. -/
def refusal (v : Vocabulary) (t : Term) : Fault :=
  match v with
  | .move => .unknownMove t.fullName
  | .action => .unknownAction t.fullName
  | .matchMode => .unknownMode t.fullName
  | .conditionKind | .role => .notAMember t.shown v.name

/-- A term in the place of one of a vocabulary. -/
def readAs (v : Vocabulary) (t : Term) : Except Fault Term :=
  if t.vocabulary = v then .ok t
  else
    match ofWord? v t.word with
    | some other => .ok other
    | none => .error (refusal v t)

/-- Every term is found by its word. -/
theorem ofWord?_word (t : Term) : ofWord? t.vocabulary t.word = some t := by
  cases t with
  | move m => simp [vocabulary, word, ofWord?]
  | action a => simp [vocabulary, word, ofWord?]
  | matchMode m => cases m <;> decide +kernel
  | conditionKind k => simp [vocabulary, word, ofWord?]
  | role r => simp [vocabulary, word, ofWord?]

end Term
end IteratedDilemma
