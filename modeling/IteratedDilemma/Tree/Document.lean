import IteratedDilemma.Journal
import IteratedDilemma.Json.Decoding

/-! Logic trees as documents. Two dialects of names are read, one is written: where both names of a
field are present the native one counts. -/
namespace IteratedDilemma
set_option autoImplicit false

open Json (Fields)

/-! ## Words -/

def Move.ofJson (value : Json) : Except Fault Move :=
  value.word ofWord? fun v => .unknownMove v.plain

def Move.toJson (m : Move) : Json := .text m.word

/-- The move as many rounds ago as a value says. -/
def History.nthOf (h : History) (n : Json) : Except Fault (Option Move) :=
  match n with
  | .bool b => .ok (h.nth? b.toNat)
  | .int n => .ok (h.nth? n)
  | .float x =>
    if x.isBelow 1 then .ok none
    else if x.isBelow h.length || x == .ofInt h.length || x == .notANumber then
      .error (.historyBy n.typeName)
    else .ok (some .cooperate)
  | _ => .error (.unordered "<" n.typeName "int")

namespace Action

def ofJson (value : Json) : Except Fault Action :=
  value.word ofWord? fun v => .unknownAction v.plain

def toJson (a : Action) : Json := .text a.word

/-- The move of a fixed action, asked of the action. -/
def toMove (a : Action) : Except Fault Move :=
  match a.move? with
  | some m => .ok m
  | none => .error .noFixedMove

end Action

def Role.ofJson (value : Json) : Except Fault Role :=
  value.word ofWord? fun v => .notAMember v.shown "ClauseRole"

/-- A mode of matching is read from the text of any value. -/
def MatchMode.ofJson (value : Json) : Except Fault MatchMode :=
  match ofWord? value.plain with
  | some mode => .ok mode
  | none => .error (.unknownMode value.plain)

def KnownKind.ofJson (value : Json) : Except Fault KnownKind :=
  value.word ofName? fun v => .notAMember v.shown "ConditionKind"

/-- Any value names a kind, by its text. -/
def Kind.ofJson (value : Json) : Kind := .ofName value.plain

/-! ## Conditions -/

/-- A fault of a type or a value, wrapped; any other as it is. -/
def Fault.wrapped (wrap : Fault → Fault) (f : Fault) : Fault :=
  if f.family = .type ∨ f.family.isValue then wrap f else f

namespace Condition

/-- A condition of its three parts. -/
def ofParts (kind target n : Json) : Except Fault Condition := do
  let target ← Move.ofJson target
  let n ← n.whole
  return ⟨.ofJson kind, n, target⟩

/-- The parts of a condition in its document: kind, target and `n`. A null `n` counts as 1. -/
def parts (fields : Fields) : Json × Json × Json :=
  let n := match fields.firstOf ["n", "n_value"] (.int 1) with
    | .null => .int 1
    | n => n
  (fields.firstOf ["kind", "type"] .null,
    fields.firstOf ["target", "value"] (.text "Betray"), n)

def ofJson (data : Json) : Except Fault Condition := do
  let fields ← data.fields
  let (kind, target, n) := parts fields
  (ofParts kind target n).mapError (.wrapped (.condition data.shown))

def toJson (c : Condition) : Json :=
  .object [("kind", .text c.kind.name), ("n", .int c.n), ("target", c.target.toJson)]

end Condition

/-! ## Clauses -/

namespace Clause

/-- The parts of a clause in its document: role, conditions, mode and action. -/
def parts (fields : Fields) : Json × Json × Json × Json :=
  (fields.firstOf ["role", "type"] .null, fields.firstOf ["conditions"] (.list []),
    fields.firstOf ["match_mode", "matchType"] (.text "ALL"),
    fields.firstOf ["action"] (.text "Cooperate"))

/-- A clause of its parts, read one after another. -/
def ofParts (role conditions mode action : Json) : Except Fault Clause := do
  let role ← Role.ofJson role
  let conditions ← (← conditions.items).mapM Condition.ofJson
  let mode ← MatchMode.ofJson mode
  let action ← Action.ofJson action
  return ⟨role, conditions, mode, action⟩

/-- A fault that is already one of a tree stays as it is. -/
def ofJson (data : Json) : Except Fault Clause := do
  let fields ← data.fields
  let (role, conditions, mode, action) := parts fields
  (ofParts role conditions mode action).mapError fun f =>
    if f.family = .tree then f else f.wrapped (.clause data.shown)

def toJson (c : Clause) : Json :=
  .object [("role", .text c.role.word), ("conditions", .list (c.conditions.map Condition.toJson)),
    ("match_mode", .text c.mode.word), ("action", c.action.toJson)]

end Clause

/-! ## Trees -/

/-- The clauses of a document: a list, or the field of an object that holds one. -/
def Chain.ofJson (data : Json) : Except Fault (List Clause) :=
  let listed := match data with
    | .object fields => Fields.firstOf fields ["clauses"] .null
    | data => data
  match listed with
  | .list items => items.mapM Clause.ofJson
  | value => .error (.notClauses value.typeName)

namespace LogicTree

/-- The tree of a chain that keeps the rules. -/
def ofClauses (clauses : List Clause) : Except Fault LogicTree :=
  match h : Chain.violations clauses with
  | [] => .ok ⟨clauses, h⟩
  | violations => .error (.brokenRules violations)

/-- The tree of a document. If it is not read strictly, clauses that cannot be reached are dropped
before the rules are checked. -/
def ofJson (strict : Bool) (data : Json) : Except Fault LogicTree := do
  let clauses ← Chain.ofJson data
  ofClauses (if strict then clauses else Chain.reachable clauses)

/-- What reading a document reports: how many clauses were dropped. -/
def notices (strict : Bool) (data : Json) : List Entry :=
  match Chain.ofJson data with
  | .error _ => []
  | .ok clauses =>
    let dropped := clauses.length - (Chain.reachable clauses).length
    if strict ∨ dropped = 0 then []
    else [⟨.warning, s!"Dropping {dropped} unreachable clause(s) after ELSE"⟩]

def toJson (t : LogicTree) : Json :=
  .object [("clauses", .list (t.clauses.map Clause.toJson))]

end LogicTree
end IteratedDilemma
