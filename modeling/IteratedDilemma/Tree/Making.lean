import IteratedDilemma.Tree.Document

/-! Conditions and clauses made of named parts. A part that is left out has its usual value, and
faults are those of the parts alone. -/
namespace IteratedDilemma
set_option autoImplicit false

namespace Condition

/-- A condition of named parts. Only its kind cannot be left out. -/
def made (data : Json) : Except Fault Condition := do
  let kind ← data.member? "kind"
  let target ← data.member? "target"
  let n ← data.member? "n"
  match kind with
  | none => throw (.lackingPart "Condition.__init__" "kind")
  | some kind => ofParts kind (target.getD (.text "Betray")) (n.getD (.int 1))

end Condition

namespace Clause

/-- The ways to make a clause: three have a word of their own, any other value stands for the role
itself. -/
inductive Maker where
  | opening
  | alternative
  | fallback
  | ofRole (role : Json)

def Maker.ofJson (value : Json) : Maker :=
  match value with
  | .text t =>
    if t = "if" then opening else if t = "elseif" then alternative
    else if t = "else" then fallback else ofRole value
  | value => ofRole value

/-- A clause of named parts. Its conditions are made first; a fallback that is made by its own word
drops them and has no mode. -/
def made (data : Json) : Except Fault Clause := do
  let maker := Maker.ofJson (← data.required "make")
  let fields ← data.fields
  let conditions ← (← (fields.firstOf ["conditions"] (.list [])).items).mapM Condition.made
  let action := fields.firstOf ["action"] (.text "Cooperate")
  let modeOf : Except Fault MatchMode :=
    MatchMode.ofJson (fields.firstOf ["match_mode"] (.text "ALL"))
  match maker with
  | .opening => return ⟨.opening, conditions, ← modeOf, ← Action.ofJson action⟩
  | .alternative => return ⟨.alternative, conditions, ← modeOf, ← Action.ofJson action⟩
  | .fallback =>
    match fields.get? "match_mode" with
    | some _ => throw (.surplusPart "Clause.else_" "match_mode")
    | none => return ⟨.fallback, [], .all, ← Action.ofJson action⟩
  | .ofRole role =>
    let role ← Role.ofJson role
    return ⟨role, conditions, ← modeOf, ← Action.ofJson action⟩

end Clause
end IteratedDilemma
