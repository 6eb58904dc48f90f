import IteratedDilemma.Text.Basic

/-! Log entries: a level and a text. -/
namespace IteratedDilemma
set_option autoImplicit false

inductive Level where
  | debug
  | info
  | warning
  | error
deriving DecidableEq

namespace Level

def all : List Level := [debug, info, warning, error]

def word : Level → String
  | debug => "DEBUG"
  | info => "INFO"
  | warning => "WARNING"
  | error => "ERROR"

def ofWord? (t : Text) : Option Level :=
  all.find? fun level => level.word = t

/-- The greater, the more urgent. -/
def rank : Level → Nat
  | debug => 0
  | info => 1
  | warning => 2
  | error => 3

end Level

structure Entry where
  level : Level
  text : Text
deriving DecidableEq

/-- The entries of a level or above. -/
def Entry.atLeast (level : Level) (entries : List Entry) : List Entry :=
  entries.filter fun e => level.rank ≤ e.level.rank

end IteratedDilemma
