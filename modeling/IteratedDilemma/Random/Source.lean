import IteratedDilemma.Move
import IteratedDilemma.Random.Seeded

/-! Where random moves come from: a list of numbers taken round and round, or a seeded generator. A
source counts the numbers it has given. -/
namespace IteratedDilemma
set_option autoImplicit false

inductive RandomSource.Stream where
  | cycle (numbers : List Rat)
  | seeded (generator : Random.Seeded)

structure RandomSource where
  stream : RandomSource.Stream
  drawn : Nat

namespace RandomSource

def ofNumbers (numbers : List Rat) : RandomSource := ⟨.cycle numbers, 0⟩

def ofSeed (seed : Nat) : RandomSource := ⟨.seeded (.ofSeed seed), 0⟩

/-- The next number. -/
def draw (source : RandomSource) : Rat × RandomSource :=
  match source.stream with
  | .cycle numbers =>
    (numbers.getD (source.drawn % numbers.length) 0, { source with drawn := source.drawn + 1 })
  | .seeded g =>
    let (n, g) := g.next
    (mkRat n (Nat.pow 2 53), ⟨.seeded g, source.drawn + 1⟩)

@[simp] theorem draw_drawn (source : RandomSource) :
    source.draw.2.drawn = source.drawn + 1 := by
  unfold draw; split <;> rfl

/-- Cooperation in the lower half of the numbers, betrayal in the upper. -/
def move (source : RandomSource) : Move × RandomSource :=
  let (x, source) := source.draw
  (if x < 1 / 2 then .cooperate else .betray, source)

/-- So many random moves one after another. -/
def moves (source : RandomSource) : Nat → List Move × RandomSource
  | 0 => ([], source)
  | n + 1 =>
    let (m, source) := source.move
    let (rest, source) := source.moves n
    (m :: rest, source)

end RandomSource
end IteratedDilemma
