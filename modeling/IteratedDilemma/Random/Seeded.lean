/-! A permuted congruential generator of 128 bits, whose start is spread from a seed of any size. Its
numbers are multiples of `2 ^ -53` below one. -/
namespace IteratedDilemma.Random
set_option autoImplicit false

abbrev Word := BitVec 32

/-! ## Spreading a seed -/

/-- The words of a number, least significant first; zero has one word. -/
def seedWords (n : Nat) : List Word :=
  if n < 4294967296 then [BitVec.ofNat 32 n]
  else BitVec.ofNat 32 n :: seedWords (n / 4294967296)
termination_by n
decreasing_by omega

/-- A multiplicative hash that goes on to another factor with every word. -/
structure Hash where
  factor : Word
  step : Word

def Hash.mix (h : Hash) (v : Word) : Word × Hash :=
  let next := h.factor * h.step
  let v := (v ^^^ h.factor) * next
  (v ^^^ (v >>> 16), { h with factor := next })

/-- Two words made into one. -/
def merged (x y : Word) : Word :=
  let r := x * 0xca01f9dd - y * 0x4973f715
  r ^^^ (r >>> 16)

/-- The four words over which a seed is spread. -/
abbrev Pool := List Word

/-- One word hashed into every place of the pool except `skipped`. -/
def stir (word : Word) (skipped : Option Nat) (place : Nat) : Pool → Hash → Pool × Hash
  | [], h => ([], h)
  | x :: rest, h =>
    if skipped = some place then
      let (rest, h) := stir word skipped (place + 1) rest h
      (x :: rest, h)
    else
      let (v, h) := h.mix word
      let (rest, h) := stir word skipped (place + 1) rest h
      (merged x v :: rest, h)

/-- Each place of the pool hashed into all others. -/
def crossed (p : Pool) (h : Hash) : Pool × Hash :=
  (List.range 4).foldl (fun (p, h) place => stir (p.getD place 0) (some place) 0 p h) (p, h)

/-- The pool of a seed: its first four words, crossed, and then every further word. -/
def pool (seed : Nat) : Pool :=
  let words := seedWords seed
  let start : Pool × Hash := (List.range 4).foldl
    (fun (p, h) place =>
      let (v, h) := h.mix (words.getD place 0)
      (p ++ [v], h))
    ([], ⟨0x43b0d7e5, 0x931e8875⟩)
  let (p, h) := crossed start.1 start.2
  ((words.drop 4).foldl (fun (p, h) word => stir word none 0 p h) (p, h)).1

/-- Eight words from the pool, taken round in order. -/
def spread (p : Pool) : List Word :=
  ((List.range 8).foldl
    (fun (ws, h) i =>
      let (v, h) := Hash.mix h (p.getD (i % 4) 0)
      (ws ++ [v], h))
    (([] : List Word), Hash.mk 0x8b51f9dd 0x58f38ded)).1

/-! ## The generator -/

/-- A linear congruential generator with the increment of its stream. -/
structure Seeded where
  state : BitVec 128
  increment : BitVec 128
deriving DecidableEq

namespace Seeded

def advance (g : Seeded) : Seeded :=
  { g with state := g.state * 0x2360ed051fc65da44385df649fccf645 + g.increment }

/-- The generator that a seed starts. -/
def ofSeed (seed : Nat) : Seeded :=
  let ws := spread (pool seed)
  let long (i : Nat) : Nat := (ws.getD i 0).toNat + Nat.pow 2 32 * (ws.getD (i + 1) 0).toNat
  let state := BitVec.ofNat 128 (long 0 * Nat.pow 2 64 + long 2)
  let stream := long 4 * Nat.pow 2 64 + long 6
  let g := advance ⟨0, BitVec.ofNat 128 (2 * stream + 1)⟩
  advance { g with state := g.state + state }

/-- The two halves of the state folded and rotated by its top six bits. -/
def output (g : Seeded) : BitVec 64 :=
  (((g.state >>> 64) ^^^ g.state).setWidth 64).rotateRight (g.state >>> 122).toNat

/-- The next number: its numerator over `2 ^ 53`. -/
def next (g : Seeded) : Nat × Seeded :=
  let g := g.advance
  ((g.output >>> 11).toNat, g)

end Seeded
end IteratedDilemma.Random
