import IteratedDilemma.Host.Basic
import IteratedDilemma.Store
import IteratedDilemma.Tournament.Pass
import IteratedDilemma.Tournament.Settings

/-! An arena: a store, the settings of its tournaments, a source of random moves, and a gate that
one pass at a time can hold. -/
namespace IteratedDilemma
set_option autoImplicit false

/-- An arena. One with a file keeps its store there as well. -/
structure Arena where
  store : Store
  file : Option Path
  settings : Settings
  rounds : Nat
  source : RandomSource
  isHeld : Bool

/-- An arena on its host, with what observers of its passes have noted, the newest first. -/
structure Site where
  host : Host
  arena : Arena
  noted : List Progress

/-- The generator that a value starts as its seed. -/
def RandomSource.ofJson (seed : Json) : Except Fault RandomSource :=
  match seed.toInt? with
  | some n => if n < 0 then .error .negativeSeed else .ok (.ofSeed n.toNat)
  | none => .error (.noSeed seed.plain)

namespace Settings

/-- The number of rounds of each match, if there is nothing wrong with the settings. -/
def check (s : Settings) : Except Fault Nat :=
  match s.violations, s.roundCount? with
  | [], some rounds => .ok rounds
  | violations, _ => .error (.settings violations)

/-- The generator that the settings ask for. Without a seed it starts from `entropy`. -/
def source (s : Settings) (entropy : Nat) : Except Fault RandomSource :=
  match s.seed with
  | .null => .ok (.ofSeed entropy)
  | seed => RandomSource.ofJson seed

end Settings

namespace Arena

/-- An arena with a free gate. If no source of random moves is given, the settings choose one. -/
def build (store : Store) (file : Option Path) (settings : Settings)
    (source : Option RandomSource) (entropy : Nat) : Except Fault Arena := do
  let rounds ← settings.check
  let source ← match source with
    | some source => .ok source
    | none => settings.source entropy
  return { store, file, settings, rounds, source, isHeld := false }

end Arena

namespace Site

/-- Work on the host of an arena. -/
def onHost {α : Type} (work : Work Host α) : Work Site α := fun site =>
  let (result, host) := work site.host
  (result, { site with host })

def log (level : Level) (text : Text) : Work Site Unit :=
  onHost (Host.log level text)

/-- The stored strategies in the order of their places. -/
def ranked : Work Site (List Strategy) := do
  (← get).arena.store.ranked

/-- The rows of the standings. The strategies come in the order of their places and are ranked once
more. -/
def standings : Work Site (List Json) := do
  let strategies ← ranked
  let standings ← (Standings.ranked strategies : Except Fault (List Strategy))
  return standings.map Standings.rowJson

/-! ## The gate -/

/-- The site with the gate held or free. -/
def withGate (site : Site) (isHeld : Bool) : Site :=
  { site with arena := { site.arena with isHeld } }

/-- Takes the gate if it is free. -/
def tryBegin : Work Site Bool := fun site =>
  (.ok !site.arena.isHeld, site.withGate true)

/-- Gives the gate back. -/
def endPass : Work Site Unit := fun site =>
  if site.arena.isHeld then (.ok (), site.withGate false) else (.error .nothingHeld, site)

/-- Work under the gate, which is free again afterwards, however the work ends. If the gate is held
by somebody else, a warning is all that happens. -/
def gated {α : Type} (warning : Text) (refused : α) (work : Work Site α) : Work Site α :=
  fun site =>
    if site.arena.isHeld then
      (.ok refused, { site with host := site.host.record [⟨.warning, warning⟩] })
    else
      let (result, site) := work (site.withGate true)
      (result, site.withGate false)

end Site
end IteratedDilemma
