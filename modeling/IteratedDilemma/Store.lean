import IteratedDilemma.Tournament.Outcome
import IteratedDilemma.Tournament.Standings

/-! The store of an arena: its strategies, no two of one identifier, and the log of its matches. A
change gives a whole new store; an outcome that names a strategy which is not there gives none. -/
namespace IteratedDilemma
set_option autoImplicit false

/-- Strategies in the order in which they came, and records in the order in which they were
played. -/
structure Store where
  strategies : List Strategy
  records : List MatchRecord
  distinct : (strategies.map Strategy.key).Nodup

namespace Store

def empty : Store := ⟨[], [], .nil⟩

/-- What the identifiers of the strategies count as. -/
def keys (s : Store) : List Json := s.strategies.map Strategy.key

/-! ## Strategies in place -/

/-- A strategy among others: in the place of the one with its identifier, else at the end. -/
def place (strategy : Strategy) : List Strategy → List Strategy
  | [] => [strategy]
  | other :: rest =>
    if other.key = strategy.key then strategy :: rest else other :: place strategy rest

theorem keys_place (strategy : Strategy) (others : List Strategy) :
    (place strategy others).map Strategy.key =
      if strategy.key ∈ others.map Strategy.key then others.map Strategy.key
      else others.map Strategy.key ++ [strategy.key] := by
  induction others with
  | nil => simp [place]
  | cons other rest ih =>
    by_cases h : other.key = strategy.key
    · simp [place, h]
    · have h' : ¬strategy.key = other.key := fun e => h e.symm
      simp only [place, h, if_false, List.map_cons, ih, List.mem_cons, h', false_or]
      split <;> simp

theorem nodup_place (strategy : Strategy) {others : List Strategy}
    (h : (others.map Strategy.key).Nodup) : ((place strategy others).map Strategy.key).Nodup := by
  rw [keys_place]
  split
  · exact h
  · next hn =>
    refine List.nodup_append.2 ⟨h, by simp, ?_⟩
    intro a ha b hb e
    exact hn (List.mem_singleton.1 hb ▸ e ▸ ha)

theorem nodup_placeAll (strategies others : List Strategy)
    (h : (others.map Strategy.key).Nodup) :
    ((strategies.foldl (fun placed s => place s placed) others).map Strategy.key).Nodup := by
  induction strategies generalizing others with
  | nil => exact h
  | cons s rest ih => exact ih _ (nodup_place s h)

/-! ## Changes -/

/-- The store of strategies and records read one after another; a later strategy takes the place of
an earlier one with its identifier. -/
def ofLists (strategies : List Strategy) (records : List MatchRecord) : Store where
  strategies := strategies.foldl (fun placed s => place s placed) []
  records
  distinct := nodup_placeAll strategies [] .nil

def add (s : Store) (strategy : Strategy) : Store where
  strategies := place strategy s.strategies
  records := s.records
  distinct := nodup_place strategy s.distinct

/-- Every strategy with a new score, nothing else changed. -/
def rescore (s : Store) (score : Strategy → Json) : Store where
  strategies := s.strategies.map fun t => t.withScore (score t)
  records := s.records
  distinct := by
    have : (s.strategies.map fun t => t.withScore (score t)).map Strategy.key =
        s.strategies.map Strategy.key := by
      rw [List.map_map]; rfl
    rw [this]; exact s.distinct

/-- More records at the end of the log. -/
def append (s : Store) (records : List MatchRecord) : Store :=
  { s with records := s.records ++ records }

def get? (s : Store) (id : Json) : Option Strategy :=
  s.strategies.find? fun t => t.key = id.key

/-- The identifiers of an outcome that the store does not have. -/
def unknown (s : Store) (o : Outcome) : List Json :=
  o.deltas.ids.filter fun id => id.key ∉ s.keys

/-- Why an outcome of a kind cannot be taken over, for identifiers that the store does not have. -/
def unknownFault (kind : PassKind) (ids : List Json) : Fault :=
  match Json.texts? ids with
  | some texts => .unknownStrategies kind.name (texts.mergeSort Text.noLater)
  | none => Json.listingFault [] ids

/-- The score of a strategy with the points of a tally. -/
def scoreWith (deltas : Tally Json) (t : Strategy) : Except Fault Json :=
  match deltas.points? t.id with
  | some points => t.score.plus points
  | none => .ok t.score

/-- The first fault among sums of scores with their points. -/
def scoreFault? (s : Store) (deltas : Tally Json) : Option Fault :=
  deltas.findSome? fun (id, points) => do
    let t ← s.get? id
    match t.score.plus points with
    | .error fault => some fault
    | .ok _ => none

/-- Takes over an outcome: all of its points and records, or nothing. -/
def apply (s : Store) (o : Outcome) : Except Fault Store :=
  if s.unknown o = [] then
    match s.scoreFault? o.deltas with
    | some fault => .error fault
    | none =>
      .ok ((s.rescore fun t => ((scoreWith o.deltas t).toOption).getD t.score).append o.records)
  else .error (unknownFault o.kind (s.unknown o))

def reset (s : Store) : Store := s.rescore fun _ => .int 0

/-! ## Views -/

/-- The strategies in the order of their places. -/
def ranked (s : Store) : Except Fault (List Strategy) :=
  Standings.ranked s.strategies

/-- The strategy that a value identifies. -/
def find (s : Store) (id : Json) : Except Fault (Option Strategy) :=
  id.asName.map s.get?

/-- The limit that a value sets, null setting none. -/
def limitOf (value : Json) : Except Fault (Option Int) :=
  match value, value.toInt? with
  | .null, _ => .ok none
  | _, some n => .ok (some n)
  | _, none => .error .badSlice

/-- The first so many items of a list; a negative limit leaves out as many at the end. -/
def limited {α : Type} (limit : Option Int) (items : List α) : List α :=
  match limit with
  | none => items
  | some n => items.take (if n < 0 then items.length - n.natAbs else n.toNat)

/-- The log, the newest record first. -/
def log (s : Store) (limit : Option Int) : List MatchRecord :=
  limited limit s.records.reverse

def toJson (s : Store) : Json :=
  .object [("version", .int 1), ("strategies", .list (s.strategies.map Strategy.toJson)),
    ("match_records", .list (s.records.map MatchRecord.toJson))]

@[simp] theorem keys_rescore (s : Store) (score : Strategy → Json) :
    (s.rescore score).keys = s.keys := by
  simp only [keys, rescore, List.map_map]; rfl

@[simp] theorem keys_append (s : Store) (records : List MatchRecord) :
    (s.append records).keys = s.keys := rfl

end Store
end IteratedDilemma
