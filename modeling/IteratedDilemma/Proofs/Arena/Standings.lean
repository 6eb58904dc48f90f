import IteratedDilemma.Export.Results
import IteratedDilemma.Proofs.Arena.Commits
import IteratedDilemma.Proofs.Arena.Names
import IteratedDilemma.Proofs.Tournament.Ranking

/-! The views of the standings. The list of the store, the rows of the standings, the table and the
exported rows all rank what they are given, and a ranking is its own: each of them shows the
strategies of the store in one order, with places from 1 (`Site.rankings_agree`). -/
namespace IteratedDilemma
set_option autoImplicit false

/-- A strategy whose name and author are texts. -/
structure Strategy.IsNamed (s : Strategy) : Prop where
  name : ∃ t, s.name = .text t
  author : ∃ t, s.author = .text t

/-! ## Cells of a column -/

namespace Csv

/-- What stands for a value in a column of values. -/
def cellAmong (values : List Json) : Json → Text
  | .int n =>
    if areNumbers values && values.any isFractional then cell (.float (.ofInt n)) else cell (.int n)
  | value => cell value

theorem column_eq (values : List Json) : column values = values.map (cellAmong values) := by
  refine List.map_congr_left fun value _ => ?_
  cases value <;> rfl

theorem column_texts {α : Type} {items : List α} {value : α → Json}
    (texts : ∀ a ∈ items, ∃ t, value a = .text t) :
    column (items.map value) = items.map fun a => (value a).plain := by
  rw [column_eq, List.map_map]
  refine List.map_congr_left fun a ha => ?_
  obtain ⟨t, e⟩ := texts a ha
  rw [Function.comp, e]
  rfl

end Csv

/-! ## Rows -/

namespace Standings

/-- What stands above the table. -/
def heading : List Text :=
  [rule '=', "ARENA STANDINGS", rule '=',
    leftAligned 6 "Rank" ++ leftAligned 25 "Strategy" ++ leftAligned 23 "Author" ++
      rightAligned 10 "Score", rule '-']

/-- The line of a strategy at a place. -/
def line (place : Nat) (s : Strategy) : Text :=
  leftAligned 6 (toString place) ++ leftAligned 25 (s.name.plain.take 24) ++
    leftAligned 23 (s.author.plain.take 22) ++ rightAligned 10 s.score.plain

/-- The names of the exported columns. -/
def columnNames : List Text := ["rank", "id", "strategy", "author", "score"]

/-- The exported row of a strategy at a place among others. -/
def cells (among : List Strategy) (place : Nat) (s : Strategy) : List Text :=
  [Text.ofString (toString place), Csv.cellAmong (among.map Strategy.id) s.id, s.name.plain,
    s.author.plain, Csv.cellAmong (among.map Strategy.score) s.score]

theorem row_eq {s : Strategy} (named : s.IsNamed) (place : Nat) :
    row place s = .ok (line place s) := by
  obtain ⟨⟨name, hname⟩, ⟨author, hauthor⟩⟩ := named
  unfold row line
  rw [hname, hauthor]
  rfl

theorem rows_eq {l : List Strategy} (named : ∀ s ∈ l, s.IsNamed) (first : Nat) :
    rows first l = .ok (l.mapIdx fun i s => line (first + i) s) := by
  induction l generalizing first with
  | nil => rfl
  | cons s rest ih =>
    have later := ih (fun t ht => named t (List.mem_cons_of_mem _ ht)) (first + 1)
    rw [rows, row_eq (named s List.mem_cons_self), ok_bind, later, ok_bind, List.mapIdx_cons]
    simp only [Nat.add_zero, Nat.add_assoc, Nat.add_comm 1]
    rfl

theorem table_eq {r : List Strategy} (named : ∀ s ∈ r, s.IsNamed) (settled : ranked r = .ok r) :
    table r = .ok (heading ++ (r.mapIdx fun i s => line (i + 1) s) ++ [rule '=']) := by
  rw [table, settled, ok_bind, rows_eq named, ok_bind]
  simp only [Nat.add_comm 1]
  rfl

theorem standingRows_eq {r : List Strategy} (named : ∀ s ∈ r, s.IsNamed) :
    Export.standingRows r = columnNames :: r.mapIdx fun i s => cells r (i + 1) s := by
  unfold Export.standingRows
  rw [Csv.column_texts fun s hs => (named s hs).name,
    Csv.column_texts fun s hs => (named s hs).author, Csv.column_eq, Csv.column_eq, List.map_map,
    List.map_map]
  dsimp only
  rw [List.zip_map', List.zip_map', List.zip_map']
  refine congrArg (columnNames :: ·) (List.ext_getElem (by simp) fun i h h' => ?_)
  simp [cells]

end Standings

/-! ## Views -/

namespace Site

open Standings (IsRanking isRankable level)

/-- Every view of the standings shows these strategies in this order, with places from 1. -/
structure Shows (site : Site) (r : List Strategy) : Prop where
  listed : ranked site = (.ok r, site)
  rows : standings site = (.ok (r.map Standings.rowJson), site)
  table : Standings.table r = .ok (Standings.heading ++
    (r.mapIdx fun i s => Standings.line (i + 1) s) ++ [Standings.rule '='])
  exported (folder : Path) (stamp : Json) : Export.standings folder r stamp = do
    let p := folder.append (.ofText ("tournament_standings_" ++ stamp.plain ++ ".csv"))
    Export.writeTable p
      (Standings.columnNames :: r.mapIdx fun i s => Standings.cells r (i + 1) s)
    Host.log .info ("Standings saved to: " ++ p.text)
    return p

theorem standings_apply {site : Site} {r : List Strategy}
    (listed : site.arena.store.ranked = .ok r) (settled : Standings.ranked r = .ok r) :
    standings site = (.ok (r.map Standings.rowJson), site) := by
  have h : ranked site = (.ok r, site) := by rw [ranked_apply, listed]
  unfold standings
  rw [Work.bind_of_ok h, settled]
  rfl

/-- All views of a store show its strategies in the order of its ranking. -/
theorem shows_of_isRanking {site : Site} {r : List Strategy}
    (named : ∀ s ∈ site.arena.store.strategies, s.IsNamed)
    (rankable : ∀ s ∈ site.arena.store.strategies, isRankable s = true)
    (h : IsRanking site.arena.store.strategies r) : site.Shows r := by
  have listed : site.arena.store.ranked = .ok r := (Standings.ranked_iff rankable).2 h
  have settled := h.ranked_self rankable
  have named : ∀ s ∈ r, s.IsNamed := fun s hs => named s (h.perm.mem_iff.1 hs)
  refine ⟨by rw [ranked_apply, listed], standings_apply listed settled,
    Standings.table_eq named settled, fun folder stamp => ?_⟩
  unfold Export.standings
  rw [settled, ← Standings.standingRows_eq named]
  funext host
  exact Work.lift_bind_ok _ _ _

/-- A built-in tree as a strategy with points. -/
def entry (b : Builtin) (points : Int) (createdAt : Option Timestamp) : Strategy where
  id := .text b.name
  name := .text b.name
  tree := b.tree
  author := .text "Arena"
  authorId := .null
  score := .int points
  createdAt

/-- An arena with a tie that a creation decides, and with one that only the store decides. -/
def tied : Site :=
  started.after started.host {
    strategies := [entry .grudger (-4) none, entry .random (-4) (some .start2024),
      entry .alwaysBetray (-4) none]
    records := []
    distinct := by decide +kernel }

theorem sorted_tied : Standings.sorted tied.arena.store.strategies =
    [entry .random (-4) (some .start2024), entry .grudger (-4) none,
      entry .alwaysBetray (-4) none] := by
  have later : (StandingKey.of (entry .grudger (-4) none)).le
      (.of (entry .random (-4) (some .start2024))) = false := by decide +kernel
  have earlier : (StandingKey.of (entry .random (-4) (some .start2024))).le
      (.of (entry .alwaysBetray (-4) none)) = true := by decide +kernel
  have equal : (StandingKey.of (entry .grudger (-4) none)).le
      (.of (entry .alwaysBetray (-4) none)) = true := by decide +kernel
  simp [Standings.sorted, tied, List.mergeSort, later, earlier, equal]

end Site
end IteratedDilemma
