import IteratedDilemma.Proofs.Arena.Exports
import IteratedDilemma.Proofs.Arena.Standings
import IteratedDilemma.Proofs.Disk.Spelling
import IteratedDilemma.Proofs.Json.Texts

/-! Tables can be read back. A reader that knows quotes, commas and line feeds finds in a written
table the fields of its rows, whatever texts they are (`Csv.read_table`), so an exported table gives
the records or the standings back, row by row. Main statement: `Export.tables_lose_nothing`. -/
namespace IteratedDilemma
set_option autoImplicit false

/-! ## Readers of tables -/

namespace Csv

/-- Where a reader is: at the start of a field, in one without quotes, between quotes, or behind a
quote, which has ended its field or is the first of two. -/
inductive Spot where
  | fresh
  | bare
  | quoted
  | behind
deriving DecidableEq

/-- What a reader has read: whole rows, whole fields of the next row and code points of the next
field, each with the newest first. -/
structure Reading where
  rows : List (List Text)
  fields : List Text
  field : Text
  spot : Spot

namespace Reading

def start : Reading := ⟨[], [], [], .fresh⟩

/-- A code point of the field is read. -/
def add (r : Reading) (c : CodePoint) (spot : Spot) : Reading :=
  { r with field := c :: r.field, spot }

def endField (r : Reading) : Reading :=
  ⟨r.rows, r.field.reverse :: r.fields, [], .fresh⟩

def endRow (r : Reading) : Reading :=
  ⟨r.endField.fields.reverse :: r.rows, [], [], .fresh⟩

/-- Reads a quote, which may stand at either end of a field and, doubled, between quotes. -/
def quote (r : Reading) : Option Reading :=
  match r.spot with
  | .fresh => some { r with spot := .quoted }
  | .bare => none
  | .quoted => some { r with spot := .behind }
  | .behind => some (r.add '"' .quoted)

/-- Reads one code point. Commas and line feeds are part of a field only between quotes, and after a
field that ends with a quote there is nothing else. -/
def step (r : Reading) (c : CodePoint) : Option Reading :=
  if c = '"' then r.quote
  else if r.spot = .quoted then some (r.add c .quoted)
  else if c = ',' then some r.endField
  else if c = '\n' then some r.endRow
  else if r.spot = .behind then none
  else some (r.add c .bare)

/-- The rows at the end of the text. The last one need not end with a line feed. -/
def finish (r : Reading) : Option (List (List Text)) :=
  if r.spot = .quoted then none
  else if r.fields = [] ∧ r.field = [] ∧ r.spot = .fresh then some r.rows.reverse
  else some r.endRow.rows.reverse

end Reading

/-- The rows of a text, if it is a table. -/
def read (t : Text) : Option (List (List Text)) := do
  (← t.foldlM Reading.step .start).finish

/-! ## What a reader finds -/

namespace Reading

variable (rows : List (List Text)) (fields : List Text)

theorem foldlM_comma {r : Reading} (outside : r.spot ≠ .quoted) :
    (Text.ofString ",").foldlM step r = some r.endField := by
  have comma : r.step (CodePoint.ofChar ',') = some r.endField := by
    rw [step, if_neg (by decide), if_neg outside, if_pos rfl]
  exact (congrArg (· >>= pure) comma).trans rfl

theorem foldlM_lineFeed {r : Reading} (outside : r.spot ≠ .quoted) :
    (Text.ofString "\n").foldlM step r = some r.endRow := by
  have feed : r.step (CodePoint.ofChar '\n') = some r.endRow := by
    rw [step, if_neg (by decide), if_neg outside, if_neg (by decide), if_pos rfl]
  exact (congrArg (· >>= pure) feed).trans rfl

theorem step_plain {r : Reading} {c : CodePoint} (plain : isSpecial c = false)
    (before : r.spot = .fresh ∨ r.spot = .bare) : r.step c = some (r.add c .bare) := by
  obtain ⟨⟨comma, quote⟩, feed⟩ : (c ≠ ',' ∧ c ≠ '"') ∧ c ≠ '\n' := by
    simpa [isSpecial] using plain
  rw [step, if_neg quote, if_neg (by rcases before with e | e <;> rw [e] <;> decide), if_neg comma,
    if_neg feed, if_neg (by rcases before with e | e <;> rw [e] <;> decide)]

/-- A field without quotes is read as it is. -/
theorem foldlM_plain {t : Text} (plain : ∀ c ∈ t, isSpecial c = false) (before : Text) {spot : Spot}
    (outside : spot = .fresh ∨ spot = .bare) :
    ∃ spot', (spot' = .fresh ∨ spot' = .bare) ∧
      t.foldlM step ⟨rows, fields, before, spot⟩ =
        some ⟨rows, fields, t.reverse ++ before, spot'⟩ := by
  induction t generalizing before spot with
  | nil => exact ⟨spot, outside, rfl⟩
  | cons c rest ih =>
    obtain ⟨spot', outside', read⟩ :=
      ih (fun d hd => plain d (List.mem_cons_of_mem _ hd)) (c :: before) (.inr rfl)
    refine ⟨spot', outside', ?_⟩
    rw [List.foldlM_cons, step_plain (plain c List.mem_cons_self) outside, List.reverse_cons,
      List.append_assoc]
    exact read

/-- Between quotes everything is read as it is, and each two quotes as one. -/
theorem foldlM_doubled (t before : Text) :
    (doubled t).foldlM step ⟨rows, fields, before, .quoted⟩ =
      some ⟨rows, fields, t.reverse ++ before, .quoted⟩ := by
  induction t generalizing before with
  | nil => rfl
  | cons c rest ih =>
    rw [List.reverse_cons, List.append_assoc]
    by_cases quote : c = '"'
    · -- the first of the two quotes may end the field, the second one takes that back
      rw [doubled, if_pos quote, quote]
      exact ih ('"' :: before)
    · have inside : step ⟨rows, fields, before, .quoted⟩ c =
          some ⟨rows, fields, c :: before, .quoted⟩ := by
        rw [step, if_neg quote, if_pos rfl]
        rfl
      rw [doubled, if_neg quote, List.foldlM_cons, inside]
      exact ih (c :: before)

/-- A written field is read up to its end, which is not between quotes. -/
theorem foldlM_field (t : Text) :
    ∃ spot, spot ≠ .quoted ∧
      (Csv.field t).foldlM step ⟨rows, fields, [], .fresh⟩ =
        some ⟨rows, fields, t.reverse, spot⟩ := by
  by_cases special : t.any isSpecial = true
  · -- between quotes, so that the reader is behind a quote at the end
    refine ⟨.behind, by decide, ?_⟩
    rw [Csv.field, if_pos special, List.foldlM_append, List.foldlM_append]
    have opened : (Text.ofString "\"").foldlM step ⟨rows, fields, [], .fresh⟩ =
        some ⟨rows, fields, [], .quoted⟩ := rfl
    rw [opened, Option.bind_eq_bind, Option.bind_some, foldlM_doubled, List.append_nil]
    rfl
  · have plain : ∀ c ∈ t, isSpecial c = false := by
      simpa only [List.any_eq_true, not_exists, not_and, Bool.not_eq_true] using special
    obtain ⟨spot, outside, read⟩ := foldlM_plain rows fields plain [] (.inl rfl)
    refine ⟨spot, by rcases outside with rfl | rfl <;> decide, ?_⟩
    rw [Csv.field, if_neg special, read, List.append_nil]

theorem foldlM_row {row : List Text} (some_field : row ≠ []) (before : List Text) :
    (Csv.row row).foldlM step ⟨rows, before, [], .fresh⟩ =
      some ⟨(before.reverse ++ row) :: rows, [], [], .fresh⟩ := by
  induction row generalizing before with
  | nil => exact absurd rfl some_field
  | cons t rest ih =>
    obtain ⟨spot, outside, read⟩ := foldlM_field rows before t
    -- behind the last field there is a line feed, behind any other one a comma
    rcases rest with _ | ⟨u, rest⟩
    · rw [Csv.row, List.foldlM_append, read, Option.bind_eq_bind, Option.bind_some,
        foldlM_lineFeed outside]
      simp [endRow, endField]
    · have later := ih (List.cons_ne_nil _ _) (t :: before)
      rw [List.reverse_cons, List.append_assoc] at later
      rw [Csv.row, List.foldlM_append, List.foldlM_append, read, Option.bind_eq_bind,
        Option.bind_some, foldlM_comma outside, Option.bind_some, endField, List.reverse_reverse]
      · exact later
      · exact List.cons_ne_nil _ _

theorem foldlM_table {table : List (List Text)} (filled : ∀ row ∈ table, row ≠ []) :
    (Csv.table table).flatten.foldlM step ⟨rows, [], [], .fresh⟩ =
      some ⟨table.reverse ++ rows, [], [], .fresh⟩ := by
  induction table generalizing rows with
  | nil => rfl
  | cons row rest ih =>
    have later := ih (row :: rows) fun other h => filled other (List.mem_cons_of_mem _ h)
    rw [Csv.table, List.map_cons, List.flatten_cons, List.foldlM_append,
      foldlM_row rows (filled row List.mem_cons_self), List.reverse_cons, List.append_assoc]
    exact later

end Reading

theorem read_table {rows : List (List Text)} (filled : ∀ row ∈ rows, row ≠ []) :
    read (table rows).flatten = some rows := by
  rw [read, Reading.start, Reading.foldlM_table [] filled, List.append_nil]
  change some rows.reverse.reverse = some rows
  rw [List.reverse_reverse]

/-- Quotes, commas and line feeds in fields, and fields of nothing. -/
example : (do return (← read "a,\"x,\"\"y\"\"\n\"\n,7\n").flatten) =
    some (["a", "x,\"y\"\n", "", "7"] : List Text) := by decide +kernel

end Csv

/-! ## What is in a table -/

/-- A text is made of characters only. -/
def Text.IsUnicode (t : Text) : Prop := ∀ c ∈ t, c.isHalf = false

theorem Text.isUnicode_ofString (s : String) : (Text.ofString s).IsUnicode := by
  intro c hc
  obtain ⟨ch, -, rfl⟩ := List.mem_map.1 hc
  exact isHalf_ofChar ch

/-- Any text of characters, of whatever kind and number. -/
def Json.IsUnicode (v : Json) : Prop := ∃ t : Text, v = .text t ∧ t.IsUnicode

theorem Json.IsUnicode.plain {v : Json} (h : v.IsUnicode) : v.plain.IsUnicode := by
  obtain ⟨t, rfl, unicode⟩ := h
  exact unicode

/-- Rows of texts of characters, none without fields. -/
def Csv.AreTexts (rows : List (List Text)) : Prop :=
  ∀ row ∈ rows, row ≠ [] ∧ ∀ t ∈ row, t.IsUnicode

/-- The moves that letters stand for. -/
def movesOf? (letters : Text) : Option (List Move) := do
  (← letters.chars?).mapM Move.ofLetter?

theorem movesOf?_lettersOf (moves : List Move) :
    movesOf? (Text.ofString (lettersOf moves)) = some moves := by
  rw [movesOf?, Text.ofString, Text.chars?_ofChars, lettersOf, String.toList_ofList]
  induction moves with
  | nil => rfl
  | cons m rest ih =>
    rw [Option.bind_eq_bind, Option.bind_some] at ih ⊢
    rw [List.map_cons, List.mapM_cons, Move.ofLetter?_letter, ih]
    rfl

namespace Csv

theorem cellAmong_whole {values : List Json} (whole : ∀ v ∈ values, ∃ n, v = .int n) (n : Int) :
    cellAmong values (.int n) = Text.ofString (toString n) := by
  have none : values.any isFractional = false := by
    rw [List.any_eq_false]
    intro v hv
    obtain ⟨n, rfl⟩ := whole v hv
    exact Bool.false_ne_true
  rw [cellAmong, none, Bool.and_false]
  rfl

theorem column_whole {α : Type} (items : List α) (value : α → Int) :
    column (items.map fun a => .int (value a)) =
      items.map fun a => Text.ofString (toString (value a)) := by
  rw [column_eq, List.map_map]
  refine List.map_congr_left fun a _ => cellAmong_whole (fun v hv => ?_) (value a)
  obtain ⟨b, -, rfl⟩ := List.mem_map.1 hv
  exact ⟨_, rfl⟩

end Csv

namespace MatchRecord

/-- The names of the players of a record are texts of characters. -/
structure IsUnicode (r : MatchRecord) : Prop where
  first : r.first.name.IsUnicode
  second : r.second.name.IsUnicode

/-- The names of the columns of the table of records. -/
def columnNames : List Text :=
  ["played_at", "strategy1", "strategy2", "score1", "score2", "moves1", "moves2"]

/-- The row of a record: its time, the names, the points in decimal digits and the moves. -/
def cells (r : MatchRecord) : List Text :=
  [Text.ofString r.playedAt.isoText, r.first.name.plain, r.second.name.plain,
    Text.ofString (toString r.first.score), Text.ofString (toString r.second.score),
    Text.ofString (lettersOf r.first.moves), Text.ofString (lettersOf r.second.moves)]

theorem IsUnicode.cells {r : MatchRecord} (h : r.IsUnicode) : ∀ t ∈ r.cells, t.IsUnicode := by
  simp only [MatchRecord.cells, List.forall_mem_cons, Text.isUnicode_ofString, h.first.plain,
    h.second.plain, true_and, List.not_mem_nil, false_implies, implies_true]

theorem recordRows_eq {records : List MatchRecord} (unicode : ∀ r ∈ records, r.IsUnicode) :
    Export.recordRows records = columnNames :: records.map cells := by
  unfold Export.recordRows
  rw [Csv.column_texts fun r hr => (unicode r hr).first.imp fun _ => And.left,
    Csv.column_texts fun r hr => (unicode r hr).second.imp fun _ => And.left,
    Csv.column_whole, Csv.column_whole]
  dsimp only
  rw [List.zip_map', List.zip_map', List.zip_map']
  refine congrArg (columnNames :: ·) (List.ext_getElem (by simp) fun i h h' => ?_)
  simp [cells]

theorem areTexts {records : List MatchRecord} (unicode : ∀ r ∈ records, r.IsUnicode) :
    Csv.AreTexts (columnNames :: records.map cells) := by
  refine List.forall_mem_cons.2 ⟨⟨List.cons_ne_nil _ _, ?_⟩, fun row h => ?_⟩
  · simp only [columnNames, List.forall_mem_cons, Text.isUnicode_ofString, true_and,
      List.not_mem_nil, false_implies, implies_true]
  · obtain ⟨r, hr, rfl⟩ := List.mem_map.1 h
    exact ⟨List.cons_ne_nil _ _, (unicode r hr).cells⟩

end MatchRecord

/-- The identifier, the name and the author of a strategy are texts of characters, and its points
are a whole number. -/
structure Strategy.IsUnicode (s : Strategy) : Prop where
  id : s.id.IsUnicode
  name : s.name.IsUnicode
  author : s.author.IsUnicode
  score : ∃ n, s.score = .int n

namespace Standings

/-- The row of a strategy at a place: the place, the identifier, the name, the author and the points
in decimal digits. -/
def texts (place : Nat) (s : Strategy) : List Text :=
  [Text.ofString (toString place), s.id.plain, s.name.plain, s.author.plain, s.score.plain]

theorem texts_isUnicode {s : Strategy} (h : s.IsUnicode) (place : Nat) :
    ∀ t ∈ texts place s, t.IsUnicode := by
  obtain ⟨n, score⟩ := h.score
  have points : s.score.plain.IsUnicode := score ▸ Text.isUnicode_ofString _
  simp only [texts, List.forall_mem_cons, Text.isUnicode_ofString, h.id.plain, h.name.plain,
    h.author.plain, points, true_and, List.not_mem_nil, false_implies, implies_true]

theorem standingRows_texts {ranked : List Strategy} (unicode : ∀ s ∈ ranked, s.IsUnicode) :
    Export.standingRows ranked = columnNames :: ranked.mapIdx fun i s => texts (i + 1) s := by
  have named : ∀ s ∈ ranked, s.IsNamed := fun s hs =>
    ⟨(unicode s hs).name.imp fun _ => And.left, (unicode s hs).author.imp fun _ => And.left⟩
  have whole : ∀ v ∈ ranked.map Strategy.score, ∃ n, v = .int n := by
    intro v hv
    obtain ⟨s, hs, rfl⟩ := List.mem_map.1 hv
    exact (unicode s hs).score
  rw [standingRows_eq named]
  have row (i : Nat) {s : Strategy} (hs : s ∈ ranked) :
      cells ranked (i + 1) s = texts (i + 1) s := by
    obtain ⟨n, score⟩ := (unicode s hs).score
    obtain ⟨id, isText, -⟩ := (unicode s hs).id
    rw [cells, texts, score, Csv.cellAmong_whole whole, isText]
    rfl
  refine congrArg (columnNames :: ·) (List.ext_getElem (by simp) fun i h h' => ?_)
  rw [List.getElem_mapIdx, List.getElem_mapIdx]
  exact row i (List.getElem_mem _)

theorem areTexts {ranked : List Strategy} (unicode : ∀ s ∈ ranked, s.IsUnicode) :
    Csv.AreTexts (columnNames :: ranked.mapIdx fun i s => texts (i + 1) s) := by
  refine List.forall_mem_cons.2 ⟨⟨List.cons_ne_nil _ _, ?_⟩, fun row h => ?_⟩
  · simp only [columnNames, List.forall_mem_cons, Text.isUnicode_ofString, true_and,
      List.not_mem_nil, false_implies, implies_true]
  · obtain ⟨i, hi, rfl⟩ := List.mem_mapIdx.1 h
    exact ⟨List.cons_ne_nil _ _, texts_isUnicode (unicode _ (List.getElem_mem hi)) _⟩

theorem isRanking_of_ranked {strategies ranked : List Strategy}
    (h : Standings.ranked strategies = .ok ranked) : IsRanking strategies ranked := by
  unfold Standings.ranked at h
  split at h <;> cases h
  exact isRanking_sorted strategies

end Standings

/-! ## What is in the file of a table -/

namespace Text

theorem exists_ofString {t : Text} (unicode : t.IsUnicode) : ∃ s, t = ofString s := by
  induction t with
  | nil => exact ⟨"", rfl⟩
  | cons c rest ih =>
    obtain ⟨s, rfl⟩ := ih fun d hd => unicode d (List.mem_cons_of_mem _ hd)
    have valid : c.val.isValidChar := by
      have half := unicode c List.mem_cons_self
      have bound := c.bound
      simp only [CodePoint.isHalf, Bool.and_eq_false_iff, decide_eq_false_iff_not] at half
      unfold Nat.isValidChar
      omega
    obtain ⟨ch, rfl⟩ := CodePoint.exists_ofChar valid
    refine ⟨String.ofList (ch :: s.toList), ?_⟩
    rw [ofString, ofString, String.toList_ofList]
    rfl

theorem IsUnicode.append {t u : Text} (h : t.IsUnicode) (h' : u.IsUnicode) :
    (t ++ u).IsUnicode := fun c hc => (List.mem_append.1 hc).elim (h c) (h' c)

theorem contentFault?_of_unicode {t : Text} (h : t.IsUnicode) : t.contentFault? = none :=
  encodingFault?_eq_none.2 fun c hc => by rw [h c hc]; rfl

end Text

namespace Csv

theorem doubled_isUnicode {t : Text} (h : t.IsUnicode) : (doubled t).IsUnicode := by
  induction t with
  | nil => exact h
  | cons c rest ih =>
    have later := ih fun d hd => h d (List.mem_cons_of_mem _ hd)
    have first := h c List.mem_cons_self
    rw [doubled]
    split <;> simpa [Text.IsUnicode, first] using later

theorem field_isUnicode {t : Text} (h : t.IsUnicode) : (field t).IsUnicode := by
  rw [field]
  split
  · exact ((Text.isUnicode_ofString _).append (doubled_isUnicode h)).append
      (Text.isUnicode_ofString _)
  · exact h

theorem row_isUnicode {fields : List Text} (h : ∀ t ∈ fields, t.IsUnicode) :
    (row fields).IsUnicode := by
  induction fields using row.induct with
  | case1 => exact Text.isUnicode_ofString _
  | case2 last => exact (field_isUnicode (h last (.head _))).append (Text.isUnicode_ofString _)
  | case3 first rest some ih =>
    rw [row]
    · exact ((field_isUnicode (h first (.head _))).append (Text.isUnicode_ofString _)).append
        (ih fun t ht => h t (.tail _ ht))
    · exact some

end Csv

namespace Disk

/-- Lines of characters are written as one text. -/
theorem writeLines_unicode {lines : List Text} (unicode : ∀ line ∈ lines, line.IsUnicode)
    {text : String} (whole : lines.flatten = Text.ofString text) (p : Path) (shown : Text) :
    writeLines p shown lines = changing fun d => d.write p shown text := by
  have fine : ∀ line ∈ lines, line.contentFault? = none := fun line h =>
    Text.contentFault?_of_unicode (unicode line h)
  have all : (lines.takeWhile fun line => line.contentFault?.isNone) = lines :=
    List.takeWhile_eq_self_iff.2 fun line h => by rw [fine line h]; rfl
  unfold writeLines
  dsimp only
  rw [all, whole, Text.toString?_ofString, List.findSome?_eq_none_iff.2 fine]
  funext d
  rcases h : changing (fun d => d.write p shown text) d with ⟨fault | ⟨⟩, d'⟩ <;>
    simp [bind, ExceptT.bind, ExceptT.mk, StateT.bind, ExceptT.bindCont, h] <;> rfl

/-- A path leads to a file that is read as a table of these rows. -/
def HoldsTable (d : Disk) (p : Path) (rows : List (List Text)) : Prop :=
  ∃ text, d.HoldsFile p text ∧ Csv.read (Text.ofString text) = some rows

end Disk

namespace Export

/-- A table can be written at a path: it is no address, and leads to where a file can be written, in
a folder. -/
structure IsOpen (host : Host) (p : Path) : Prop where
  own : Address.isAddress p.text = false
  folder : host.disk.isFolder (p.expanded host.home).parent = .ok true
  free : host.disk.CanWrite (p.expanded host.home)

/-- What an export of a table does. If it ends well, it gives its path and leaves the table where
this leads, and everything else as it was. What stands at an address is only fetched. An export does
end well if its table can be written. -/
structure Leaves (work : Work Host Path) (host : Host) (p : Path) (rows : List (List Text)) :
    Prop where
  written : ∀ result host', work host = (.ok result, host') → result = p ∧
    (Address.isAddress p.text = false → host'.disk.HoldsTable (p.expanded host.home) rows ∧
      ∀ other ≠ (p.expanded host.home).place, host'.disk.node? other = host.disk.node? other)
  fetched : Address.isAddress p.text = true → (work host).2.disk = host.disk
  ended : IsOpen host p → ∃ host', work host = (.ok p, host')

variable {p : Path} {rows : List (List Text)}

/-- Where no address stands, a table is written as one text. -/
theorem writeTable_eq (own : Address.isAddress p.text = false) (texts : Csv.AreTexts rows)
    {text : String} (whole : (Csv.table rows).flatten = Text.ofString text) (host : Host) :
    writeTable p rows host = (do
      if ← Host.inspect fun d => d.isFolder (p.expanded host.home).parent then
        Host.changeDisk fun d => d.write (p.expanded host.home) (p.expanded host.home).text text
      else throw (.file (.noFolder (p.expanded host.home).parent.text)) : Work Host Unit) host := by
  have lines : ∀ line ∈ Csv.table rows, line.IsUnicode := by
    intro line h
    obtain ⟨row, hrow, rfl⟩ := List.mem_map.1 h
    exact Csv.row_isUnicode (texts row hrow).2
  rw [writeTable, if_neg (by rw [own]; exact Bool.false_ne_true),
    Work.bind_of_ok (Work.get_apply host)]
  unfold writeTableAt Host.changeDisk
  rw [Disk.writeLines_unicode lines whole]

theorem leaves_writeTable (texts : Csv.AreTexts rows) (message : Text) (host : Host) :
    Leaves (do writeTable p rows; Host.log .info message; return p) host p rows := by
  obtain ⟨text, whole⟩ : ∃ text, (Csv.table rows).flatten = Text.ofString text := by
    refine Text.exists_ofString fun c hc => ?_
    obtain ⟨line, hline, hc⟩ := List.mem_flatten.1 hc
    obtain ⟨row, hrow, rfl⟩ := List.mem_map.1 hline
    exact Csv.row_isUnicode (texts row hrow).2 c hc
  refine ⟨fun result host' h => ?_, fun address => ?_, fun isOpen => ?_⟩
  · obtain ⟨⟨⟩, host1, wrote, h⟩ := Work.bind_eq_ok h
    cases h
    refine ⟨rfl, fun own => ?_⟩
    rw [writeTable_eq own texts whole] at wrote
    obtain ⟨isFolder, _, looked, wrote⟩ := Work.bind_eq_ok wrote
    obtain ⟨-, rfl⟩ := Host.inspect_ok looked
    cases isFolder
    case false => cases wrote
    rw [if_pos rfl, Host.changeDisk_apply] at wrote
    split at wrote <;> cases wrote
    next disk change =>
      have read : Csv.read (Text.ofString text) = some rows :=
        whole ▸ Csv.read_table fun row h => (texts row h).1
      refine ⟨⟨text, Disk.write_ok change, read⟩, fun other ne => ?_⟩
      obtain ⟨-, free, rfl⟩ := Disk.write_eq change
      exact Disk.node?_put_other free _ ne
  · have same : host = (Address.fetch p.text host).2 := fetch_within p.text host
    have fetched : writeTable p rows = Address.fetch p.text := if_pos address
    rw [fetched]
    rcases run : Address.fetch p.text host with ⟨fault | ⟨⟩, host1⟩ <;> rw [run] at same
    · rw [Work.bind_of_error run, same]
    · rw [Work.bind_of_ok run, same]
      rfl
  · obtain ⟨own, folder, free⟩ := isOpen
    obtain ⟨disk, change⟩ := (Disk.exists_write_iff text).2 free
    have wrote : writeTable p rows host = (.ok (), { host with disk }) := by
      rw [writeTable_eq own texts whole, Work.bind_of_ok (Host.inspect_of_ok folder), if_pos rfl,
        Host.changeDisk_apply, change]
    exact ⟨_, (Work.bind_of_ok wrote).trans rfl⟩

/-- Where the table of the standings goes. -/
def standingsPath (folder : Path) (stamp : Json) : Path :=
  folder.append (.ofText ("tournament_standings_" ++ stamp.plain ++ ".csv"))

/-- Where the table of records goes. -/
def recordsPath (folder : Path) (stamp : Json) : Path :=
  folder.append (.ofText ("tournament_matches_" ++ stamp.plain ++ ".csv"))

/-- Exported tables lose nothing. Whatever texts of characters the names, authors and identifiers
are, the written table of records is read as a row for each of them in their order, and that of the
standings as a row for each strategy in the order of their places, counted from 1; and the letters
of the moves are read as the moves. -/
theorem tables_lose_nothing (folder : Path) (stamp : Json) (host : Host) :
    (∀ played : List MatchRecord, (∀ r ∈ played, r.IsUnicode) →
      Leaves (records folder played stamp) host (recordsPath folder stamp)
        (MatchRecord.columnNames :: played.map MatchRecord.cells) ∧
      ∀ r ∈ played, r.cells[5]?.bind movesOf? = some r.first.moves ∧
        r.cells[6]?.bind movesOf? = some r.second.moves) ∧
    ∀ strategies : List Strategy, (∀ s ∈ strategies, s.IsUnicode) →
      (∀ fault, Standings.ranked strategies = .error fault →
        standings folder strategies stamp host = (.error fault, host)) ∧
      ∀ ranked, Standings.ranked strategies = .ok ranked → Standings.IsRanking strategies ranked ∧
        Leaves (standings folder strategies stamp) host (standingsPath folder stamp)
          (Standings.columnNames :: ranked.mapIdx fun i s => Standings.texts (i + 1) s) := by
  refine ⟨fun played unicode => ⟨?_, fun r _ => ⟨movesOf?_lettersOf _, movesOf?_lettersOf _⟩⟩,
    fun strategies unicode => ⟨fun fault unranked => ?_, fun ranked h => ?_⟩⟩
  · unfold records
    rw [MatchRecord.recordRows_eq unicode]
    exact leaves_writeTable (MatchRecord.areTexts unicode) _ host
  · rw [standings, unranked]
    rfl
  · have ranking := Standings.isRanking_of_ranked h
    have unicode : ∀ s ∈ ranked, s.IsUnicode := fun s hs =>
      unicode s (ranking.perm.mem_iff.1 hs)
    refine ⟨ranking, ?_⟩
    have run : standings folder strategies stamp = (do
        writeTable (standingsPath folder stamp) (standingRows ranked)
        Host.log .info ("Standings saved to: " ++ (standingsPath folder stamp).text)
        return standingsPath folder stamp) := by
      unfold standings
      rw [h]
      exact funext fun _ => Work.lift_bind_ok _ _ _
    rw [run, Standings.standingRows_texts unicode]
    exact leaves_writeTable (Standings.areTexts unicode) _ host

/-- A match between two names that are hard to write, one of nothing but a quote and a comma. -/
def quotedMatch : MatchRecord where
  id := "r1"
  first := ⟨.text "a", .text "x,\"y\"\n", .text "", [.cooperate, .betray], 1⟩
  second := ⟨.text "b", .text "", .text "", [.cooperate, .cooperate], 3⟩
  playedAt := .start2024

/-- A strategy whose identifier looks like a number. -/
def numbered : Strategy where
  id := .text "007"
  name := .text "x,\"y\"\n"
  tree := Builtin.titForTat.tree
  author := .text ""
  authorId := .null
  score := .int (-4)
  createdAt := none

/-- Tables of these in the working folder. -/
theorem tables_lose_nothing_quoted :
    (∃ host', records (.ofText ".") [quotedMatch] (.text "x") (.start .start2024) =
        (.ok (.ofText "tournament_matches_x.csv"), host') ∧
      host'.disk.HoldsTable (.ofText "tournament_matches_x.csv") [MatchRecord.columnNames,
        [Text.ofString quotedMatch.playedAt.isoText, "x,\"y\"\n", "", "1", "3", "CB", "CC"]]) ∧
    ∃ host', standings (.ofText ".") [numbered] (.text "x") (.start .start2024) =
        (.ok (.ofText "tournament_standings_x.csv"), host') ∧
      host'.disk.HoldsTable (.ofText "tournament_standings_x.csv")
        [Standings.columnNames, ["1", "007", "x,\"y\"\n", "", "-4"]] := by
  obtain ⟨matchTables, standingTables⟩ :=
    tables_lose_nothing (.ofText ".") (.text "x") (.start .start2024)
  have name (s : String) : (Json.text s).IsUnicode := ⟨s, rfl, Text.isUnicode_ofString s⟩
  have alone : Standings.ranked [numbered] = .ok [numbered] := by
    rw [Standings.ranked, Standings.sorted, List.mergeSort_singleton]
    rfl
  constructor
  · obtain ⟨leaves, -⟩ := matchTables [quotedMatch] (by
      simpa using (⟨name _, name _⟩ : quotedMatch.IsUnicode))
    obtain ⟨host', run⟩ :=
      leaves.ended ⟨by decide +kernel, by decide +kernel, rfl, by decide +kernel⟩
    obtain ⟨-, written⟩ := leaves.written _ _ run
    exact ⟨host', run, (written (by decide +kernel)).1⟩
  · obtain ⟨-, exported⟩ := standingTables [numbered] (by
      simpa using (⟨name _, name _, name _, _, rfl⟩ : numbered.IsUnicode))
    obtain ⟨-, leaves⟩ := exported [numbered] alone
    obtain ⟨host', run⟩ :=
      leaves.ended ⟨by decide +kernel, by decide +kernel, rfl, by decide +kernel⟩
    obtain ⟨-, written⟩ := leaves.written _ _ run
    exact ⟨host', run, (written (by decide +kernel)).1⟩

end Export

end IteratedDilemma
