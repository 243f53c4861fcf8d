import GameShelf.Proofs.Csv.Cells
import GameShelf.Proofs.Csv.Provenance
import GameShelf.Proofs.Csv.Scan
import GameShelf.Proofs.Numeral.Decimal
import GameShelf.Table

/-!
# Reading what was written

Every sheet is read as the games on it.  The scan of the characters gives the cells back, the header
gives each cell its column, and a cell reads as what its column has of the game.  As the columns of
a layout are the ten, once each, no cell is set twice and none is missing.
-/

set_option autoImplicit false

namespace GameShelf

/-! ## Cells -/

/-- A written cell is read as its content; trimming only has an effect on names, and a name without
white space at its ends is left as it is. -/
theorem Kind.readCell_of_writes {kind : Kind} {content : kind.Content} {t : Text}
    (hwrites : kind.Writes content t) (htrim : kind = .text → t.trim = t) :
    kind.readCell t.trim = .ok content := by
  cases kind with
  | text =>
      have heq : t = content := hwrites
      rw [htrim rfl, heq]
      rfl
  | integer =>
      have heq : t = Numeral.decimal (Int32.toInt content) := hwrites
      rw [heq, (Numeral.unbroken_decimal _).trim_eq]
      exact Numeral.readInt32_decimal content
  | float =>
      have hread : Numeral.readBinary64 t = .ok content := hwrites
      rw [(Numeral.unbroken_of_readBinary64 hread).trim_eq]
      exact hread

namespace Csv

variable {game : Game} {draft : Draft}

/-- A statement about all columns is checked on the ten. -/
instance Column.decidableForall {p : Column → Prop} [DecidablePred p] :
    Decidable (∀ column, p column) :=
  decidable_of_iff (∀ column ∈ all, p column)
    ⟨fun h column => h column column.mem_all, fun h column _ => h column⟩

/-- Only the name is a text. -/
theorem Column.eq_name_of_kind : ∀ column : Column, column.kind = .text → column = .field .name := by
  decide

theorem Row.readCell_cell (row : Row) (column : Column) :
    column.kind.readCell (row.cell column).trim = .ok (row.game.content column) := by
  refine Kind.readCell_of_writes (row.writes column) ?_
  intro hkind
  cases column.eq_name_of_kind hkind
  have hname : row.cell (.field .name) = row.game.name := row.writes (.field .name)
  rw [hname]
  exact row.name_trim

/-! ## The header -/

theorem Column.trim_name : ∀ column : Column,
    Text.trim column.name.toList = column.name.toList := by
  decide

theorem Column.ofName?_name : ∀ column : Column,
    ofName? column.name.toList = some column := by
  decide

/-- The header of a table with these titles. -/
def Header.titled (titles : List Text) : Header :=
  ⟨(titles.map Text.trim).map Column.ofName?, true, titles.length⟩

theorem Header.ofFields_map_encode (titles : List Text) :
    ofFields (titles.map Utf8.encode) = titled titles := by
  rw [ofFields, decodeFields_map_encode, List.length_map]
  rfl

/-- A heading of a layout is taken for the column that it is for. -/
theorem Layout.ofName?_title (layout : Layout) {heading : Heading}
    (h : heading ∈ layout.headings) : Column.ofName? heading.title.trim = heading.column? := by
  cases heading with
  | known column =>
      change Column.ofName? (Text.trim column.name.toList) = some column
      rw [column.trim_name]
      exact column.ofName?_name
  | other title =>
      apply List.find?_eq_none.2
      intro column _ heq
      exact layout.distinguished title h column (beq_iff_eq.1 heq).symm

/-- The header that is read from the titles of a layout. -/
def Layout.header (layout : Layout) : Header :=
  ⟨layout.headings.map Heading.column?, true, layout.headings.length⟩

theorem Layout.ofFields_titles (layout : Layout) :
    Header.ofFields ((layout.headings.map Heading.title).map Utf8.encode) = layout.header := by
  have hcolumns : layout.headings.map (fun heading => Column.ofName? heading.title.trim) =
      layout.headings.map Heading.column? :=
    List.map_congr_left fun _ h => layout.ofName?_title h
  rw [Header.ofFields_map_encode]
  simp only [Header.titled, List.map_map, List.length_map, Layout.header, ← hcolumns]
  rfl

/-- The columns of a row are those of its header, if it has a cell for each. -/
theorem filterMap_fst_zip {columns : List (Option Column)} {cells : List Text}
    (h : columns.length ≤ cells.length) :
    (columns.zip cells).filterMap Prod.fst = columns.filterMap id := by
  calc
    (columns.zip cells).filterMap Prod.fst
        = ((columns.zip cells).map Prod.fst).filterMap id := by
          rw [List.filterMap_map]
          rfl
    _ = columns.filterMap id := by
          rw [List.map_fst_zip h]

/-! ## Filling a row -/

/-- The draft with the cells of these columns set to what the game has there. -/
def Draft.record (game : Game) : List Column → Draft → Draft
  | [], draft => draft
  | column :: rest, draft => record game rest (draft.set column (game.content column))

theorem Draft.record_of_not_mem {columns : List Column} {other : Column} (h : other ∉ columns) :
    draft.record game columns other = draft other := by
  induction columns generalizing draft with
  | nil => rfl
  | cons column rest ih =>
      rw [List.mem_cons, not_or] at h
      rw [record, ih h.2, set_of_ne _ _ (Ne.symm h.1)]

theorem Draft.record_of_mem {columns : List Column} {other : Column} (h : other ∈ columns) :
    draft.record game columns other = some (game.content other) := by
  induction columns generalizing draft with
  | nil => cases h
  | cons column rest ih =>
      by_cases hrest : other ∈ rest
      · exact ih hrest
      · rcases List.mem_cons.1 h with rfl | hmem
        · rw [record, record_of_not_mem hrest, set_same]
        · exact absurd hmem hrest

/-- Cells of different columns are all set, if none of them was set before. -/
theorem fill_eq_record {entries : List (Option Column × Text)}
    (hreads : ∀ column t, (some column, t) ∈ entries →
      column.kind.readCell t = .ok (game.content column))
    (hnodup : (entries.filterMap Prod.fst).Nodup)
    (hfresh : ∀ column ∈ entries.filterMap Prod.fst, draft column = none) (index : Nat) :
    fill index entries draft = .ok (draft.record game (entries.filterMap Prod.fst)) := by
  rcases exists_fill hnodup hfresh (fun column t ht => ⟨_, hreads column t ht⟩) index with
    ⟨filled, hfill⟩
  have hfilled := filled_of_fill hfill
  rw [hfill]
  refine congrArg Except.ok (funext fun column => ?_)
  by_cases hmem : column ∈ entries.filterMap Prod.fst
  · rw [Draft.record_of_mem hmem]
    rcases List.mem_filterMap.1 hmem with ⟨⟨_, t⟩, hentry, rfl⟩
    rcases hfilled.read column t hentry with ⟨content, hread, hcontent⟩
    rw [hreads column t hentry] at hread
    rw [hcontent, ← Except.ok.inj hread]
  · rw [hfilled.kept column hmem, Draft.record_of_not_mem hmem]

/-! ## Rows -/

theorem Row.length_cells (row : Row) (headings : List Heading) :
    (row.cells headings).length = headings.length :=
  List.length_mapIdx

namespace Layout

variable (layout : Layout) (row : Row)

theorem mem_columns (column : Column) : column ∈ layout.headings.filterMap Heading.column? :=
  layout.complete.mem_iff.2 column.mem_all

theorem nodup_columns : (layout.headings.filterMap Heading.column?).Nodup :=
  layout.complete.nodup_iff.2 (by decide)

/-- The trimmed cells of a row with the columns that they are taken for. -/
def entries : List (Option Column × Text) :=
  layout.header.columns.zip ((row.cells layout.headings).map Text.trim)

theorem columns_entries :
    (layout.entries row).filterMap Prod.fst = layout.headings.filterMap Heading.column? := by
  have hwidth : layout.header.columns.length ≤
      ((row.cells layout.headings).map Text.trim).length := by
    simp [header, row.length_cells]
  rw [entries, filterMap_fst_zip hwidth, header, List.filterMap_map]
  rfl

theorem readCell_of_mem_entries {column : Column} {t : Text}
    (h : (some column, t) ∈ layout.entries row) :
    column.kind.readCell t = .ok (row.game.content column) := by
  rcases List.mem_iff_getElem.1 h with ⟨i, hi, heq⟩
  have hbound : i < layout.headings.length := by
    simp only [entries, header, List.length_zip, List.length_map] at hi
    omega
  simp only [entries, header, List.getElem_zip, List.getElem_map, Row.cells, List.getElem_mapIdx,
    Prod.mk.injEq] at heq
  rcases heq with ⟨hcolumn, rfl⟩
  cases hheading : layout.headings[i] with
  | known known =>
      rw [hheading] at hcolumn
      cases hcolumn
      exact row.readCell_cell column
  | other title =>
      rw [hheading] at hcolumn
      cases hcolumn

theorem fill_entries (index : Nat) :
    fill index (layout.entries row) .empty =
      .ok (Draft.empty.record row.game (layout.headings.filterMap Heading.column?)) := by
  have hnodup : ((layout.entries row).filterMap Prod.fst).Nodup := by
    rw [columns_entries]
    exact layout.nodup_columns
  have hfresh : ∀ column ∈ (layout.entries row).filterMap Prod.fst, Draft.empty column = none := by
    intro column _
    rfl
  rw [← layout.columns_entries row]
  apply fill_eq_record ?_ hnodup hfresh
  intro column t ht
  exact layout.readCell_of_mem_entries row ht

theorem toGame_record (draft : Draft) :
    (draft.record row.game (layout.headings.filterMap Heading.column?)).toGame = .ok row.game := by
  apply Draft.toGame_of_complete
  intro column
  exact Draft.record_of_mem (layout.mem_columns column)

/-- A row under its layout is read as its game. -/
theorem readFields_cells :
    layout.header.readFields ((row.cells layout.headings).map Utf8.encode) = .ok row.game := by
  have hwidth : ((row.cells layout.headings).map Utf8.encode).length = layout.header.width := by
    rw [List.length_map]
    exact row.length_cells layout.headings
  have hgame : layout.header.game ((row.cells layout.headings).map Text.trim) = .ok row.game := by
    have hfill := layout.fill_entries row 0
    rw [entries] at hfill
    rw [Header.game, hfill]
    change (Draft.toGame _).mapError _ = .ok row.game
    rw [layout.toGame_record row]
    rfl
  rw [Header.readFields, if_pos hwidth, decodeFields_map_encode]
  exact hgame

end Layout

/-! ## Sheets -/

theorem Header.readRecords_of_fields {header : Header} {records : List Record} {games : List Game}
    (h : records.map (fun record => header.readFields record.fields) = games.map Except.ok) :
    header.readRecords records = .ok games := by
  rw [← List.forall₂_eq_eq_eq, List.forall₂_map_left_iff, List.forall₂_map_right_iff] at h
  exact readRecords_eq_ok_iff.2 h

theorem Layout.headings_ne_nil (layout : Layout) : layout.headings ≠ [] := by
  intro hnil
  have hmem := layout.mem_columns .id
  rw [hnil] at hmem
  cases hmem

theorem Row.cells_ne_nil (row : Row) (layout : Layout) : row.cells layout.headings ≠ [] := by
  rw [ne_eq, ← List.length_eq_zero_iff, row.length_cells, List.length_eq_zero_iff]
  exact layout.headings_ne_nil

/-- The fields of the records of a sheet. -/
theorem Sheet.map_fields_records (sheet : Sheet) :
    (records (Utf8.encode sheet.text)).map Record.fields =
      (sheet.layout.headings.map Heading.title).map Utf8.encode ::
        sheet.rows.map fun entry => (entry.2.cells sheet.layout.headings).map Utf8.encode := by
  have hheader : sheet.layout.headings.map Heading.title ≠ [] := by
    rw [ne_eq, List.map_eq_nil_iff]
    exact sheet.layout.headings_ne_nil
  have hcells : ∀ entry ∈ sheet.rows.map (fun entry =>
      (entry.1, entry.2.cells sheet.layout.headings)), entry.2 ≠ [] := by
    intro entry hentry
    rcases List.mem_map.1 hentry with ⟨written, -, rfl⟩
    exact written.2.cells_ne_nil sheet.layout
  have hscan := Csv.map_fields_records hheader hcells sheet.ending
  rw [List.flatMap_map] at hscan
  apply hscan.trans
  rw [List.map_map (l := sheet.rows)]
  rfl

theorem Sheet.readRecords_rows (sheet : Sheet) {rest : List Record}
    (h : rest.map Record.fields =
      sheet.rows.map fun entry => (entry.2.cells sheet.layout.headings).map Utf8.encode) :
    sheet.layout.header.readRecords rest = .ok sheet.games := by
  apply Header.readRecords_of_fields
  calc
    rest.map (fun record => sheet.layout.header.readFields record.fields)
        = (rest.map Record.fields).map sheet.layout.header.readFields := by
          rw [List.map_map]
          rfl
    _ = sheet.rows.map (fun entry => .ok entry.2.game) := by
          rw [h, List.map_map]
          exact List.map_congr_left fun entry _ => sheet.layout.readFields_cells entry.2
    _ = sheet.games.map Except.ok := by
          rw [games, List.map_map]
          rfl

end Csv

/-- What is written as a table of games is read as the games. -/
theorem Table.load_sheet (sheet : Csv.Sheet) :
    Table.load (Utf8.encode sheet.text) = .ok sheet.games := by
  have hfields := sheet.map_fields_records
  cases hrecords : Csv.records (Utf8.encode sheet.text) with
  | nil =>
      rw [hrecords] at hfields
      cases hfields
  | cons header rest =>
      rw [hrecords, List.map_cons] at hfields
      rcases List.cons.inj hfields with ⟨hheader, hrest⟩
      have hgames := sheet.readRecords_rows hrest
      rw [load, Csv.loadGames, hrecords]
      simp only [hheader, sheet.layout.ofFields_titles, hgames]
      rfl

/-- The columns from the last to the first, behind one that is none of a game's. -/
def Csv.Layout.backwards : Csv.Layout where
  headings := .other "notes".toList :: Csv.Column.all.reverse.map .known
  complete := by
    change (Csv.Column.all.reverse).Perm Csv.Column.all
    exact List.reverse_perm _
  distinguished := by
    intro title htitle
    have heq : title = "notes".toList := by
      simpa using htitle
    rw [heq]
    decide

/-- Commas, quotes and line ends within cells, an empty line, and records that end differently. -/
theorem Table.load_sheet_backwards :
    let game : Game :=
      ⟨"Go, \"the\" game\r\n of stones".toList, 1, 2, 2, 30, 180, .quietNaN true, 23,
        ⟨0x401E000000000000⟩, -2200⟩
    ∃ sheet : Csv.Sheet, sheet.layout = .backwards ∧ sheet.games = [game, game] ∧
      Table.load (Utf8.encode sheet.text) = .ok [game, game] := by
  intro game
  let row : Csv.Row := {
    game
    cell := fun column =>
      match column with
      | .field .name => game.name
      | .field .difficulty => "-NaN".toList
      | .field .rating => "+75.0e-1".toList
      | .id => Numeral.decimal game.id.toInt
      | .field .minPlayers => Numeral.decimal game.minPlayers.toInt
      | .field .maxPlayers => Numeral.decimal game.maxPlayers.toInt
      | .field .minPlayTime => Numeral.decimal game.minPlayTime.toInt
      | .field .maxPlayTime => Numeral.decimal game.maxPlayTime.toInt
      | .field .rank => Numeral.decimal game.rank.toInt
      | .field .yearPublished => Numeral.decimal game.yearPublished.toInt
    other := fun _ => "played,\n\"often\"".toList
    writes := by
      intro column
      cases column with
      | id => rfl
      | field f =>
          cases f with
          | difficulty =>
              change Numeral.readBinary64 "-NaN".toList = .ok (.quietNaN true)
              decide +kernel
          | rating =>
              change Numeral.readBinary64 "+75.0e-1".toList = .ok ⟨0x401E000000000000⟩
              decide +kernel
          | _ => rfl
    name_trim := by
      decide +kernel }
  let sheet : Csv.Sheet :=
    ⟨.backwards, [(⟨.both, [.lineFeed]⟩, row), (⟨.carriageReturn, []⟩, row)], none⟩
  exact ⟨sheet, rfl, rfl, Table.load_sheet sheet⟩

end GameShelf
