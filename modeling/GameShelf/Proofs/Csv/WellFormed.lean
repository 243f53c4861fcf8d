import GameShelf.Proofs.Csv.RoundTrip
import GameShelf.Proofs.Csv.Texts
import GameShelf.Proofs.Numeral.Integer
import Mathlib.Data.Set.List

/-!
# Which tables are loaded

A table is loaded just if it is well formed: the ten columns stand once each among the titles, in
any order and among others, and each row has a cell for each title, with a number where its column
holds numbers.  Then each row is a game that has in each column what stands under the title of that
column.  All this is said of texts; the records of a text are lists of texts (`exists_splits`).
-/

set_option autoImplicit false

namespace GameShelf

/-- What the text of a cell stands for. -/
def Kind.Denotes : (kind : Kind) → Text → kind.Content → Prop
  | .text, t, name => t = name
  | .integer, t, n => Numeral.DenotesInt32 t n
  | .float, t, x => Numeral.readBinary64 t = .ok x

theorem Kind.readCell_eq_ok_iff {kind : Kind} {t : Text} {content : kind.Content} :
    kind.readCell t = .ok content ↔ kind.Denotes t content := by
  cases kind with
  | text => exact ⟨fun h => Except.ok.inj h, fun h => congrArg Except.ok h⟩
  | integer => exact Numeral.readInt32_eq_ok_iff
  | float => exact Iff.rfl

/-- Seven columns hold whole numbers and two hold binary64 numbers. -/
example : (Csv.Column.all.filter fun column => column.kind = .integer).length = 7 ∧
    (Csv.Column.all.filter fun column => column.kind = .float).length = 2 := by
  decide

namespace Csv

variable {game : Game} {column : Column} {titles row : List Text} {rows : List (List Text)}

/-! ## Tables of texts -/

theorem exists_map_eq {α β : Type} {f : α → β} {l : List β} (h : ∀ b ∈ l, ∃ a, f a = b) :
    ∃ m : List α, m.map f = l := by
  have hrange : l ∈ Set.range (List.map f) := by
    rw [Set.range_list_map]
    exact h
  exact hrange

/-- The text is split into these records, the first of which holds the titles. -/
def Splits (t : Text) (titles : List Text) (rows : List (List Text)) : Prop :=
  (records (Utf8.encode t)).map Record.fields =
    (titles :: rows).map fun texts => texts.map Utf8.encode

/-- The row has a cell for each title, and what stands under a column is of its kind. -/
structure Fits (titles row : List Text) : Prop where
  width : row.length = titles.length
  cells : ∀ title cell, (title, cell) ∈ titles.zip row → ∀ column : Column,
    title.trim = column.name.toList → ∃ content, column.kind.Denotes cell.trim content

/-- Each column stands once among the titles, and each row fits. -/
structure WellFormed (titles : List Text) (rows : List (List Text)) : Prop where
  columns : ∀ column : Column, (titles.map Text.trim).count column.name.toList = 1
  rows : ∀ row ∈ rows, Fits titles row

/-- The game has in each column what stands under its title. -/
def Holds (titles row : List Text) (game : Game) : Prop :=
  ∀ title cell, (title, cell) ∈ titles.zip row → ∀ column : Column,
    title.trim = column.name.toList → column.kind.Denotes cell.trim (game.content column)

/-- A text with a header and more records is a table of texts. -/
theorem exists_splits {t : Text} (h : 2 ≤ (records (Utf8.encode t)).length) :
    ∃ titles rows, rows ≠ [] ∧ Splits t titles rows := by
  have hfields : ∀ fields ∈ (records (Utf8.encode t)).map Record.fields,
      ∃ texts : List Text, texts.map Utf8.encode = fields := by
    intro fields hmem
    rcases List.mem_map.1 hmem with ⟨record, hrecord, rfl⟩
    exact exists_map_eq fun field => textual_of_mem_records (textual_encode t) hrecord
  rcases exists_map_eq hfields with ⟨table, htable⟩
  have hlength : 2 ≤ table.length := by
    have hmap := congrArg List.length htable
    rw [List.length_map, List.length_map] at hmap
    omega
  match table, hlength with
  | titles :: row :: rows, _ => exact ⟨titles, row :: rows, List.cons_ne_nil row rows, htable.symm⟩

/-! ## Titles and columns -/

theorem Column.ofName?_eq_some_iff {t : Text} :
    ofName? t = some column ↔ t = column.name.toList := by
  constructor
  · intro h
    have hname := List.find?_some (p := fun column : Column => column.name.toList == t) h
    exact (beq_iff_eq.1 hname).symm
  · rintro rfl
    exact column.ofName?_name

/-- The columns are the ten, once each, if their names occur once each. -/
theorem perm_all_iff {names : List Text} :
    (names.filterMap Column.ofName?).Perm Column.all ↔
      ∀ column : Column, names.count column.name.toList = 1 := by
  have hall : ∀ column, Column.all.count column = 1 := by decide
  have hcount : ∀ column, (names.filterMap Column.ofName?).count column =
      names.count column.name.toList := by
    intro column
    rw [List.count_filterMap, List.count_eq_countP]
    refine List.countP_congr fun name _ => ?_
    rw [beq_iff_eq, beq_iff_eq, Column.ofName?_eq_some_iff]
  simp only [List.perm_iff_count, hcount, hall]

namespace Header

theorem columns_titled (h : row.length = titles.length) :
    ((titled titles).columns.zip (row.map Text.trim)).filterMap Prod.fst =
      (titles.map Text.trim).filterMap Column.ofName? := by
  have hwidth : (titled titles).columns.length ≤ (row.map Text.trim).length := by
    simp [titled, h]
  rw [filterMap_fst_zip hwidth, titled, List.filterMap_map]
  rfl

theorem mem_zip_iff {t : Text} :
    (some column, t) ∈ (titled titles).columns.zip (row.map Text.trim) ↔
      ∃ title cell, (title, cell) ∈ titles.zip row ∧ title.trim = column.name.toList ∧
        cell.trim = t := by
  simp only [titled, List.map_map, List.zip_map, List.mem_map, Prod.exists, Prod.map,
    Prod.mk.injEq, Function.comp_apply, Column.ofName?_eq_some_iff]

/-! ## Rows -/

theorem readFields_eq_ok_iff :
    (titled titles).readFields (row.map Utf8.encode) = .ok game ↔
      row.length = titles.length ∧ (titled titles).game (row.map Text.trim) = .ok game := by
  rw [readFields, List.length_map, decodeFields_map_encode]
  split
  next hwidth =>
      exact (and_iff_right hwidth).symm
  next hwidth =>
      refine iff_of_false (by simp) fun h => hwidth h.1

theorem exists_readFields_iff :
    (∃ game, (titled titles).readFields (row.map Utf8.encode) = .ok game) ↔
      (∀ column : Column, (titles.map Text.trim).count column.name.toList = 1) ∧
        Fits titles row := by
  simp only [readFields_eq_ok_iff, exists_and_left, exists_game_iff]
  constructor
  · rintro ⟨hwidth, hcolumns, hcells⟩
    rw [columns_titled hwidth, perm_all_iff] at hcolumns
    refine ⟨hcolumns, hwidth, fun title cell hmem column hcolumn => ?_⟩
    simp only [← Kind.readCell_eq_ok_iff]
    exact hcells column cell.trim (mem_zip_iff.2 ⟨title, cell, hmem, hcolumn, rfl⟩)
  · rintro ⟨hcolumns, hwidth, hcells⟩
    rw [columns_titled hwidth, perm_all_iff]
    refine ⟨hwidth, hcolumns, fun column t hmem => ?_⟩
    rcases mem_zip_iff.1 hmem with ⟨title, cell, hpair, hcolumn, rfl⟩
    simp only [Kind.readCell_eq_ok_iff]
    exact hcells title cell hpair column hcolumn

theorem holds_of_readFields
    (h : (titled titles).readFields (row.map Utf8.encode) = .ok game) : Holds titles row game := by
  intro title cell hmem column hcolumn
  have hgame := (readFields_eq_ok_iff.1 h).2
  have hcell := readCell_of_game hgame (mem_zip_iff.2 ⟨title, cell, hmem, hcolumn, rfl⟩)
  exact Kind.readCell_eq_ok_iff.1 hcell

end Header

theorem exists_forall₂_iff {α β : Type} {R : α → β → Prop} {l : List α} :
    (∃ m, List.Forall₂ R l m) ↔ ∀ a ∈ l, ∃ b, R a b := by
  induction l with
  | nil => simp
  | cons a rest ih =>
      simp only [List.forall₂_cons_left_iff, List.forall_mem_cons, ← ih]
      constructor
      · rintro ⟨_, b, m, hb, hm, rfl⟩
        exact ⟨⟨b, hb⟩, m, hm⟩
      · rintro ⟨⟨b, hb⟩, m, hm⟩
        exact ⟨b :: m, b, m, hb, hm, rfl⟩

end Csv

namespace Table

open Csv (Splits WellFormed Holds)

variable {t : Text} {titles : List Text} {rows : List (List Text)} {games : List Game}

theorem load_of_splits (h : Splits t titles rows) :
    load (Utf8.encode t) = .ok games ↔
      List.Forall₂ (fun row game =>
        (Csv.Header.titled titles).readFields (row.map Utf8.encode) = .ok game) rows games := by
  rcases List.map_eq_cons_iff.1 h with ⟨head, records, hrecords, hhead, hrest⟩
  rw [load_of_records hrecords, mapError_eq_ok_iff, hhead, Csv.Header.ofFields_map_encode,
    Csv.Header.readRecords_eq_ok_iff]
  -- A record is read as its fields are.
  rw [← List.forall₂_map_left_iff (f := Csv.Record.fields)
    (R := fun fields game => (Csv.Header.titled titles).readFields fields = .ok game), hrest,
    List.forall₂_map_left_iff]

theorem exists_load_iff (h : Splits t titles rows) (hrows : rows ≠ []) :
    (∃ games, load (Utf8.encode t) = .ok games) ↔ WellFormed titles rows := by
  simp only [load_of_splits h, Csv.exists_forall₂_iff, Csv.Header.exists_readFields_iff]
  constructor
  · intro hread
    -- The titles are checked with the rows, so there has to be one.
    rcases List.exists_mem_of_ne_nil rows hrows with ⟨row, hrow⟩
    exact ⟨(hread row hrow).1, fun row hrow => (hread row hrow).2⟩
  · intro hwell row hrow
    exact ⟨hwell.columns, hwell.rows row hrow⟩

/-- The tables with a header and a row that are loaded are the well-formed ones, and their games
hold what stands in the rows, one by one. -/
theorem load_text (t : Text) (h : 2 ≤ (Csv.records (Utf8.encode t)).length) :
    ∃ titles rows, rows ≠ [] ∧ Splits t titles rows ∧
      ((∃ games, load (Utf8.encode t) = .ok games) ↔ WellFormed titles rows) ∧
      ∀ games, load (Utf8.encode t) = .ok games → List.Forall₂ (Holds titles) rows games := by
  rcases Csv.exists_splits h with ⟨titles, rows, hrows, hsplits⟩
  refine ⟨titles, rows, hrows, hsplits, exists_load_iff hsplits hrows, fun games hgames => ?_⟩
  exact ((load_of_splits hsplits).1 hgames).imp fun _ _ => Csv.Header.holds_of_readFields

/-- Columns in another order and one more, white space, quotes, hexadecimal numbers with signs, and
the least number of 32 bits. -/
theorem load_text_hexadecimal :
    let t := "\uFEFF id ,average,avgweight,notes,yearpublished,rank,".toList ++
      "maxplaytime,minplaytime,maxplayers,minplayers,\u00A0objectname\r\n".toList ++
      "+7,1e1,-nan,0x8000000000000000,-2147483648,0x-1f,\" 0x+A\t\",0x0,007,-0,Go\r\n".toList
    let game : Game :=
      ⟨"Go".toList, 7, 0, 7, 0, 10, .quietNaN true, -31, ⟨0x4024000000000000⟩, -2147483648⟩
    load (Utf8.encode t) = .ok [game] ∧ ∃ titles rows,
      Splits t titles rows ∧ WellFormed titles rows ∧ List.Forall₂ (Holds titles) rows [game] := by
  intro t game
  have hlength : 2 ≤ (Csv.records (Utf8.encode t)).length := by decide +kernel
  have hload : load (Utf8.encode t) = .ok [game] := by decide +kernel
  rcases load_text t hlength with ⟨titles, rows, -, hsplits, haccepted, hgames⟩
  exact ⟨hload, titles, rows, hsplits, haccepted.1 ⟨[game], hload⟩, hgames [game] hload⟩

end Table
end GameShelf
